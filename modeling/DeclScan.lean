import DeclScan.CharSet.Description
import DeclScan.Main
import DeclScan.Proofs.DecimalForm
import DeclScan.Proofs.DecimalText
import DeclScan.Proofs.ExponentCut
import DeclScan.Proofs.LiteralScan
import DeclScan.Proofs.Locate
import DeclScan.Proofs.TypeLine
import DeclScan.Proofs.VariableLine
import DeclScan.Proofs.TextAhead
import DeclScan.Proofs.DeclarationLine
import DeclScan.Proofs.ExtractionReport
import DeclScan.Proofs.Machine.Basic
import DeclScan.Proofs.Machine.Numeral
import DeclScan.Proofs.Machine.Decimal
import DeclScan.Proofs.Machine.Double
import DeclScan.Proofs.Machine.FloatText
import DeclScan.Proofs.Machine.FloatScan
import DeclScan.Proofs.Machine.Scanner
import DeclScan.Proofs.Machine.Locate
import DeclScan.Proofs.Machine.Run
import DeclScan.Proofs.InputLines
import DeclScan.Proofs.StreamReading
import DeclScan.Proofs.IntegerScan
import DeclScan.Proofs.PositionOrder
import DeclScan.Proofs.LineText
import DeclScan.Proofs.TextEnd
import DeclScan.Proofs.CharacterRuns
import DeclScan.Proofs.Machine.Window
import DeclScan.Proofs.Machine.Precision
