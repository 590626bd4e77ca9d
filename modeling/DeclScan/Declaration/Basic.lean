import DeclScan.Declaration.TypeDeclaration
import DeclScan.Declaration.VariableDeclaration

/-!
Lines that declare a type or a variable.
-/

namespace DeclScan

/-- What a line declares. -/
inductive Declaration where
  | ofType (declaration : TypeDeclaration)
  | ofVariable (declaration : VariableDeclaration)
deriving DecidableEq

namespace Declaration

def name : Declaration → String
  | ofType declaration => declaration.name
  | ofVariable declaration => declaration.name

/-- The type that `line` declares, else the variable. A line that declares neither fails as a
variable does. -/
def parse (line : String) : Except ParseError Declaration :=
  match TypeDeclaration.parse line with
  | .ok declaration => .ok (ofType declaration)
  | .error _ => (VariableDeclaration.parse line).map ofVariable

end Declaration

end DeclScan
