import DeclScan.Declaration.Keyword
import DeclScan.Declaration.ParseError

/-!
Lines that declare a variable: modifiers, a binding keyword, then the name up to a colon.
-/

namespace DeclScan

/-- From where a variable can be reached. -/
inductive AccessModifier where
  | openAccess
  | publicAccess
  | internalAccess
  | privateAccess
  | filePrivateAccess
deriving DecidableEq

instance : Keyword AccessModifier where
  all := [.openAccess, .publicAccess, .internalAccess, .privateAccess, .filePrivateAccess]
  spelling
    | .openAccess => "open"
    | .publicAccess => "public"
    | .internalAccess => "internal"
    | .privateAccess => "private"
    | .filePrivateAccess => "fileprivate"

/-- Whether a variable can be assigned again. -/
inductive Binding where
  | letBinding
  | varBinding
deriving DecidableEq

instance : Keyword Binding where
  all := [.letBinding, .varBinding]
  spelling
    | .letBinding => "let"
    | .varBinding => "var"

/-- The modifier `weak`, which stands before or after the access modifier. -/
def weakKeyword : String := "weak"

/-- A declared variable. The name is all between the binding keyword and the colon, with the blanks
at its end. -/
structure VariableDeclaration where
  name : String
  access : Option AccessModifier
  isWeak : Bool
  binding : Binding
deriving DecidableEq

namespace VariableDeclaration

/-- The character that ends the name. -/
def delimiter : Char := ':'

/-- The modifiers before a binding keyword, and the scanner behind them. -/
def scanModifiers (scanner : Scanner) : (Option AccessModifier × Bool) × Scanner :=
  let (weakBefore, afterFirst) := scanner.scan (.literal weakKeyword.toList)
  let (access, afterAccess) := afterFirst.scanKeyword AccessModifier
  let (weakAfter, afterSecond) := afterAccess.scan (.literal weakKeyword.toList)
  ((access, weakBefore.isSome || weakAfter.isSome), afterSecond)

/-- Reads the declaration from `scanner` on. -/
def scan (scanner : Scanner) : Except ParseError VariableDeclaration :=
  let ((access, isWeak), afterModifiers) := scanModifiers scanner
  match afterModifiers.scanKeyword Binding with
  | (none, stopped) =>
    .error (.expectedKeyword ((Keyword.all : List Binding).map Keyword.spelling) stopped.position)
  | (some binding, afterBinding) =>
    match afterBinding.scan (.upTo [delimiter]) with
    | (none, stopped) => .error (.missingDelimiter delimiter stopped.position)
    | (some name, _) => .ok ⟨String.ofList name, access, isWeak, binding⟩

/-- The variable that `line` declares. -/
def parse (line : String) : Except ParseError VariableDeclaration :=
  scan (.ofText line.toList)

end VariableDeclaration

end DeclScan
