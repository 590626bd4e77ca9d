import DeclScan.Declaration.Keyword
import DeclScan.Declaration.ParseError

/-!
Lines that declare a type: a keyword, then the name up to an opening brace.
-/

namespace DeclScan

/-- The kinds of declared types. -/
inductive TypeKind where
  | struct
  | enum
deriving DecidableEq

instance : Keyword TypeKind where
  all := [.struct, .enum]
  spelling
    | .struct => "struct"
    | .enum => "enum"

/-- A declared type. The name is all between the keyword and the brace, an inheritance clause
included, without the spaces around it. -/
structure TypeDeclaration where
  kind : TypeKind
  name : String
deriving DecidableEq

namespace TypeDeclaration

/-- The character that ends the name. -/
def delimiter : Char := '\x7b'

/-- `text` without the spaces at both ends. Only U+0020 counts as a space here. -/
def trimSpaces (text : List Char) : List Char :=
  ((text.dropWhile (· == ' ')).reverse.dropWhile (· == ' ')).reverse

/-- Reads the declaration from `scanner` on. -/
def scan (scanner : Scanner) : Except ParseError TypeDeclaration :=
  match scanner.scanKeyword TypeKind with
  | (none, stopped) =>
    .error (.expectedKeyword ((Keyword.all : List TypeKind).map Keyword.spelling) stopped.position)
  | (some kind, afterKeyword) =>
    match afterKeyword.scan (.upTo [delimiter]) with
    | (none, stopped) => .error (.missingDelimiter delimiter stopped.position)
    | (some name, _) => .ok ⟨kind, String.ofList (trimSpaces name)⟩

/-- The type that `line` declares. -/
def parse (line : String) : Except ParseError TypeDeclaration :=
  scan (.ofText line.toList)

end TypeDeclaration

end DeclScan
