import DeclScan.Position

/-!
Why a line declares nothing.
-/

namespace DeclScan

/-- The first thing that a line lacks, and where. -/
inductive ParseError where
  /-- None of the keywords comes at the position. -/
  | expectedKeyword (keywords : List String) (position : Position)
  /-- Nothing comes between the position and the delimiter of the name. -/
  | missingDelimiter (delimiter : Char) (position : Position)
deriving DecidableEq

namespace ParseError

/-- The keywords in backquotes, with "or" between them. -/
def alternatives (keywords : List String) : String :=
  " or ".intercalate (keywords.map fun keyword => "`" ++ keyword ++ "`")

/-- Where the line stopped making sense. -/
def position : ParseError → Position
  | expectedKeyword _ position => position
  | missingDelimiter _ position => position

/-- The message for a reader of the line. -/
def message : ParseError → String
  | expectedKeyword keywords position =>
    position.render ++ ": expected " ++ alternatives keywords
  | missingDelimiter delimiter position =>
    position.render ++ ": expected a name before `" ++ String.singleton delimiter ++ "`"

end ParseError

end DeclScan
