import DeclScan.CharSet.Basic
import DeclScan.Unicode.CombiningMark
import DeclScan.Unicode.Unprintable

/-!
A character set described in one line. Listed members are shown in order of code point, each between
single quotes, with escapes for what cannot be seen.
-/

namespace DeclScan

/-- The code point of `c` in lower-case hexadecimal, as `\u` and braces. -/
def escapeCode (c : Char) : String :=
  "\\u\x7b" ++ String.ofList (Nat.toDigits 16 c.toNat) ++ "\x7d"

/-- The characters that stand for `c` between quotes. -/
def escapeChar (c : Char) : String :=
  if c = '\x00' then "\\0"
  else if c = '\t' then "\\t"
  else if c = '\r' then "\\r"
  else if c = '\n' then "\\n"
  else if c = '\\' then "\\\\"
  else if c = '\'' then "\\'"
  else if Unicode.combiningMark.contains c || Unicode.unprintable.contains c then escapeCode c
  else String.singleton c

/-- The character between single quotes. -/
def quoteChar (c : Char) : String := "'" ++ escapeChar c ++ "'"

namespace CharSet

/-- The description of a set. A function has no text to show. -/
def describe : CharSet → String
  | whitespace => "Whitespace"
  | newlines => "Newlines"
  | whitespaceAndNewlines => "WhitespaceAndNewlines"
  | decimalDigits => "DecimalDigits"
  | letters => "Letters"
  | alphanumerics => "Alphanumerics"
  | listed members => "Chars([" ++ ", ".intercalate (members.toList.map quoteChar) ++ "])"
  | satisfying _ => "Predicate(..)"
  | complement inner => "Inverted(" ++ inner.describe ++ ")"

end CharSet

end DeclScan
