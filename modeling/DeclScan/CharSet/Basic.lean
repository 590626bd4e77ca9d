import DeclScan.Text.Bytes
import DeclScan.Unicode.Alphabetic
import DeclScan.Unicode.Numeric
import Std.Data.ExtTreeSet

/-!
Sets of characters: named classes, listed members, functions, and complements of these.
-/

namespace DeclScan

/-- Tab and the space separators. -/
def isBlank (c : Char) : Bool :=
  c == '\t' || c == ' ' || c == '\u00a0' || c == '\u1680' ||
    ('\u2000' ≤ c && c ≤ '\u200a') || c == '\u202f' || c == '\u205f' || c == '\u3000'

/-- Line feed, vertical tab, form feed, carriage return and the three line separators beyond
ASCII. -/
def isNewline (c : Char) : Bool :=
  ('\n' ≤ c && c ≤ '\r') || c == '\u0085' || c == '\u2028' || c == '\u2029'

/-- A set of characters. Letters and numbers are those of Unicode, decimal digits those of
ASCII. -/
inductive CharSet where
  | whitespace
  | newlines
  | whitespaceAndNewlines
  | decimalDigits
  | letters
  | alphanumerics
  | listed (members : Std.ExtTreeSet Char)
  | satisfying (accepts : Char → Bool)
  | complement (inner : CharSet)

namespace CharSet

/-- The characters of `text`. Neither their order nor their repetition counts. -/
def ofChars (text : List Char) : CharSet := listed (.ofList text)

/-- The characters that are not members. A complement gives back the set inside it. -/
def invert : CharSet → CharSet
  | complement inner => inner
  | set => complement set

/-- Whether `c` is a member. -/
def contains : CharSet → Char → Bool
  | whitespace, c => isBlank c
  | newlines, c => isNewline c
  | whitespaceAndNewlines, c => isBlank c || isNewline c
  | decimalDigits, c => c.isDigit
  | letters, c => Unicode.alphabetic.contains c
  | alphanumerics, c => Unicode.alphabetic.contains c || Unicode.numeric.contains c
  | listed members, c => members.contains c
  | satisfying accepts, c => accepts c
  | complement inner, c => !inner.contains c

/-- The longest run of members at the start of `text`. -/
def leading (set : CharSet) (text : List Char) : List Char :=
  text.takeWhile set.contains

/-- The part of `text` before its first member, or all of it. -/
def before (set : CharSet) (text : List Char) : List Char :=
  text.takeWhile fun c => !set.contains c

/-- The number of bytes of the longest run of members at the start of `text`. -/
def leadingLength (set : CharSet) (text : List Char) : Nat :=
  Text.byteLength (set.leading text)

/-- The byte offset of the first member in `text`, or the length of `text`. -/
def firstMember (set : CharSet) (text : List Char) : Nat :=
  Text.byteLength (set.before text)

@[simp] theorem contains_ofChars (text : List Char) (c : Char) :
    (ofChars text).contains c = text.contains c :=
  Std.ExtTreeSet.contains_ofList

@[simp] theorem contains_complement (set : CharSet) (c : Char) :
    (complement set).contains c = !set.contains c := rfl

@[simp] theorem contains_invert (set : CharSet) (c : Char) :
    set.invert.contains c = !set.contains c := by
  cases set <;> simp [invert, contains]

end CharSet

end DeclScan
