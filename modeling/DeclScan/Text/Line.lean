import DeclScan.Text.Bytes

/-!
A text as a sequence of lines. A line ends at LF, CR LF, a lone CR, U+0085, U+2028 or U+2029, and
keeps its ending; what follows the last ending is the last line, which may be empty.
-/

namespace DeclScan.Text

/-- How a line ends. -/
inductive LineEnding where
  | lineFeed
  | carriageReturn
  | carriageReturnLineFeed
  | nextLine
  | lineSeparator
  | paragraphSeparator
deriving DecidableEq

namespace LineEnding

def chars : LineEnding → List Char
  | lineFeed => ['\n']
  | carriageReturn => ['\r']
  | carriageReturnLineFeed => ['\r', '\n']
  | nextLine => ['\u0085']
  | lineSeparator => ['\u2028']
  | paragraphSeparator => ['\u2029']

/-- The ending that `c` is on its own. -/
def ofChar? (c : Char) : Option LineEnding :=
  if c = '\n' then some lineFeed
  else if c = '\r' then some carriageReturn
  else if c = '\u0085' then some nextLine
  else if c = '\u2028' then some lineSeparator
  else if c = '\u2029' then some paragraphSeparator
  else none

theorem chars_ofChar? {c : Char} {ending : LineEnding}
    (found : ofChar? c = some ending) : ending.chars = [c] := by
  unfold ofChar? at found
  split at found
  next equal => cases found; rw [equal]; rfl
  split at found
  next equal => cases found; rw [equal]; rfl
  split at found
  next equal => cases found; rw [equal]; rfl
  split at found
  next equal => cases found; rw [equal]; rfl
  split at found
  next equal => cases found; rw [equal]; rfl
  next => cases found

end LineEnding

/-- Whether `c` ends a line. Vertical tab and form feed do not. -/
def endsLine (c : Char) : Bool := (LineEnding.ofChar? c).isSome

/-- A line that has an ending. -/
structure Line where
  text : List Char
  ending : LineEnding
deriving DecidableEq

namespace Line

/-- The characters of the line, its ending included. -/
def chars (line : Line) : List Char := line.text ++ line.ending.chars

/-- The number of bytes of the line, its ending included. -/
def byteLength (line : Line) : Nat :=
  Text.byteLength line.text + Text.byteLength line.ending.chars

end Line

/-- A text cut into lines: those with an ending, then the rest. -/
structure Layout where
  ended : List Line
  last : List Char
deriving DecidableEq

namespace Layout

/-- Reads on from the middle of a line: `current` holds its characters so far and `found` the
lines before it, both latest first. -/
def scan : List Char → List Char → List Line → Layout
  | [], current, found => ⟨found.reverse, current.reverse⟩
  | '\r' :: '\n' :: rest, current, found =>
    scan rest [] (⟨current.reverse, .carriageReturnLineFeed⟩ :: found)
  | c :: rest, current, found =>
    match LineEnding.ofChar? c with
    | some ending => scan rest [] (⟨current.reverse, ending⟩ :: found)
    | none => scan rest (c :: current) found

/-- The lines of a text. -/
def ofText (text : List Char) : Layout := scan text [] []

/-- The text that the lines make up. -/
def chars (layout : Layout) : List Char := layout.ended.flatMap Line.chars ++ layout.last

/-- Lines found earlier stay in front of all others. -/
theorem scan_append (text current : List Char) (found earlier : List Line) :
    scan text current (found ++ earlier) =
      ⟨earlier.reverse ++ (scan text current found).ended, (scan text current found).last⟩ := by
  fun_induction scan text current found with
  | case1 current found => simp [scan]
  | case2 rest current found ih => rw [scan, ← List.cons_append, ih]
  | case3 c rest current found single ending known ih =>
    rw [scan, known]
    · exact ih
    · exact single
  | case4 c rest current found single plain ih =>
    rw [scan, plain]
    · exact ih
    · exact single

theorem scan_line (text : List Char) (line : Line) :
    scan text [] [line] = ⟨line :: (scan text [] []).ended, (scan text [] []).last⟩ :=
  scan_append text [] [] [line]

theorem scan_ending {c : Char} {rest current : List Char} {ending : LineEnding}
    (single : ∀ more, c = '\r' → rest = '\n' :: more → False)
    (known : LineEnding.ofChar? c = some ending) :
    scan (c :: rest) current [] =
      ⟨⟨current.reverse, ending⟩ :: (scan rest [] []).ended, (scan rest [] []).last⟩ := by
  rw [scan, known]
  · exact scan_line rest ⟨current.reverse, ending⟩
  · exact single

theorem chars_scan (text current : List Char) (found : List Line) :
    (scan text current found).chars =
      found.reverse.flatMap Line.chars ++ current.reverse ++ text := by
  fun_induction scan text current found with
  | case1 current found => simp [chars]
  | case2 rest current found ih =>
    rw [ih]
    simp [Line.chars, LineEnding.chars]
  | case3 c rest current found _ ending known ih =>
    rw [ih]
    simp [Line.chars, LineEnding.chars_ofChar? known]
  | case4 c rest current found _ _ ih =>
    rw [ih]
    simp

/-- The lines of a text make up the text. -/
theorem chars_ofText (text : List Char) : (ofText text).chars = text := by
  simp [ofText, chars_scan]

end Layout

end DeclScan.Text
