import DeclScan.Text.Line

/-!
Where a byte offset lies in a text: the span of its line, the row, and the column in characters.

The position is found in one reading up to the end of its line (`locate`); that it is the position
among the lines of the text is `locate_eq_walk`.
-/

namespace DeclScan

open Text

/-- A place in a text. `start` and `stop` are the byte span of the line, its ending included; row
and column count from one, the column in characters. -/
structure Position where
  start : Nat
  stop : Nat
  row : Nat
  column : Nat
deriving DecidableEq

namespace Position

/-- `row:column`. -/
def render (position : Position) : String :=
  position.row.repr ++ ":" ++ position.column.repr

/-- The text of the position's line in `source`, without the line endings after it; empty when the
span is none of `source`. -/
def lineText (position : Position) (source : List Char) : List Char :=
  match slice? source position.start position.stop with
  | some line => (line.reverse.dropWhile endsLine).reverse
  | none => []

/-- Walks the lines from byte `start` on, which begins row `row`, to the one that holds `offset`. A
line with an ending holds the offsets before its end, the last line all that follow. -/
def walk (offset : Nat) (last : List Char) : List Line → (start row : Nat) → Position
  | [], start, row =>
    ⟨start, start + byteLength last, row, charsWithin last (offset - start) + 1⟩
  | line :: rest, start, row =>
    if start + line.byteLength ≤ offset then
      walk offset last rest (start + line.byteLength) (row + 1)
    else
      ⟨start, start + line.byteLength, row, charsWithin line.chars (offset - start) + 1⟩

/-- Reads on from byte `place` to the end of the line that holds `offset`. The line read so far
begins at byte `start` in row `row`, and `column - 1` of its characters end within `offset`. -/
def seek (offset : Nat) : List Char → (start row column place : Nat) → Position
  | [], start, row, column, place => ⟨start, place, row, column⟩
  | '\r' :: '\n' :: rest, start, row, column, place =>
    if place + 2 ≤ offset then seek offset rest (place + 2) (row + 1) 1 (place + 2)
    else ⟨start, place + 2, row, if place + 1 ≤ offset then column + 1 else column⟩
  | c :: rest, start, row, column, place =>
    let next := place + c.utf8Size
    if endsLine c then
      if next ≤ offset then seek offset rest next (row + 1) 1 next else ⟨start, next, row, column⟩
    else seek offset rest start row (if next ≤ offset then column + 1 else column) next

/-- Reading on reaches the position that the lines of the text give. -/
theorem seek_eq_walk (offset : Nat) (text current : List Char) (start row column place : Nat)
    (reached : start ≤ offset) (standing : place = start + byteLength current)
    (counted : column = charsWithin current.reverse (offset - start) + 1) :
    seek offset text start row column place =
      walk offset (Layout.scan text current []).last (Layout.scan text current []).ended
        start row := by
  fun_induction seek offset text start row column place generalizing current with
  | case1 start row column place => simp [Layout.scan, walk, standing, counted]
  | case2 rest start row column place within ih =>
    have length : Line.byteLength ⟨current.reverse, .carriageReturnLineFeed⟩ =
        byteLength current + 2 := by
      simp [Line.byteLength, LineEnding.chars, Char.utf8Size]
    rw [Layout.scan, Layout.scan_line, walk, length, if_pos (by omega), ← Nat.add_assoc,
      ← standing]
    exact ih [] within rfl rfl
  | case3 rest start row column place beyond =>
    have length : Line.byteLength ⟨current.reverse, .carriageReturnLineFeed⟩ =
        byteLength current + 2 := by
      simp [Line.byteLength, LineEnding.chars, Char.utf8Size]
    have chars : Line.chars ⟨current.reverse, .carriageReturnLineFeed⟩ =
        (current.reverse ++ ['\r']) ++ ['\n'] := by
      simp [Line.chars, LineEnding.chars]
    have size : '\r'.utf8Size = 1 ∧ '\n'.utf8Size = 1 := ⟨rfl, rfl⟩
    have outside : ¬start + (byteLength current + 2) ≤ offset := by omega
    rw [Layout.scan, Layout.scan_line, walk, length, if_neg outside, chars,
      charsWithin_concat_of_lt, charsWithin_concat, byteLength_reverse, size.1, standing,
      Nat.add_assoc start]
    · congr 1
      split <;> split <;> omega
    · rw [byteLength_append, byteLength_reverse, byteLength_cons, byteLength_nil, size.1, size.2]
      omega
  | case4 c rest start row column place single next ends within ih =>
    obtain ⟨ending, known⟩ := Option.isSome_iff_exists.mp ends
    have length : Line.byteLength ⟨current.reverse, ending⟩ = byteLength current + c.utf8Size := by
      simp [Line.byteLength, LineEnding.chars_ofChar? known]
    rw [Layout.scan_ending single known, walk, length, if_pos (by omega), ← Nat.add_assoc,
      ← standing]
    exact ih [] within rfl rfl
  | case5 c rest start row column place single next ends beyond =>
    obtain ⟨ending, known⟩ := Option.isSome_iff_exists.mp ends
    have length : Line.byteLength ⟨current.reverse, ending⟩ = byteLength current + c.utf8Size := by
      simp [Line.byteLength, LineEnding.chars_ofChar? known]
    rw [Layout.scan_ending single known, walk, length, if_neg (by omega), Line.chars,
      LineEnding.chars_ofChar? known, charsWithin_concat_of_lt, ← counted, ← Nat.add_assoc,
      ← standing]
    rw [byteLength_reverse]
    omega
  | case6 c rest start row column place single next plain ih =>
    have known : LineEnding.ofChar? c = none := by simpa [endsLine] using plain
    rw [Layout.scan, known]
    · apply ih (c :: current) reached
      · rw [byteLength_cons]
        omega
      · rw [List.reverse_cons, charsWithin_concat, byteLength_reverse]
        split <;> split <;> omega
    · exact single

end Position

/-- The position of a byte offset. An offset past the end counts as the end, and one inside a
character as the start of that character. -/
def locate (source : List Char) (offset : Nat) : Position :=
  Position.seek offset source 0 1 1 0

/-- A position is found by walking the lines to the one that holds the offset. -/
theorem locate_eq_walk (source : List Char) (offset : Nat) :
    locate source offset =
      Position.walk offset (Layout.ofText source).last (Layout.ofText source).ended 0 1 :=
  Position.seek_eq_walk offset source [] 0 1 1 0 (Nat.zero_le offset) rfl rfl

end DeclScan
