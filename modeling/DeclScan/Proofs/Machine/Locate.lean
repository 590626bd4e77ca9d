import DeclScan.Proofs.Locate
import DeclScan.Proofs.Machine.Basic

/-!
Positions in a text of bytes.

`locate` moves an offset back to a character boundary and then walks the lines from the start of the
text, each from its own offset to the end of its ending. In a text of fewer than `2 ^ 63` bytes every
span that it cuts is one of the text, no count leaves its word and both loops end (`locate_eq`).
-/

namespace DeclScan.Machine

open Text

/-! ### Character boundaries -/

/-- Whether a byte offset lies between two characters, or at an end of the text. -/
def isBoundary (source : List Char) (offset : ℕ) : Bool := (dropBytes? source offset).isSome

/-- The last character boundary up to an offset, found by counting down. -/
def floor (source : List Char) : ℕ → Checked ℕ
  | 0 => if isBoundary source 0 then .ok 0 else .error .overflow
  | offset + 1 => if isBoundary source (offset + 1) then .ok (offset + 1) else floor source offset

theorem dropBytes?_eq_some {text rest : List Char} {count : ℕ}
    (found : dropBytes? text count = some rest) :
    ∃ front, text = front ++ rest ∧ byteLength front = count := by
  fun_induction dropBytes? text count with
  | case1 text =>
    cases found
    exact ⟨[], rfl, rfl⟩
  | case2 => cases found
  | case3 c rest count fits ih =>
    obtain ⟨front, rfl, length⟩ := ih found
    refine ⟨c :: front, rfl, ?_⟩
    rw [byteLength_cons, length]
    omega
  | case4 => cases found

theorem isBoundary_iff {source : List Char} {offset : ℕ} :
    isBoundary source offset = true ↔
      String.Pos.Raw.IsValid (String.ofList source) ⟨offset⟩ := by
  rw [isValid_iff, isBoundary, Option.isSome_iff_exists]
  constructor
  · rintro ⟨rest, found⟩
    obtain ⟨front, split, length⟩ := dropBytes?_eq_some found
    exact ⟨front, rest, split, length⟩
  · rintro ⟨front, back, rfl, rfl⟩
    exact ⟨back, dropBytes?_append front back⟩

theorem floor_spec (source : List Char) (offset : ℕ) :
    ∃ place, floor source offset = .ok place ∧
      IsGreatest {p | String.Pos.Raw.IsValid (String.ofList source) ⟨p⟩ ∧ p ≤ offset} place := by
  induction offset with
  | zero =>
    have start : isBoundary source 0 = true := isBoundary_iff.mpr (isValid_byteLength [] source)
    exact ⟨0, if_pos start, ⟨isBoundary_iff.mp start, le_rfl⟩, fun _ other => other.2⟩
  | succ offset ih =>
    by_cases boundary : isBoundary source (offset + 1) = true
    · exact ⟨offset + 1, if_pos boundary, ⟨isBoundary_iff.mp boundary, le_rfl⟩,
        fun _ other => other.2⟩
    · obtain ⟨place, found, ⟨valid, within⟩, greatest⟩ := ih
      refine ⟨place, (if_neg boundary).trans found, ⟨valid, by omega⟩, ?_⟩
      rintro other ⟨valid', within'⟩
      have less : other ≠ offset + 1 := by
        rintro rfl
        exact boundary (isBoundary_iff.mpr valid')
      exact greatest ⟨valid', by omega⟩

theorem floor_eq (source : List Char) (offset : ℕ) :
    floor source (min offset (byteLength source)) =
      .ok (byteLength (source.take (charsWithin source offset))) := by
  obtain ⟨place, found, greatest⟩ := floor_spec source (min offset (byteLength source))
  have floor := isFloor_take source offset
  rw [IsFloor, utf8ByteSize_ofList] at floor
  rw [found, greatest.unique floor]

/-! ### Lines -/

/-- How many bytes stand before the first line ending in a text and how many it takes, if there is
one. The text is read on from byte `place`. -/
def firstEnding : List Char → (place : ℕ) → Option (ℕ × ℕ)
  | [], _ => none
  | '\r' :: '\n' :: _, place => some (place, 2)
  | c :: rest, place =>
    if endsLine c then some (place, c.utf8Size) else firstEnding rest (place + c.utf8Size)

/-- Where the line that starts at a byte offset ends, and whether an ending ends it. -/
def lineEnd (source : List Char) (start : ℕ) : Checked (ℕ × Bool) := do
  let rest ← tail source start
  match firstEnding rest 0 with
  | some (place, size) => return (← word (start + place + size), true)
  | none => return (byteLength source, false)

/-- Walks the lines from byte `start` on, which begins row `row`, to the one that holds `offset`. -/
def locateFrom (source : List Char) (offset start row : ℕ) : Checked Position := do
  let (stop, ended) ← lineEnd source start
  if passed : ended ∧ stop ≤ offset then
    if ahead : start < stop then
      let row ← word (row + 1)
      locateFrom source offset stop row
    else .error .endless
  else
    let line ← cut source start offset
    let column ← word (line.length + 1)
    return ⟨start, stop, row, column⟩
termination_by offset - start

/-- The position of a byte offset. -/
def locate (source : List Char) (offset : ℕ) : Checked Position := do
  let place ← floor source (min offset (byteLength source))
  locateFrom source place 0 1

theorem firstEnding_plain {front : List Char} (plain : ∀ c ∈ front, endsLine c = false)
    (rest : List Char) (place : ℕ) :
    firstEnding (front ++ rest) place = firstEnding rest (place + byteLength front) := by
  induction front generalizing place with
  | nil => rfl
  | cons c front ih =>
    have ordinary : endsLine c = false := plain c List.mem_cons_self
    have single : ∀ more, c = '\r' → front ++ rest = '\n' :: more → False := by
      rintro more rfl
      exact absurd ordinary (by decide)
    rw [List.cons_append, firstEnding, ordinary, if_neg Bool.false_ne_true,
      ih fun d member => plain d (List.mem_cons_of_mem c member), byteLength_cons, Nat.add_assoc]
    exact single

theorem firstEnding_ending (ending : LineEnding) {rest : List Char}
    (lone : ending = .carriageReturn → rest.head? ≠ some '\n') (place : ℕ) :
    firstEnding (ending.chars ++ rest) place = some (place, byteLength ending.chars) := by
  cases ending with
  | carriageReturn =>
    have single : ∀ more, '\r' = '\r' → rest = '\n' :: more → False := by
      rintro more - rfl
      exact lone rfl rfl
    rw [LineEnding.chars, List.cons_append, List.nil_append, firstEnding]
    · rfl
    · exact single
  | lineFeed => rfl
  | carriageReturnLineFeed => rfl
  | nextLine => rfl
  | lineSeparator => rfl
  | paragraphSeparator => rfl

/-! ### Walking the lines -/

section

variable {front : List Char}

theorem lineEnd_last {rest : List Char} (plain : ∀ c ∈ rest, endsLine c = false) :
    lineEnd (front ++ rest) (byteLength front) = .ok (byteLength (front ++ rest), false) := by
  have none := firstEnding_plain plain [] 0
  rw [List.append_nil, firstEnding] at none
  rw [lineEnd, tail_append, ok_bind, none]
  rfl

theorem lineEnd_line (line : Line) {rest : List Char}
    (plain : ∀ c ∈ line.text, endsLine c = false)
    (lone : line.ending = .carriageReturn → rest.head? ≠ some '\n')
    (short : byteLength (front ++ (line.chars ++ rest)) < 2 ^ 63) :
    lineEnd (front ++ (line.chars ++ rest)) (byteLength front) =
      .ok (byteLength front + line.byteLength, true) := by
  have first : firstEnding (line.chars ++ rest) 0 =
      some (0 + byteLength line.text, byteLength line.ending.chars) := by
    rw [Line.chars, List.append_assoc, firstEnding_plain plain, firstEnding_ending line.ending lone]
  rw [byteLength_append, byteLength_append, byteLength_chars] at short
  rw [lineEnd, tail_append, ok_bind, first]
  dsimp only
  rw [Nat.zero_add, Nat.add_assoc, ← Line.byteLength, word_of_lt (by omega)]
  rfl

theorem length_le_byteLength (text : List Char) : text.length ≤ byteLength text := by
  induction text with
  | nil => exact le_rfl
  | cons c rest ih =>
    have positive := c.utf8Size_pos
    rw [List.length_cons, byteLength_cons]
    omega

/-- Up to a boundary behind `front` as many characters stand as end within it. -/
theorem cut_to_boundary {rest before after : List Char} (split : front ++ rest = before ++ after)
    (reached : byteLength front ≤ byteLength before) :
    ∃ between, cut (front ++ rest) (byteLength front) (byteLength before) = .ok between ∧
      between.length = charsWithin rest (byteLength before - byteLength front) := by
  obtain ⟨between, rfl⟩ : front <+: before := by
    rcases List.append_eq_append_iff.mp split with ⟨more, rfl, -⟩ | ⟨more, rfl, -⟩
    · exact List.prefix_append _ _
    · rw [byteLength_append] at reached
      have nothing : more = [] := by
        cases more with
        | nil => rfl
        | cons c more =>
          have positive := c.utf8Size_pos
          rw [byteLength_cons] at reached
          omega
      rw [nothing, List.append_nil]
  rw [List.append_assoc] at split
  obtain rfl := List.append_cancel_left split
  refine ⟨between, ?_, ?_⟩
  · rw [← List.append_assoc, cut_append]
  · rw [byteLength_append, Nat.add_sub_cancel_left, charsWithin_append]

theorem locateFrom_stop {rest before after : List Char} {stop row : ℕ} {ended : Bool}
    (split : front ++ rest = before ++ after) (reached : byteLength front ≤ byteLength before)
    (short : byteLength (front ++ rest) < 2 ^ 63)
    (line : lineEnd (front ++ rest) (byteLength front) = .ok (stop, ended))
    (holds : ¬(ended ∧ stop ≤ byteLength before)) :
    locateFrom (front ++ rest) (byteLength before) (byteLength front) row =
      .ok ⟨byteLength front, stop, row,
        charsWithin rest (byteLength before - byteLength front) + 1⟩ := by
  obtain ⟨between, found, length⟩ := cut_to_boundary split reached
  have few := (charsWithin_le rest (byteLength before - byteLength front)).trans
    (length_le_byteLength rest)
  rw [byteLength_append] at short
  rw [locateFrom, line, ok_bind]
  dsimp only
  rw [dif_neg holds, found, ok_bind, length, word_of_lt (by omega)]
  rfl

theorem locateFrom_eq {rest last before after : List Char} {lines : List Line} {row : ℕ}
    (layout : Layout.Cut rest lines last) (split : front ++ rest = before ++ after)
    (reached : byteLength front ≤ byteLength before)
    (short : byteLength (front ++ rest) < 2 ^ 63) (rows : row ≤ byteLength front + 1) :
    locateFrom (front ++ rest) (byteLength before) (byteLength front) row =
      .ok (Position.walk (byteLength before) last lines (byteLength front) row) := by
  induction layout generalizing front row with
  | last plain =>
    rw [locateFrom_stop split reached short (lineEnd_last plain) (by simp), Position.walk,
      byteLength_append]
  | @line line rest lines last plain lone more ih =>
    have found := lineEnd_line line plain lone short
    rw [Position.walk]
    split
    next passed =>
      have positive := byteLength_line_pos line
      have length : byteLength front + line.byteLength = byteLength (front ++ line.chars) := by
        rw [byteLength_append, byteLength_chars]
      have room := short
      rw [byteLength_append] at room
      rw [locateFrom, found, ok_bind]
      dsimp only
      rw [dif_pos ⟨rfl, passed⟩, dif_pos (by omega), word_of_lt (by omega), ok_bind, length,
        ← List.append_assoc]
      rw [← List.append_assoc] at split short
      exact ih split (length ▸ passed) short (by omega)
    next holds =>
      rw [locateFrom_stop split reached short found (by simp [holds]), charsWithin_append_of_lt]
      rw [byteLength_chars]
      omega

end

/-- An offset inside a character is located where the character starts. -/
theorem locate_floor (source : List Char) (offset : ℕ) :
    DeclScan.locate source (byteLength (source.take (charsWithin source offset))) =
      DeclScan.locate source offset := by
  have stands := Position.isAt_locate source (byteLength (source.take (charsWithin source offset)))
  have within := charsWithin_append (source.take (charsWithin source offset))
    (source.drop (charsWithin source offset))
  rw [List.take_append_drop] at within
  rw [within, ← List.prefix_iff_eq_take.mp (List.take_prefix _ _)] at stands
  exact stands.unique (Position.isAt_locate source offset)

/-- In a text of fewer than `2 ^ 63` bytes every offset is located without a fault. -/
theorem locate_eq {source : List Char} (short : byteLength source < 2 ^ 63) (offset : ℕ) :
    locate source offset = .ok (DeclScan.locate source offset) := by
  have boundary := List.take_append_drop (charsWithin source offset) source
  have walked : locateFrom ([] ++ source) _ (byteLength []) 1 = _ :=
    locateFrom_eq (Layout.cut_ofText source) boundary.symm (Nat.zero_le _) short le_rfl
  rw [locate, floor_eq, ok_bind, ← locate_floor, locate_eq_walk]
  exact walked

end DeclScan.Machine
