import DeclScan.Position
import DeclScan.Proofs.LineEndings
import DeclScan.Proofs.Utf8
import Mathlib.Order.Bounds.Basic

/-!
Where an offset lies among the lines of a text.

## Main result

`locate_unique`: the position of an offset is the one whose line begins with the text or behind a
line ending, ends with the next one, and holds the offset; its row counts the endings before the line
and its column the characters before the offset. The lines of all offsets tile the text.

## Proof strategy

Finding a position walks the lines of the text (`locate_eq_walk`), so it splits them into those that
are passed, the one that is reached, and the others (`Position.walk_split`). What is asked of a
position is then a matter of where the endings of these lines stand.
-/

namespace DeclScan

namespace Text

/-! ### Character boundaries -/

theorem isValid_iff {source : List Char} {place : ℕ} :
    String.Pos.Raw.IsValid (String.ofList source) ⟨place⟩ ↔
      ∃ front back, source = front ++ back ∧ byteLength front = place := by
  constructor
  · intro valid
    obtain ⟨left, right, split, length⟩ := String.Pos.Raw.isValid_iff_exists_append.mp valid
    refine ⟨left.toList, right.toList, ?_, ?_⟩
    · rw [← String.toList_append, ← split, String.toList_ofList]
    · rw [← utf8ByteSize_ofList, String.ofList_toList]
      exact (congrArg String.Pos.Raw.byteIdx length).symm
  · rintro ⟨front, back, rfl, rfl⟩
    exact isValid_byteLength front back

theorem charsWithin_cons (c : Char) (text : List Char) (count : ℕ) :
    charsWithin (c :: text) count =
      if c.utf8Size ≤ count then charsWithin text (count - c.utf8Size) + 1 else 0 := by
  have found (text : List Char) (count found : ℕ) :
      charsWithin.go text count found = charsWithin.go text count 0 + found := by
    induction text generalizing count found with
    | nil => simp [charsWithin.go]
    | cons c rest ih =>
      rw [charsWithin.go, charsWithin.go]
      split
      · rw [ih, ih _ (0 + 1)]
        omega
      · omega
  rw [charsWithin, charsWithin.go]
  split
  · exact found _ _ _
  · rfl

/-- Behind a text that ends within the bytes, the count goes on. -/
theorem charsWithin_append_of_le (front back : List Char) {count : ℕ}
    (within : byteLength front ≤ count) :
    charsWithin (front ++ back) count =
      front.length + charsWithin back (count - byteLength front) := by
  induction front generalizing count with
  | nil => simp
  | cons c rest ih =>
    rw [byteLength_cons] at within
    rw [List.cons_append, charsWithin_cons, if_pos (by omega), ih (by omega), byteLength_cons,
      List.length_cons, Nat.sub_sub]
    omega

/-- A text that ends behind the bytes has all characters that count. -/
theorem charsWithin_append_of_lt (front back : List Char) {count : ℕ}
    (beyond : count < byteLength front) : charsWithin (front ++ back) count = charsWithin front count := by
  induction front generalizing count with
  | nil => simp at beyond
  | cons c rest ih =>
    rw [byteLength_cons] at beyond
    rw [List.cons_append, charsWithin_cons, charsWithin_cons]
    split
    · rw [ih (by omega)]
    · rfl

/-- The characters that end within the bytes do so, and no more of them do. -/
theorem byteLength_le_iff (front back : List Char) (count : ℕ) :
    byteLength front ≤ count ↔ front.length ≤ charsWithin (front ++ back) count := by
  induction front generalizing count with
  | nil => simp
  | cons c rest ih =>
    rw [byteLength_cons, List.cons_append, charsWithin_cons, List.length_cons]
    split
    next fits =>
      rw [Nat.add_le_add_iff_right, ← ih]
      omega
    next => omega

theorem byteLength_le_of_prefix {front text : List Char} (start : front <+: text) :
    byteLength front ≤ byteLength text := by
  obtain ⟨back, rfl⟩ := start
  rw [byteLength_append]
  exact Nat.le_add_right _ _

/-- The last character boundary of `source` that is not behind `offset`. -/
def IsFloor (source : List Char) (offset place : ℕ) : Prop :=
  IsGreatest {p | String.Pos.Raw.IsValid (String.ofList source) ⟨p⟩ ∧
    p ≤ min offset (String.ofList source).utf8ByteSize} place

theorem charsWithin_le (text : List Char) (count : ℕ) : charsWithin text count ≤ text.length := by
  induction text generalizing count with
  | nil => exact le_rfl
  | cons c rest ih =>
    rw [charsWithin_cons]
    split
    · exact Nat.succ_le_succ (ih _)
    · exact Nat.zero_le _

/-- The characters that end within `offset` reach up to the last boundary there. -/
theorem isFloor_take (source : List Char) (offset : ℕ) :
    IsFloor source offset (byteLength (source.take (charsWithin source offset))) := by
  have split := List.take_append_drop (charsWithin source offset) source
  constructor
  · refine ⟨isValid_iff.mpr ⟨_, _, split.symm, rfl⟩, le_min ?_ ?_⟩
    · rw [byteLength_le_iff _ (source.drop (charsWithin source offset)), split, List.length_take]
      exact min_le_left _ _
    · rw [utf8ByteSize_ofList]
      exact byteLength_le_of_prefix (List.take_prefix _ _)
  · rintro place ⟨valid, bound⟩
    obtain ⟨front, back, rfl, rfl⟩ := isValid_iff.mp valid
    -- a boundary up to the offset has no more characters before it
    have few := (byteLength_le_iff front back offset).mp (bound.trans (min_le_left _ _))
    exact byteLength_le_of_prefix
      (List.prefix_take_iff.mpr ⟨List.prefix_append _ _, few⟩)

end Text

open Text

/-! ### Walking the lines -/

namespace Position

/-- The text of the line that comes first, its ending included. -/
def headLine (last : List Char) : List Line → List Char
  | [] => last
  | line :: _ => line.chars

/-- Walking passes the lines that end up to the offset and stops at the next one. -/
theorem walk_split (offset : ℕ) (last : List Char) (lines : List Line) {start : ℕ} (row : ℕ)
    (reached : start ≤ offset) :
    ∃ passed rest, lines = passed ++ rest ∧
      let begin := start + byteLength (passed.flatMap Line.chars)
      let current := headLine last rest
      begin ≤ offset ∧ (rest ≠ [] → offset < begin + byteLength current) ∧
        walk offset last lines start row =
          ⟨begin, begin + byteLength current, row + passed.length,
            charsWithin current (offset - begin) + 1⟩ := by
  induction lines generalizing start row with
  | nil => exact ⟨[], [], rfl, reached, fun some => absurd rfl some, rfl⟩
  | cons line lines ih =>
    rw [walk]
    split
    next within =>
      obtain ⟨passed, rest, rfl, inside, before, walked⟩ := ih (row + 1) within
      refine ⟨line :: passed, rest, rfl, ?_⟩
      rw [List.flatMap_cons, byteLength_append, byteLength_chars, ← Nat.add_assoc,
        List.length_cons, Nat.add_comm passed.length, ← Nat.add_assoc]
      exact ⟨inside, before, walked⟩
    next beyond =>
      refine ⟨[], line :: lines, rfl, reached, fun _ => ?_, ?_⟩
      · rw [headLine, byteLength_chars]
        exact not_le.mp beyond
      · rw [headLine, byteLength_chars]
        rfl

/-- Finding a position passes the lines that end up to the offset and stops at the next one. -/
theorem locate_split (source : List Char) (offset : ℕ) :
    ∃ passed rest, (Layout.ofText source).ended = passed ++ rest ∧
      let begin := byteLength (passed.flatMap Line.chars)
      let current := headLine (Layout.ofText source).last rest
      begin ≤ offset ∧ (rest ≠ [] → offset < begin + byteLength current) ∧
        locate source offset = ⟨begin, begin + byteLength current, 1 + passed.length,
          charsWithin current (offset - begin) + 1⟩ := by
  obtain ⟨passed, rest, split, walked⟩ :=
    walk_split offset (Layout.ofText source).last (Layout.ofText source).ended 1 (Nat.zero_le offset)
  rw [Nat.zero_add, ← locate_eq_walk] at walked
  exact ⟨passed, rest, split, walked⟩

/-! ### The line that is reached -/

/-- `position` tells where the character boundary `place` lies in `source`. Its line begins with the
text or behind an ending, and stops behind the next one or with the text; the row counts the endings
before the line, and the column the characters of the line before `place`. -/
structure IsAt (position : Position) (source : List Char) (place : ℕ) : Prop where
  begins : position.start = 0 ∨ ∃ p, EndingAt source p position.start
  reaches : position.start ≤ place
  stops :
    (∃ p, position.start ≤ p ∧ EndingAt source p position.stop ∧
        (∀ p' q, position.start ≤ p' → EndingAt source p' q → p ≤ p') ∧ place < position.stop) ∨
      (∀ p q, position.start ≤ p → ¬EndingAt source p q) ∧
        position.stop = (String.ofList source).utf8ByteSize ∧ place ≤ position.stop
  row_eq : position.row =
    1 + {span : ℕ × ℕ | EndingAt source span.1 span.2 ∧ span.2 ≤ position.start}.ncard
  column_eq : ∃ front between back, source = front ++ between ++ back ∧
    byteLength front = position.start ∧ byteLength (front ++ between) = place ∧
    position.column = 1 + between.length

section

variable {source : List Char} {passed rest : List Line}
  (split : (Layout.ofText source).ended = passed ++ rest)

include split

theorem endingAt_split (p q : ℕ) :
    EndingAt source p q ↔ (p, q) ∈ endings passed 0 ∨
      (p, q) ∈ endings rest (byteLength (passed.flatMap Line.chars)) := by
  rw [endingAt_iff, split, endings_append, List.mem_append, Nat.zero_add]

theorem begins_of_split :
    byteLength (passed.flatMap Line.chars) = 0 ∨
      ∃ p, EndingAt source p (byteLength (passed.flatMap Line.chars)) := by
  rcases List.eq_nil_or_concat passed with rfl | ⟨earlier, line, rfl⟩
  · exact .inl rfl
  · right
    refine ⟨byteLength (earlier.flatMap Line.chars) + byteLength line.text, ?_⟩
    rw [endingAt_split split]
    left
    simp [endings_append, endings]

theorem row_of_split :
    {span : ℕ × ℕ | EndingAt source span.1 span.2 ∧
      span.2 ≤ byteLength (passed.flatMap Line.chars)}.ncard = passed.length := by
  have before : {span : ℕ × ℕ | EndingAt source span.1 span.2 ∧
      span.2 ≤ byteLength (passed.flatMap Line.chars)} = ↑(endings passed 0).toFinset := by
    ext span
    rw [Set.mem_ofPred_eq, endingAt_split split, List.coe_toFinset, Set.mem_ofPred_eq]
    constructor
    · rintro ⟨front | back, bound⟩
      · exact front
      · have bounds := mem_endings back
        omega
    · intro front
      have bounds := mem_endings front
      exact ⟨.inl front, by omega⟩
  rw [before, Set.ncard_coe_finset, List.toFinset_card_of_nodup (nodup_endings passed 0),
    length_endings]

/-- The text is what is passed, the line that is reached, and what comes behind it. -/
theorem source_of_split :
    ∃ behind, source =
        passed.flatMap Line.chars ++ (headLine (Layout.ofText source).last rest ++ behind) ∧
      (rest = [] → behind = []) := by
  have chars := Layout.chars_ofText source
  rw [Layout.chars, split, List.flatMap_append, List.append_assoc] at chars
  cases rest with
  | nil => exact ⟨[], by simpa [headLine] using chars.symm, fun _ => rfl⟩
  | cons line more =>
    refine ⟨more.flatMap Line.chars ++ (Layout.ofText source).last, ?_, by simp⟩
    rw [List.flatMap_cons, List.append_assoc] at chars
    exact chars.symm

theorem stops_of_split {place : ℕ}
    (within : rest ≠ [] → place < byteLength (passed.flatMap Line.chars) +
      byteLength (headLine (Layout.ofText source).last rest))
    (bound : place ≤ byteLength source) :
    let start := byteLength (passed.flatMap Line.chars)
    let stop := start + byteLength (headLine (Layout.ofText source).last rest)
    (∃ p, start ≤ p ∧ EndingAt source p stop ∧
        (∀ p' q, start ≤ p' → EndingAt source p' q → p ≤ p') ∧ place < stop) ∨
      (∀ p q, start ≤ p → ¬EndingAt source p q) ∧
        stop = (String.ofList source).utf8ByteSize ∧ place ≤ stop := by
  intro start stop
  have passes {p q : ℕ} (behind : start ≤ p) : (p, q) ∉ endings passed 0 := by
    intro front
    have bounds := mem_endings front
    omega
  cases rest with
  | nil =>
    obtain ⟨behind, whole, none⟩ := source_of_split split
    have size : stop = byteLength source := by
      rw [whole, none rfl, List.append_nil, byteLength_append]
    refine .inr ⟨?_, by rw [utf8ByteSize_ofList, size], by omega⟩
    intro p q after stands
    rcases (endingAt_split split p q).mp stands with front | back
    · exact passes after front
    · cases back
  | cons line more =>
    have size : stop = start + line.byteLength := by
      rw [← byteLength_chars]
      rfl
    refine .inl ⟨start + byteLength line.text, Nat.le_add_right _ _, ?_, ?_, within nofun⟩
    · rw [endingAt_split split, endings, size]
      exact .inr List.mem_cons_self
    · intro p q after stands
      rcases (endingAt_split split p q).mp stands with front | back
      · exact absurd front (passes after)
      · rcases List.mem_cons.mp back with first | later
        · exact (Prod.mk.inj first).1.ge
        · have bounds := mem_endings later
          rw [byteLength_line] at bounds
          omega

/-- The characters up to the offset are those of the lines that are passed and some of the one that
is reached. -/
theorem take_of_split {offset : ℕ}
    (reached : byteLength (passed.flatMap Line.chars) ≤ offset)
    (before : rest ≠ [] → offset < byteLength (passed.flatMap Line.chars) +
      byteLength (headLine (Layout.ofText source).last rest)) :
    ∃ between, source.take (charsWithin source offset) = passed.flatMap Line.chars ++ between ∧
      between.length = charsWithin (headLine (Layout.ofText source).last rest)
        (offset - byteLength (passed.flatMap Line.chars)) := by
  obtain ⟨behind, whole, none⟩ := source_of_split split
  generalize headLine (Layout.ofText source).last rest = current at before whole ⊢
  have within : charsWithin (current ++ behind) (offset - byteLength (passed.flatMap Line.chars)) =
      charsWithin current (offset - byteLength (passed.flatMap Line.chars)) := by
    by_cases empty : rest = []
    · rw [none empty, List.append_nil]
    · have inside := before empty
      exact charsWithin_append_of_lt _ _ (by omega)
  have few := charsWithin_le current (offset - byteLength (passed.flatMap Line.chars))
  refine ⟨current.take (charsWithin current (offset - byteLength (passed.flatMap Line.chars))), ?_,
    by rw [List.length_take, min_eq_left few]⟩
  rw [whole, charsWithin_append_of_le _ _ reached, within, List.take_length_add_append,
    List.take_append_of_le_length few]

end

/-- The position that is found tells where the last boundary up to the offset lies. -/
theorem isAt_locate (source : List Char) (offset : ℕ) :
    (locate source offset).IsAt source
      (byteLength (source.take (charsWithin source offset))) := by
  obtain ⟨passed, rest, split, reached, before, located⟩ := locate_split source offset
  obtain ⟨between, taken, counted⟩ := take_of_split split reached before
  have bounds := (isFloor_take source offset).1.2
  rw [utf8ByteSize_ofList, le_min_iff] at bounds
  rw [located]
  exact {
    begins := begins_of_split split
    reaches := by
      rw [taken, byteLength_append]
      exact Nat.le_add_right _ _
    stops := stops_of_split split (fun more => bounds.1.trans_lt (before more)) bounds.2
    row_eq := by rw [row_of_split split]
    column_eq := by
      refine ⟨passed.flatMap Line.chars, between, source.drop (charsWithin source offset), ?_, rfl,
        ?_, ?_⟩
      · rw [← taken, List.take_append_drop]
      · rw [← taken]
      · rw [counted]
        exact Nat.add_comm _ _ }

/-! ### Uniqueness -/

namespace IsAt

variable {source : List Char} {place : ℕ} {a b : Position}

/-- A line that begins behind another one that reaches a place does not reach it. -/
theorem not_lt (first : a.IsAt source place) (second : b.IsAt source place) :
    ¬a.start < b.start := by
  intro less
  -- the later line begins behind an ending, which is in or behind the earlier line
  obtain ⟨p, ends⟩ : ∃ p, EndingAt source p b.start := by
    rcases second.begins with zero | ends
    · omega
    · exact ends
  have positive := ends.lt
  have behind : a.start ≤ p := by
    rcases first.begins with zero | ⟨p', ends'⟩
    · omega
    · have positive' := ends'.lt
      rcases ends'.order ends with ⟨-, same⟩ | before | after
      · omega
      · exact before
      · omega
  have reaches := second.reaches
  rcases first.stops with ⟨p', -, ends', least, bound⟩ | ⟨none, -⟩
  · have nearest := least p b.start behind ends
    rcases ends'.order ends with ⟨-, same⟩ | before | after
    · omega
    · omega
    · omega
  · exact none p b.start behind ends

theorem start_eq (first : a.IsAt source place) (second : b.IsAt source place) :
    a.start = b.start :=
  le_antisymm (Nat.le_of_not_lt (second.not_lt first)) (Nat.le_of_not_lt (first.not_lt second))

theorem stop_eq (first : a.IsAt source place) (second : b.IsAt source place) :
    a.stop = b.stop := by
  have start := first.start_eq second
  rcases first.stops with ⟨p, behind, ends, least, -⟩ | ⟨none, last, -⟩
  · rcases second.stops with ⟨p', behind', ends', least', -⟩ | ⟨none, -⟩
    · have same : p = p' :=
        le_antisymm (least p' _ (start ▸ behind') ends') (least' p _ (start ▸ behind) ends)
      have positive := ends.lt
      have positive' := ends'.lt
      rcases ends.order ends' with ⟨-, stop⟩ | before | after
      · exact stop
      · omega
      · omega
    · exact absurd ends (none p _ (start ▸ behind))
  · rcases second.stops with ⟨p', behind', ends', -⟩ | ⟨-, last', -⟩
    · exact absurd ends' (none p' _ (start ▸ behind'))
    · exact last.trans last'.symm

theorem column_eq_charsWithin (stands : a.IsAt source place) :
    a.column = 1 + (charsWithin source place - charsWithin source a.start) := by
  obtain ⟨front, between, back, rfl, start, rfl, column⟩ := stands.column_eq
  rw [column, ← start, charsWithin_append, List.append_assoc, charsWithin_append,
    List.length_append, Nat.add_sub_cancel_left]

theorem unique (first : a.IsAt source place) (second : b.IsAt source place) : a = b := by
  have start := first.start_eq second
  have stop := first.stop_eq second
  have row : a.row = b.row := by rw [first.row_eq, second.row_eq, start]
  have column : a.column = b.column := by
    rw [first.column_eq_charsWithin, second.column_eq_charsWithin, start]
  cases a
  cases b
  rw [Position.mk.injEq]
  exact ⟨start, stop, row, column⟩

end IsAt

/-! ### The lines of all offsets -/

/-- The spans stand one behind the other from byte `low` to byte `high`, and none but the last is
empty. -/
inductive Tiles (high : ℕ) : ℕ → List (ℕ × ℕ) → Prop where
  | last {low : ℕ} (ordered : low ≤ high) : Tiles high low [(low, high)]
  | line {low next : ℕ} {rest : List (ℕ × ℕ)} (grows : low < next) (more : Tiles high next rest) :
      Tiles high low ((low, next) :: rest)

/-- The spans of the lines from byte `start` on. -/
def spans (last : List Char) : List Line → (start : ℕ) → List (ℕ × ℕ)
  | [], start => [(start, start + byteLength last)]
  | line :: rest, start =>
    (start, start + line.byteLength) :: spans last rest (start + line.byteLength)

theorem tiles_spans (last : List Char) (lines : List Line) (start : ℕ) :
    Tiles (start + byteLength (lines.flatMap Line.chars ++ last)) start
      (spans last lines start) := by
  induction lines generalizing start with
  | nil => exact .last (Nat.le_add_right _ _)
  | cons line rest ih =>
    have positive := byteLength_line_pos line
    have length : start + byteLength ((line :: rest).flatMap Line.chars ++ last) =
        start + line.byteLength + byteLength (rest.flatMap Line.chars ++ last) := by
      simp [Nat.add_assoc]
    rw [length]
    exact .line (by omega) (ih _)

/-- The row of a position is the place of its line among all lines. -/
theorem getElem?_spans (offset : ℕ) (last : List Char) (lines : List Line) (start row : ℕ) :
    row ≤ (walk offset last lines start row).row ∧
      (spans last lines start)[(walk offset last lines start row).row - row]? =
        some ((walk offset last lines start row).start,
          (walk offset last lines start row).stop) := by
  fun_induction walk offset last lines start row with
  | case1 start row => simp [spans]
  | case2 line rest start row within ih =>
    obtain ⟨later, found⟩ := ih
    have next : (walk offset last rest (start + line.byteLength) (row + 1)).row - row =
        (walk offset last rest (start + line.byteLength) (row + 1)).row - (row + 1) + 1 := by omega
    rw [spans, next, List.getElem?_cons_succ]
    exact ⟨by omega, found⟩
  | case3 line rest start row beyond => simp [spans]

theorem le_of_mem_spans {last : List Char} {lines : List Line} {start : ℕ} {span : ℕ × ℕ}
    (member : span ∈ spans last lines start) : start ≤ span.1 := by
  induction lines generalizing start with
  | nil =>
    obtain rfl := List.mem_singleton.mp member
    exact le_rfl
  | cons line rest ih =>
    rcases List.mem_cons.mp member with rfl | later
    · exact le_rfl
    · exact (Nat.le_add_right _ _).trans (ih later)

/-- Each line is that of its first byte. -/
theorem walk_spans {last : List Char} {lines : List Line} {start : ℕ} {span : ℕ × ℕ} (row : ℕ)
    (member : span ∈ spans last lines start) :
    ((walk span.1 last lines start row).start,
      (walk span.1 last lines start row).stop) = span := by
  fun_induction walk span.1 last lines start row with
  | case1 start row => exact (List.mem_singleton.mp member).symm
  | case2 line rest start row within ih =>
    rcases List.mem_cons.mp member with rfl | later
    · have positive := byteLength_line_pos line
      omega
    · exact ih later
  | case3 line rest start row beyond =>
    rcases List.mem_cons.mp member with first | later
    · exact first.symm
    · exact absurd (le_of_mem_spans later) beyond

end Position

/-- The position of an offset is the only one that tells where the last character boundary up to the
offset lies, and the lines of all offsets tile the text in the order of their rows. -/
theorem locate_unique (source : List Char) :
    (∀ offset, ∃ place, IsFloor source offset place ∧
      ∀ position : Position, position.IsAt source place ↔ position = locate source offset) ∧
    ∃ spans, Position.Tiles (String.ofList source).utf8ByteSize 0 spans ∧
      (∀ offset, spans[(locate source offset).row - 1]? =
        some ((locate source offset).start, (locate source offset).stop)) ∧
      ∀ span ∈ spans, ((locate source span.1).start, (locate source span.1).stop) = span := by
  refine ⟨fun offset => ?_, ?_⟩
  · have stands := Position.isAt_locate source offset
    refine ⟨_, isFloor_take source offset, fun position => ⟨fun other => other.unique stands, ?_⟩⟩
    rintro rfl
    exact stands
  · refine ⟨Position.spans (Layout.ofText source).last (Layout.ofText source).ended 0, ?_, ?_, ?_⟩
    · have tiles := Position.tiles_spans (Layout.ofText source).last (Layout.ofText source).ended 0
      rw [← Layout.chars, Layout.chars_ofText, Nat.zero_add] at tiles
      rw [utf8ByteSize_ofList]
      exact tiles
    · intro offset
      rw [locate_eq_walk]
      exact (Position.getElem?_spans _ _ _ _ _).2
    · intro span member
      rw [locate_eq_walk]
      exact Position.walk_spans 1 member

-- between CR and LF, in the first line still
example : locate ['a', '\r', '\n', 'b'] 2 = ⟨0, 3, 1, 3⟩ := by
  rfl

end DeclScan
