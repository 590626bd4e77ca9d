import DeclScan.Proofs.Digits
import DeclScan.Proofs.Locate
import DeclScan.Proofs.TextAhead
import Mathlib.Data.Prod.Lex
import Mathlib.Order.Monotone.Basic

/-!
The order of positions.

## Main result

`locate_strictMonoOn`: of two character boundaries of a text the later one has the later position, rows
first and then columns. So `row:column` tells boundaries apart, the position of a scanner never goes
back, and it stays the same only as long as the scanner stays. Two offsets are in one row exactly if
they are in one line.

## Proof strategy

Two walks over the same lines take the same steps until the first of them stops. If the second goes on
from there it ends in a later row; if not, both are in one line, and more of its characters stand before
the later boundary (`Position.walk_lt`).
-/

namespace DeclScan

open Text

namespace Text

/-- The character boundaries of a text, as byte offsets. -/
def boundaries (source : List Char) : Set ℕ :=
  {place | String.Pos.Raw.IsValid (String.ofList source) ⟨place⟩}

/-- More characters end within a boundary than within what stands before it. -/
theorem charsWithin_lt {source : List Char} {a b : ℕ} (boundary : b ∈ boundaries source)
    (less : a < b) : charsWithin source a < charsWithin source b := by
  obtain ⟨front, back, rfl, rfl⟩ := isValid_iff.mp boundary
  rw [charsWithin_append, ← not_le, ← byteLength_le_iff]
  exact not_le.mpr less

end Text

namespace Position

/-- Row and column, in the order in which positions are compared. -/
def key (position : Position) : ℕ ×ₗ ℕ := toLex (position.row, position.column)

/-- The walk to a later character ends at a later position. -/
theorem walk_lt {a b : ℕ} (less : a < b) (last : List Char) (lines : List Line) {start : ℕ}
    (row : ℕ) (reached : start ≤ a)
    (more : charsWithin (lines.flatMap Line.chars ++ last) (a - start) <
      charsWithin (lines.flatMap Line.chars ++ last) (b - start)) :
    (walk a last lines start row).key < (walk b last lines start row).key := by
  induction lines generalizing start row with
  | nil => exact Prod.Lex.toLex_lt_toLex.mpr (.inr ⟨rfl, Nat.succ_lt_succ more⟩)
  | cons line rest ih =>
    rw [List.flatMap_cons, List.append_assoc] at more
    have size := byteLength_chars line
    have behind {offset : ℕ} (within : start + line.byteLength ≤ offset) (tail : List Char) :
        charsWithin (line.chars ++ tail) (offset - start) =
          line.chars.length + charsWithin tail (offset - (start + line.byteLength)) := by
      rw [charsWithin_append_of_le _ _ (by omega), size, Nat.sub_sub]
    rw [walk, walk]
    by_cases passed : start + line.byteLength ≤ a
    · -- both walks pass the line
      have passed' : start + line.byteLength ≤ b := passed.trans less.le
      rw [behind passed, behind passed'] at more
      rw [if_pos passed, if_pos passed']
      exact ih (row + 1) passed (Nat.lt_of_add_lt_add_left more)
    · rw [if_neg passed]
      by_cases goes : start + line.byteLength ≤ b
      · -- the later walk goes on to another row
        rw [if_pos goes]
        have later := (getElem?_spans b last rest (start + line.byteLength) (row + 1)).1
        exact Prod.Lex.toLex_lt_toLex.mpr (.inl later)
      · rw [if_neg goes]
        rw [charsWithin_append_of_lt _ _ (by omega), charsWithin_append_of_lt _ _ (by omega)] at more
        exact Prod.Lex.toLex_lt_toLex.mpr (.inr ⟨rfl, Nat.succ_lt_succ more⟩)

theorem strictMonoOn_key (source : List Char) :
    StrictMonoOn (fun offset => (locate source offset).key) (boundaries source) := by
  intro a _ b boundary less
  have more := charsWithin_lt boundary less
  rw [← Layout.chars_ofText source, Layout.chars] at more
  dsimp only
  rw [locate_eq_walk, locate_eq_walk]
  exact walk_lt less _ _ 1 (Nat.zero_le a) more

/-- Offsets in one row are in one line. -/
theorem row_eq_iff (source : List Char) (a b : ℕ) :
    (locate source a).row = (locate source b).row ↔
      (locate source a).start = (locate source b).start ∧
        (locate source a).stop = (locate source b).stop := by
  constructor
  · intro row
    have first := (getElem?_spans a (Layout.ofText source).last (Layout.ofText source).ended 0 1).2
    have second := (getElem?_spans b (Layout.ofText source).last (Layout.ofText source).ended 0 1).2
    rw [← locate_eq_walk] at first second
    rw [row, second, Option.some.injEq, Prod.mk.injEq] at first
    exact ⟨first.1.symm, first.2.symm⟩
  · rintro ⟨start, -⟩
    rw [(isAt_locate source a).row_eq, (isAt_locate source b).row_eq, start]

theorem render_eq_iff (a b : Position) : a.render = b.render ↔ a.key = b.key := by
  constructor
  · intro same
    have chars : Nat.toDigits 10 a.row ++ ':' :: Nat.toDigits 10 a.column =
        Nat.toDigits 10 b.row ++ ':' :: Nat.toDigits 10 b.column := by
      simpa [render] using congrArg String.toList same
    -- no digit is a colon, so the row ends where the colon stands
    have rows := congrArg (List.takeWhile Char.isDigit) chars
    rw [Digits.takeWhile_toDigits_append a.row rfl,
      Digits.takeWhile_toDigits_append b.row rfl] at rows
    rw [rows] at chars
    have columns := (List.cons.inj (List.append_cancel_left chars)).2
    rw [key, key, Digits.toDigits_injective rows, Digits.toDigits_injective columns]
  · intro same
    obtain ⟨rows, columns⟩ := Prod.mk.inj (toLex.injective same)
    rw [render, render, rows, columns]

end Position

namespace Scanner

/-! ### Positions of a scanner -/

theorem offset_le_scan {α : Type} (scanner : Scanner) (probe : Probe α) :
    scanner.offset ≤ (scanner.scan probe).2.offset := by
  have law := scanLaw scanner probe
  cases returned : (scanner.scan probe).1 with
  | none => rw [law.unchanged returned]
  | some value => exact (Nat.le_add_right _ _).trans (law.forward value returned)

theorem source_after (scanner : Scanner) (questions : List Question) :
    (scanner.after questions).source = scanner.source := by
  induction questions generalizing scanner with
  | nil => rfl
  | cons question rest ih => exact (ih _).trans (source_scan scanner question.probe)

theorem offset_le_after (scanner : Scanner) (questions : List Question) :
    scanner.offset ≤ (scanner.after questions).offset := by
  induction questions generalizing scanner with
  | nil => exact le_rfl
  | cons question rest ih => exact (offset_le_scan scanner question.probe).trans (ih _)

theorem after_append (scanner : Scanner) (first second : List Question) :
    scanner.after (first ++ second) = (scanner.after first).after second :=
  List.foldl_append

/-- A sequence of scans never goes back. -/
theorem monotone_offset (scanner : Scanner) (questions : List Question) :
    Monotone fun count => (scanner.after (questions.take count)).offset := by
  intro i j order
  obtain ⟨more, rfl⟩ := Nat.exists_eq_add_of_le order
  dsimp only
  rw [List.take_add, after_append]
  exact offset_le_after _ _

end Scanner

/-- The position of a boundary grows with the boundary, in its row first and then in its column, so
`row:column` is that of one boundary only; two offsets are in one row exactly if they are in one line.
A sequence of scans never takes the position back, and changes it exactly if it moves the scanner. -/
theorem locate_strictMonoOn :
    (∀ source : List Char,
      StrictMonoOn (fun offset => (locate source offset).key) (boundaries source) ∧
      (∀ a ∈ boundaries source, ∀ b ∈ boundaries source,
        (locate source a).render = (locate source b).render ↔ a = b) ∧
      ∀ a b, (locate source a).row = (locate source b).row ↔
        (locate source a).start = (locate source b).start ∧
          (locate source a).stop = (locate source b).stop) ∧
    ∀ (scanner : Scanner) (questions : List Question),
      let state := fun count => scanner.after (questions.take count)
      Monotone (fun count => (state count).position.key) ∧
        ∀ i j, (state i).position.key = (state j).position.key ↔
          (state i).offset = (state j).offset := by
  refine ⟨fun source => ?_, fun scanner questions => ?_⟩
  · have increasing := Position.strictMonoOn_key source
    refine ⟨increasing, fun a inside b inside' => ?_, Position.row_eq_iff source⟩
    rw [Position.render_eq_iff]
    exact increasing.injOn.eq_iff inside inside'
  · intro state
    have increasing := Position.strictMonoOn_key scanner.source
    have located (count : ℕ) :
        (state count).position = locate scanner.source (state count).offset := by
      rw [Scanner.position, scanner.source_after]
    have inside (count : ℕ) : (state count).offset ∈ boundaries scanner.source := by
      rw [← scanner.source_after (questions.take count)]
      exact Scanner.isValid_offset _
    simp only [located]
    refine ⟨fun i j order => ?_, fun i j => increasing.injOn.eq_iff (inside i) (inside j)⟩
    exact increasing.monotoneOn (inside i) (inside j) (scanner.monotone_offset questions order)

-- the end of a text that ends with a line ending is in a row of its own
example : (locate ['a', '\r', '\n'] 2).render = "1:3" ∧
    (locate ['a', '\r', '\n'] 3).render = "2:1" := by
  decide

end DeclScan
