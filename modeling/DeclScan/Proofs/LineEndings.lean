import DeclScan.Text.Line
import Mathlib.Data.List.Basic
import Mathlib.Data.Set.Card
import Mathlib.Tactic.Common

/-!
The line endings of a text.

## Main result

`Text.endingAt_iff`: the lines of a text end exactly where its line endings stand. A line ending is a
matter of the characters around it (`Text.EndingAt`): CR LF is one ending wherever it occurs, and the
other endings are single characters.

## Proof strategy

Cutting a text into lines takes off the text of the first line, its ending and then the rest
(`Layout.Cut`). No ending of the whole reaches from one of these parts into another, so its endings
are the first one and those of the rest (`Text.endingAt_append_iff`).
-/

namespace DeclScan.Text

/-- A line ending of `source` takes the bytes from `start` to `stop`. CR LF is one ending, so neither
of its two characters is an ending of its own. -/
def EndingAt (source : List Char) (start stop : ℕ) : Prop :=
  ∃ front ending back, source = front ++ (LineEnding.chars ending ++ back) ∧
    byteLength front = start ∧ start + byteLength ending.chars = stop ∧
    (ending = .carriageReturn → back.head? ≠ some '\n') ∧
    (ending = .lineFeed → front.getLast? ≠ some '\r')

namespace LineEnding

theorem exists_chars_eq_cons (ending : LineEnding) :
    ∃ c rest, ending.chars = c :: rest ∧ endsLine c = true := by
  cases ending <;> exact ⟨_, _, rfl, by decide⟩

theorem byteLength_chars_pos (ending : LineEnding) : 0 < byteLength ending.chars := by
  cases ending <;> decide

/-- Two endings that start at the same place are the same, unless one of them is a CR that an LF
follows. -/
theorem eq_of_chars_append {ending ending' : LineEnding} {back back' : List Char}
    (same : ending.chars ++ back = ending'.chars ++ back')
    (lone : ending = .carriageReturn → back.head? ≠ some '\n')
    (lone' : ending' = .carriageReturn → back'.head? ≠ some '\n') :
    ending = ending' := by
  cases ending <;> cases ending' <;> simp [chars] at same lone lone' ⊢
  case carriageReturn.carriageReturnLineFeed => simp [same] at lone
  case carriageReturnLineFeed.carriageReturn => simp [← same] at lone'

end LineEnding

/-! ### Cutting off the first line -/

namespace Layout

/-- `source` is cut into `ended` lines and the `last` one: no line but for its ending has a character
that ends lines, and no CR is an ending of its own before an LF. -/
inductive Cut : List Char → List Line → List Char → Prop where
  | last {text : List Char} (plain : ∀ c ∈ text, endsLine c = false) : Cut text [] text
  | line (line : Line) {rest : List Char} {lines : List Line} {last : List Char}
      (plain : ∀ c ∈ line.text, endsLine c = false)
      (lone : line.ending = .carriageReturn → rest.head? ≠ some '\n')
      (more : Cut rest lines last) : Cut (line.chars ++ rest) (line :: lines) last

theorem cut_scan (text current : List Char) (found : List Line)
    (plain : ∀ c ∈ current.reverse, endsLine c = false) :
    Cut (current.reverse ++ text) (scan text current []).ended (scan text current []).last := by
  -- the lines found before play no part
  fun_induction scan text current found with
  | case1 current found =>
    rw [List.append_nil]
    exact .last plain
  | case2 rest current found ih =>
    rw [scan, scan_line, List.append_cons, List.append_cons, List.append_assoc current.reverse]
    exact .line ⟨current.reverse, .carriageReturnLineFeed⟩ plain (by simp) (ih (by simp))
  | case3 c rest current found single ending known ih =>
    rw [scan_ending single known, List.append_cons, ← LineEnding.chars_ofChar? known]
    refine .line ⟨current.reverse, ending⟩ plain ?_ (ih (by simp))
    intro lone first
    obtain ⟨more, equal⟩ := List.head?_eq_some_iff.mp first
    have chars := LineEnding.chars_ofChar? known
    rw [show ending = .carriageReturn from lone] at chars
    exact single more (List.cons.inj chars).1.symm equal
  | case4 c rest current found single unknown ih =>
    rw [scan, unknown, List.append_cons, ← List.reverse_cons]
    · apply ih
      intro d member
      rw [List.reverse_cons, List.mem_append, List.mem_singleton] at member
      rcases member with earlier | rfl
      · exact plain d earlier
      · rw [endsLine, unknown]
        rfl
    · exact single

theorem cut_ofText (source : List Char) :
    Cut source (ofText source).ended (ofText source).last :=
  cut_scan source [] [] (by simp)

end Layout

/-! ### The endings of a text -/

theorem not_endingAt {text : List Char} (plain : ∀ c ∈ text, endsLine c = false) (start stop : ℕ) :
    ¬EndingAt text start stop := by
  rintro ⟨front, ending, back, rfl, -⟩
  obtain ⟨c, rest, chars, ends⟩ := ending.exists_chars_eq_cons
  have none := plain c (by simp [chars])
  rw [ends] at none
  cases none

theorem byteLength_line (line : Line) :
    line.byteLength = byteLength line.text + byteLength line.ending.chars := rfl

/-- An ending of the text behind the first line is one of the whole. -/
theorem EndingAt.append {line : Line} {rest : List Char} {start stop : ℕ}
    (lone : line.ending = .carriageReturn → rest.head? ≠ some '\n')
    (stands : EndingAt rest start stop) :
    EndingAt (line.chars ++ rest) (line.byteLength + start) (line.byteLength + stop) := by
  obtain ⟨front, ending, back, rfl, rfl, rfl, before, behind⟩ := stands
  refine ⟨line.chars ++ front, ending, back, by simp, ?_, by omega, before, ?_⟩
  · rw [byteLength_append, Line.chars, byteLength_append, byteLength_line]
  · rintro rfl
    cases front with
    | nil =>
      -- a CR before this LF would have been part of its ending
      rw [List.append_nil, Line.chars, List.getLast?_append]
      cases known : line.ending <;> simp [known, LineEnding.chars] at lone ⊢
    | cons c front =>
      rw [List.getLast?_append, List.getLast?_cons]
      simpa [List.getLast?_cons] using behind rfl

/-- No ending starts inside the ending of the first line. -/
theorem endingAt_start {line : Line} {front rest back : List Char} {ending : LineEnding}
    (same : line.ending.chars ++ rest = front ++ (ending.chars ++ back))
    (behind : ending = .lineFeed → (line.text ++ front).getLast? ≠ some '\r') :
    front = [] ∨
      ∃ more, front = line.ending.chars ++ more ∧ rest = more ++ (ending.chars ++ back) := by
  rcases List.append_eq_append_iff.mp same with ⟨more, rfl, rfl⟩ | ⟨within, split, same⟩
  · exact .inr ⟨more, rfl, rfl⟩
  cases front with
  | nil => exact .inl rfl
  | cons c front =>
    cases within with
    | nil => exact .inr ⟨[], by simpa using split.symm, by simpa using same.symm⟩
    | cons d within =>
      -- only CR LF has an inside, and the LF there is no ending of its own
      cases known : line.ending <;> simp [known, LineEnding.chars] at split
      obtain ⟨rfl, split⟩ := split
      cases front with
      | nil =>
        obtain ⟨rfl, rfl⟩ : '\n' = d ∧ within = [] := by simpa using split
        cases ending <;> simp [LineEnding.chars] at same behind
      | cons e front => simp at split

/-- The endings of a text are that of its first line and those of the rest. -/
theorem endingAt_append_iff {line : Line} {rest : List Char} {start stop : ℕ}
    (plain : ∀ c ∈ line.text, endsLine c = false)
    (lone : line.ending = .carriageReturn → rest.head? ≠ some '\n') :
    EndingAt (line.chars ++ rest) start stop ↔
      (start = byteLength line.text ∧ stop = line.byteLength) ∨
        ∃ p q, EndingAt rest p q ∧ start = line.byteLength + p ∧ stop = line.byteLength + q := by
  constructor
  · rintro ⟨front, ending, back, same, rfl, rfl, before, behind⟩
    rw [Line.chars, List.append_assoc] at same
    -- an ending that starts in the text of the line would put a character there that ends lines
    obtain ⟨front, rfl, within⟩ : ∃ more, front = line.text ++ more ∧
        line.ending.chars ++ rest = more ++ (ending.chars ++ back) := by
      rcases List.append_eq_append_iff.mp same with inside | ⟨inside, split, same⟩
      · exact inside
      · cases inside with
        | nil => exact ⟨[], by simpa using split.symm, by simpa using same.symm⟩
        | cons c inside =>
          obtain ⟨d, more, chars, ends⟩ := ending.exists_chars_eq_cons
          rw [chars] at same
          obtain rfl : d = c := (List.cons.inj same).1
          have none := plain d (by simp [split])
          rw [ends] at none
          cases none
    rcases endingAt_start within behind with rfl | ⟨more, rfl, rfl⟩
    · left
      have equal := LineEnding.eq_of_chars_append within lone before
      rw [List.append_nil, byteLength_line, equal]
      exact ⟨rfl, rfl⟩
    · right
      refine ⟨byteLength more, byteLength more + byteLength ending.chars,
        ⟨more, ending, back, rfl, rfl, rfl, before, ?_⟩, ?_, ?_⟩
      · intro feed last
        apply behind feed
        rw [List.getLast?_append, List.getLast?_append, last]
        rfl
      · rw [byteLength_append, byteLength_append, byteLength_line]
        omega
      · rw [byteLength_append, byteLength_append, byteLength_line]
        omega
  · rintro (⟨rfl, rfl⟩ | ⟨p, q, stands, rfl, rfl⟩)
    · refine ⟨line.text, line.ending, rest, by simp [Line.chars], rfl, rfl, lone, ?_⟩
      intro _ last
      have ends := plain _ (List.mem_of_getLast? last)
      exact absurd ends (by decide)
    · exact stands.append lone

/-- The spans of the endings of `lines`, the first of which begins at byte `start`. -/
def endings : List Line → (start : ℕ) → List (ℕ × ℕ)
  | [], _ => []
  | line :: rest, start =>
    (start + byteLength line.text, start + line.byteLength) ::
      endings rest (start + line.byteLength)

theorem endings_add (lines : List Line) (shift start : ℕ) :
    endings lines (shift + start) =
      (endings lines start).map fun span => (shift + span.1, shift + span.2) := by
  induction lines generalizing start with
  | nil => rfl
  | cons line rest ih => simp [endings, Nat.add_assoc, ih]

theorem endingAt_iff_of_cut {source last : List Char} {lines : List Line}
    (cut : Layout.Cut source lines last) (start stop : ℕ) :
    EndingAt source start stop ↔ (start, stop) ∈ endings lines 0 := by
  induction cut generalizing start stop with
  | last plain => simp [endings, not_endingAt plain]
  | @line line rest lines last plain lone more ih =>
    have shifted := endings_add lines line.byteLength 0
    rw [Nat.add_zero] at shifted
    rw [endingAt_append_iff plain lone, endings, List.mem_cons, Nat.zero_add, Nat.zero_add, shifted,
      List.mem_map, Prod.mk.injEq]
    refine or_congr_right ⟨?_, ?_⟩
    · rintro ⟨p, q, stands, rfl, rfl⟩
      exact ⟨(p, q), (ih p q).mp stands, rfl⟩
    · rintro ⟨⟨p, q⟩, member, equal⟩
      cases equal
      exact ⟨p, q, (ih p q).mpr member, rfl, rfl⟩

/-- The lines of a text end exactly where its line endings stand. -/
theorem endingAt_iff (source : List Char) (start stop : ℕ) :
    EndingAt source start stop ↔ (start, stop) ∈ endings (Layout.ofText source).ended 0 :=
  endingAt_iff_of_cut (Layout.cut_ofText source) start stop

/-! ### The order of the endings -/

@[simp] theorem byteLength_chars (line : Line) : byteLength line.chars = line.byteLength :=
  byteLength_append _ _

theorem byteLength_line_pos (line : Line) : 0 < line.byteLength := by
  have positive := line.ending.byteLength_chars_pos
  rw [byteLength_line]
  omega

theorem mem_endings {lines : List Line} {start : ℕ} {span : ℕ × ℕ}
    (member : span ∈ endings lines start) :
    start ≤ span.1 ∧ span.1 < span.2 ∧ span.2 ≤ start + byteLength (lines.flatMap Line.chars) := by
  induction lines generalizing start with
  | nil => cases member
  | cons line rest ih =>
    have positive := line.ending.byteLength_chars_pos
    rw [List.flatMap_cons, byteLength_append, byteLength_chars]
    rcases List.mem_cons.mp member with rfl | later
    · simp only [byteLength_line]
      omega
    · have bounds := ih later
      omega

theorem pairwise_endings (lines : List Line) (start : ℕ) :
    (endings lines start).Pairwise fun a b => a.2 ≤ b.1 := by
  induction lines generalizing start with
  | nil => exact .nil
  | cons line rest ih => exact .cons (fun span later => (mem_endings later).1) (ih _)

theorem endings_append (front back : List Line) (start : ℕ) :
    endings (front ++ back) start =
      endings front start ++ endings back (start + byteLength (front.flatMap Line.chars)) := by
  induction front generalizing start with
  | nil => rfl
  | cons line rest ih => simp [endings, ih, Nat.add_assoc]

@[simp] theorem length_endings (lines : List Line) (start : ℕ) :
    (endings lines start).length = lines.length := by
  induction lines generalizing start with
  | nil => rfl
  | cons line rest ih => simp [endings, ih]

theorem nodup_endings (lines : List Line) (start : ℕ) : (endings lines start).Nodup := by
  refine (pairwise_endings lines start).imp_of_mem ?_
  rintro a b member - before rfl
  have positive := (mem_endings member).2.1
  omega

theorem EndingAt.lt {source : List Char} {p q : ℕ} (stands : EndingAt source p q) : p < q :=
  (mem_endings ((endingAt_iff source p q).mp stands)).2.1

/-- Two endings of a text are the same, or one of them ends before the other starts. -/
theorem EndingAt.order {source : List Char} {p q p' q' : ℕ} (first : EndingAt source p q)
    (second : EndingAt source p' q') : (p = p' ∧ q = q') ∨ q ≤ p' ∨ q' ≤ p := by
  rw [endingAt_iff] at first second
  have apart := List.pairwise_iff_getElem.mp (pairwise_endings (Layout.ofText source).ended 0)
  obtain ⟨i, bound, at_i⟩ := List.getElem_of_mem first
  obtain ⟨j, bound', at_j⟩ := List.getElem_of_mem second
  rcases lt_trichotomy i j with before | rfl | behind
  · have order := apart i j bound bound' before
    rw [at_i, at_j] at order
    exact .inr (.inl order)
  · rw [at_i] at at_j
    exact .inl (Prod.mk.inj at_j)
  · have order := apart j i bound' bound behind
    rw [at_i, at_j] at order
    exact .inr (.inr order)

end DeclScan.Text
