import DeclScan.Proofs.ScannerRun

/-!
What a scanner answers depends on the text ahead of it, and on nothing else.

## Main result

`Scanner.observations_eq_of_sameAhead`: two scanners with the same settings and, behind what each of
them skips next, the same text ahead cannot be told apart by any sequence of probes, whatever they
have read before.

## Proof strategy

A probe reads the text behind the skipped characters and nothing in front of it, so both scanners
read the same (`scan_of_none`, `scan_of_some`). If they find something, what remains is the same text
for both; if not, both stay where they were, each in front of its own characters to be skipped.
-/

namespace DeclScan

/-- A probe, whatever the type of its answer. -/
structure Question : Type 1 where
  {α : Type}
  probe : Probe α

/-- What a scan shows to the outside. -/
structure Observation : Type 1 where
  {α : Type}
  answer : Option α
  /-- How many bytes behind the skipped ones were read, if there is an answer. -/
  taken : Option Int
  /-- Whether nothing is left afterwards but characters to be skipped. -/
  atEnd : Bool

namespace Scanner

/-- What a scan with `probe` shows. -/
def observe {α : Type} (scanner : Scanner) (probe : Probe α) : Observation where
  answer := (scanner.scan probe).1
  taken := (scanner.scan probe).1.map fun _ =>
    ((scanner.scan probe).2.offset : Int) - scanner.start.offset
  atEnd := (scanner.scan probe).2.isAtEnd

/-- The scanner after a sequence of scans. -/
def after (scanner : Scanner) (questions : List Question) : Scanner :=
  questions.foldl (fun scanner question => (scanner.scan question.probe).2) scanner

/-- What a sequence of scans shows, one after the other. -/
def observations : Scanner → List Question → List Observation
  | _, [] => []
  | scanner, question :: rest =>
    scanner.observe question.probe :: (scanner.scan question.probe).2.observations rest

/-! ### The text ahead -/

/-- The scanners have the same settings, and the same text behind the longest run of characters that
each of them skips. -/
structure SameAhead (a b : Scanner) : Prop where
  skip_eq : a.skip = b.skip
  caseSensitive_eq : a.caseSensitive = b.caseSensitive
  ahead : ∃ run run' text, a.LongestSkip run ∧ b.LongestSkip run' ∧
    a.remaining = run ++ text ∧ b.remaining = run' ++ text

theorem LongestSkip.eq_skipped {scanner : Scanner} {run : List Char}
    (longest : scanner.LongestSkip run) : run = scanner.skipped := by
  have skipped := longestSkip_skipped scanner
  unfold LongestSkip at longest skipped
  split at longest
  next nothing => rw [longest, skipped_of_none nothing]
  next set skips =>
    -- of two runs that are both as long as they can be, each starts with the other
    rw [skips] at skipped
    have length := Nat.le_antisymm (skipped.2 _ longest.1.1 longest.1.2)
      (longest.2 _ skipped.1.1 skipped.1.2)
    exact (List.prefix_of_prefix_length_le longest.1.1 skipped.1.1 length.le).eq_of_length length

theorem sameAhead_iff {a b : Scanner} :
    SameAhead a b ↔ a.skip = b.skip ∧ a.caseSensitive = b.caseSensitive ∧
      a.start.after = b.start.after := by
  constructor
  · rintro ⟨skip, case, run, run', text, longest, longest', split, split'⟩
    obtain rfl := longest.eq_skipped
    obtain rfl := longest'.eq_skipped
    rw [remaining_eq] at split split'
    rw [List.append_cancel_left split, List.append_cancel_left split']
    exact ⟨skip, case, rfl⟩
  · rintro ⟨skip, case, same⟩
    exact ⟨skip, case, a.skipped, b.skipped, a.start.after, longestSkip_skipped a,
      longestSkip_skipped b, remaining_eq a, by rw [same, remaining_eq b]⟩

/-- Scanners with the same settings in front of the same text skip the same. -/
theorem sameAhead_of_remaining {a b : Scanner} (skip : a.skip = b.skip)
    (case : a.caseSensitive = b.caseSensitive) (same : a.remaining = b.remaining) :
    SameAhead a b := by
  have skipped : a.skipped = b.skipped := by simp only [Scanner.skipped, skip, same]
  refine sameAhead_iff.mpr ⟨skip, case, ?_⟩
  rw [remaining_eq a, remaining_eq b, skipped] at same
  exact List.append_cancel_left same

/-- Nothing is left exactly if there is no text behind the characters to be skipped. -/
theorem isAtEnd_eq (scanner : Scanner) : scanner.isAtEnd = scanner.start.after.isEmpty := by
  have whole := remaining_eq scanner
  cases skips : scanner.skip with
  | none =>
    rw [skipped_of_none skips, List.nil_append] at whole
    rw [isAtEnd, skips, whole]
  | some set =>
    have behind : scanner.remaining.dropWhile set.contains = scanner.start.after := by
      rw [skipped_of_some skips, CharSet.leading] at whole
      exact List.append_cancel_left (List.takeWhile_append_dropWhile.trans whole)
    rw [isAtEnd, skips, ← behind, Bool.eq_iff_iff, List.isEmpty_iff, List.dropWhile_eq_nil_iff,
      List.all_eq_true]

/-! ### One scan -/

theorem offset_scan_sub {α : Type} {scanner : Scanner} {probe : Probe α} {reading : Reading α}
    (found : probe.read? scanner.caseSensitive scanner.start.after = some reading) :
    ((scanner.scan probe).2.offset : Int) - scanner.start.offset =
      Text.byteLength (scanner.start.after.take reading.width) := by
  rw [offset_scan found, offset_start]
  omega

namespace SameAhead

variable {a b : Scanner} (same : SameAhead a b) {α : Type} (probe : Probe α)
include same

theorem read?_eq : probe.read? b.caseSensitive b.start.after =
    probe.read? a.caseSensitive a.start.after := by
  obtain ⟨-, case, ahead⟩ := sameAhead_iff.mp same
  rw [case, ahead]

theorem scan : SameAhead (a.scan probe).2 (b.scan probe).2 := by
  have read' := same.read?_eq probe
  cases read : probe.read? a.caseSensitive a.start.after with
  | none =>
    -- each is put back in front of what it skipped itself
    rw [scan_of_none read, scan_of_none (read'.trans read)]
    exact same
  | some reading =>
    rw [scan_of_some read, scan_of_some (read'.trans read)]
    refine sameAhead_of_remaining same.skip_eq same.caseSensitive_eq ?_
    simp [remaining, (sameAhead_iff.mp same).2.2]

theorem observe : a.observe probe = b.observe probe := by
  have read' := same.read?_eq probe
  have ends : (a.scan probe).2.isAtEnd = (b.scan probe).2.isAtEnd := by
    rw [isAtEnd_eq, isAtEnd_eq, (sameAhead_iff.mp (same.scan probe)).2.2]
  cases read : probe.read? a.caseSensitive a.start.after with
  | none =>
    rw [Scanner.observe, Scanner.observe, ends, scan_of_none read, scan_of_none (read'.trans read)]
    rfl
  | some reading =>
    rw [Scanner.observe, Scanner.observe, ends, offset_scan_sub read,
      offset_scan_sub (read'.trans read), (sameAhead_iff.mp same).2.2, scan_of_some read,
      scan_of_some (read'.trans read)]

end SameAhead

/-! ### Sequences of scans -/

/-- Scanners with the same settings and the same text ahead show the same in every sequence of scans,
and have the same text ahead after it. -/
theorem observations_eq_of_sameAhead (a b : Scanner) (same : SameAhead a b)
    (questions : List Question) :
    a.observations questions = b.observations questions ∧
      SameAhead (a.after questions) (b.after questions) := by
  induction questions generalizing a b with
  | nil => exact ⟨rfl, same⟩
  | cons question rest ih =>
    obtain ⟨shown, ahead⟩ := ih _ _ (same.scan question.probe)
    refine ⟨?_, ahead⟩
    rw [observations, observations, shown, same.observe question.probe]

/-- A scanner that skips digits reads `-7` behind `12` as it does at the start of a text. -/
theorem observations_behind_digits :
    let a : Scanner := ⟨⟨['b', 'a'], ['1', '2', '-', '7', 'z']⟩, some .decimalDigits, true⟩
    let b : Scanner := ⟨⟨[], ['-', '7', 'z']⟩, some .decimalDigits, true⟩
    let questions : List Question := [⟨.signed 32⟩, ⟨.literal ['y']⟩, ⟨.upTo ['y']⟩]
    SameAhead a b ∧ (a.scan (.signed 32)).1 = some (-7) ∧
      a.observations questions = b.observations questions ∧
      SameAhead (a.after questions) (b.after questions) := by
  intro a b questions
  have same : SameAhead a b := sameAhead_iff.mpr ⟨rfl, rfl, by decide⟩
  exact ⟨same, by decide, observations_eq_of_sameAhead a b same questions⟩

end Scanner

end DeclScan
