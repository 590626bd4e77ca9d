import DeclScan.Proofs.LiteralScan
import DeclScan.Proofs.TextAhead

/-!
The end of the text.

## Main result

`Scanner.isAtEnd_iff_exhausted`: a scanner is at the end exactly if nothing is left but characters to
be skipped. Then no probe finds anything, and as long as it is not there, both searches find something.
A search for a literal that does not occur ends there.

## Proof strategy

What a probe reads is the text behind the characters to be skipped, and that text is empty exactly at
the end (`Scanner.isAtEnd_eq`). No probe reads anything of the empty text (`Probe.read?_nil`), and a
search refuses no other.
-/

namespace DeclScan

namespace Literal

/-- The literal matches somewhere in the text. -/
def Occurs (caseSensitive : Bool) (literal text : List Char) : Prop :=
  ∃ front back, text = front ++ back ∧ Matches caseSensitive literal back

theorem IsBefore.eq_of_not_occurs {caseSensitive : Bool} {literal text passed : List Char}
    (first : IsBefore caseSensitive literal text passed)
    (missing : ¬Occurs caseSensitive literal text) : passed = text := by
  rcases first with ⟨rest, split, matching, -⟩ | ⟨whole, -⟩
  · exact absurd ⟨passed, rest, split, matching⟩ missing
  · exact whole

end Literal

namespace Scanner

open Literal (Occurs)

theorem isAtEnd_iff (scanner : Scanner) : scanner.isAtEnd = true ↔ scanner.start.after = [] := by
  rw [isAtEnd_eq, List.isEmpty_iff]

theorem scan_of_isAtEnd {scanner : Scanner} (atEnd : scanner.isAtEnd = true) {α : Type}
    (probe : Probe α) : scanner.scan probe = (none, scanner) :=
  scan_of_exhausted ((isAtEnd_iff scanner).mp atEnd) probe

theorem isAtEnd_of_remaining {scanner : Scanner} (nothing : scanner.remaining = []) :
    scanner.isAtEnd = true := by
  have whole := remaining_eq scanner
  rw [nothing] at whole
  exact (isAtEnd_iff scanner).mpr (List.append_eq_nil_iff.mp whole.symm).2

/-- A probe that reads something of every text but the empty one finds nothing at the end only. -/
theorem scan_eq_none_iff_isAtEnd {α : Type} {probe : Probe α}
    (reads : ∀ (caseSensitive : Bool) (text : List Char), text ≠ [] →
      ∃ reading, probe.read? caseSensitive text = some reading) (scanner : Scanner) :
    (scanner.scan probe).1 = none ↔ scanner.isAtEnd = true := by
  constructor
  · intro nothing
    by_contra more
    obtain ⟨reading, found⟩ := reads scanner.caseSensitive _ (mt (isAtEnd_iff scanner).mpr more)
    rw [scan_of_some found] at nothing
    cases nothing
  · intro atEnd
    rw [scan_of_isAtEnd atEnd]

theorem scan_upTo_eq_none_iff (scanner : Scanner) (literal : List Char) :
    (scanner.scan (.upTo literal)).1 = none ↔ scanner.isAtEnd = true := by
  refine scan_eq_none_iff_isAtEnd (fun caseSensitive text nonempty => ?_) scanner
  exact ⟨_, if_neg (by simpa using nonempty)⟩

theorem scan_upToCharacters_eq_none_iff (scanner : Scanner) (set : CharSet) :
    (scanner.scan (.upToCharacters set)).1 = none ↔ scanner.isAtEnd = true := by
  refine scan_eq_none_iff_isAtEnd (fun caseSensitive text nonempty => ?_) scanner
  exact ⟨_, if_neg (by simpa using nonempty)⟩

theorem isAtEnd_scan_upTo {scanner : Scanner} {literal : List Char}
    (missing : ¬Occurs scanner.caseSensitive literal scanner.start.after) :
    (scanner.scan (.upTo literal)).2.isAtEnd = true := by
  by_cases atEnd : scanner.isAtEnd = true
  · rwa [scan_of_isAtEnd atEnd]
  · -- the search passes all that is ahead
    obtain ⟨passed, rest, split, first, -, remains, -⟩ :=
      scan_upTo_passed literal (mt (isAtEnd_iff scanner).mpr atEnd)
    rw [first.eq_of_not_occurs missing] at split
    apply isAtEnd_of_remaining
    rw [remains, List.self_eq_append_right.mp split]

/-- At the end, where only characters to be skipped are left, no probe finds anything. Anywhere else
both searches find something; and a search for a literal that does not occur ahead ends at the end. -/
theorem isAtEnd_iff_exhausted (scanner : Scanner) :
    ∃ run text, scanner.LongestSkip run ∧ scanner.remaining = run ++ text ∧
      (scanner.isAtEnd = true ↔ text = []) ∧
      (scanner.isAtEnd = true → ∀ {α : Type} (probe : Probe α),
        scanner.scan probe = (none, scanner)) ∧
      (∀ literal, (scanner.scan (.upTo literal)).1 = none ↔ scanner.isAtEnd = true) ∧
      (∀ set, (scanner.scan (.upToCharacters set)).1 = none ↔ scanner.isAtEnd = true) ∧
      ∀ literal, ¬Occurs scanner.caseSensitive literal text →
        (scanner.scan (.upTo literal)).2.isAtEnd = true :=
  ⟨scanner.skipped, scanner.start.after, longestSkip_skipped scanner, remaining_eq scanner,
    isAtEnd_iff scanner, fun atEnd _ probe => scan_of_isAtEnd atEnd probe,
    scan_upTo_eq_none_iff scanner, scan_upToCharacters_eq_none_iff scanner,
    fun _ => isAtEnd_scan_upTo⟩

-- blanks that are not skipped are not the end
example : isAtEnd { cursor := .ofText [' '] } = true ∧
    isAtEnd { cursor := .ofText [' '], skip := none } = false := by
  decide

end Scanner

end DeclScan
