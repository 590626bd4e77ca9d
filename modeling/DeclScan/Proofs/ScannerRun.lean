import DeclScan.Session
import DeclScan.Proofs.Utf8
import Mathlib.Data.List.TakeWhile

/-!
What a scanner keeps, whatever is done to it.

## Main result

`Session.run_invariant`: after any sequence of operations the scanner stands on a character boundary
of the text it started with, and each scan from there either leaves it as it was or moves it
forward, behind the characters to be skipped and over exactly the text that it returns.

## Proof strategy

A cursor holds its text in two halves, so it cannot leave the character boundaries; what remains is
that no operation changes the text, and what a probe reads off the front of a text. The latter is
one case for each probe (`Probe.read?_spells`, `Probe.read?_consumes`).
-/

namespace DeclScan

namespace Literal

theorem before_go_prefix (caseSensitive : Bool) (literal text passed : List Char) :
    before.go caseSensitive literal text passed <+: passed.reverse ++ text := by
  induction text generalizing passed with
  | nil => simp [before.go]
  | cons c rest ih =>
    rw [before.go]
    split
    · exact List.prefix_append _ _
    · simpa using ih (c :: passed)

theorem search_prefix (caseSensitive : Bool) (literal text : List Char) :
    search caseSensitive literal text <+: text := by
  rw [search_eq_before]
  exact before_go_prefix caseSensitive literal text []

end Literal

namespace Probe

/-! ### What a probe reads -/

/-- Whether a probe that reads something must pass over at least one character. -/
def consumes {α : Type} : Probe α → Bool
  | characters _ => true
  | upToCharacters _ => false
  | literal wanted => !wanted.isEmpty
  | upTo _ => false
  | signed _ => true
  | unsigned _ => true
  | hexadecimal _ => true
  | decimal => true
  | number _ _ => true

/-- The text that a probe returns, if it is one of those that return text. -/
def spelled {α : Type} : Probe α → α → Option (List Char)
  | characters _, text => some text
  | upToCharacters _, text => some text
  | literal _, text => some text
  | upTo _, text => some text
  | signed _, _ => none
  | unsigned _, _ => none
  | hexadecimal _, _ => none
  | decimal, _ => none
  | number _ _, _ => none

private theorem eq_take_length {run text : List Char} (start : run <+: text) :
    run = text.take run.length :=
  List.prefix_iff_eq_take.mp start

theorem read?_spells {α : Type} {caseSensitive : Bool} {probe : Probe α} {text run : List Char}
    {reading : Reading α} (found : probe.read? caseSensitive text = some reading)
    (spells : probe.spelled reading.value = some run) : run = text.take reading.width := by
  -- the text probes return what they measure; the others return no text
  cases probe with
  | characters set =>
    simp only [read?, Option.ite_none_left_eq_some, Option.some.injEq] at found
    obtain ⟨-, rfl⟩ := found
    cases spells
    exact eq_take_length (List.takeWhile_prefix _)
  | upToCharacters set =>
    simp only [read?, Option.ite_none_left_eq_some, Option.some.injEq] at found
    obtain ⟨-, rfl⟩ := found
    cases spells
    exact eq_take_length (List.takeWhile_prefix _)
  | literal wanted =>
    simp only [read?, Option.ite_none_left_eq_some, Option.ite_none_right_eq_some,
      Option.some.injEq] at found
    obtain ⟨-, -, rfl⟩ := found
    cases spells
    rfl
  | upTo wanted =>
    simp only [read?, Option.ite_none_left_eq_some, Option.some.injEq] at found
    obtain ⟨-, rfl⟩ := found
    cases spells
    exact eq_take_length (Literal.search_prefix caseSensitive wanted text)
  | signed bits => cases spells
  | unsigned bits => cases spells
  | hexadecimal bits => cases spells
  | decimal => cases spells
  | number radix format => cases spells

theorem width_pos_of_numeral {radix : Radix} {text : List Char} {numeral : Numeral}
    (found : Numeral.read? radix text = some numeral) : 0 < numeral.width := by
  obtain ⟨body, lexed, rfl⟩ := Option.map_eq_some_iff.mp found
  -- one of the two runs of digits is not empty
  simp only [Numeral.body?, Option.ite_none_left_eq_some, Option.some.injEq] at lexed
  obtain ⟨digits, rfl⟩ := lexed
  simp only [List.isEmpty_iff_length_eq_zero] at digits
  dsimp only
  omega

theorem read?_consumes {α : Type} {caseSensitive : Bool} {probe : Probe α} {text : List Char}
    {reading : Reading α} (found : probe.read? caseSensitive text = some reading)
    (must : probe.consumes = true) : 0 < reading.width := by
  -- the numeric probes pass over their sign and marks, and over at least one digit
  cases probe with
  | characters set =>
    simp only [read?, Option.ite_none_left_eq_some, Option.some.injEq] at found
    obtain ⟨members, rfl⟩ := found
    exact List.length_pos_iff.mpr (mt List.isEmpty_iff.mpr members)
  | upToCharacters set => cases must
  | literal wanted =>
    simp only [read?, Option.ite_none_left_eq_some, Option.ite_none_right_eq_some,
      Option.some.injEq] at found
    obtain ⟨-, -, rfl⟩ := found
    exact List.length_pos_iff.mpr (by simpa [consumes] using must)
  | upTo wanted => cases must
  | signed bits =>
    simp only [read?, Integer.readSigned?, Option.ite_none_left_eq_some] at found
    obtain ⟨digits, found⟩ := found
    have some_digit := List.length_pos_iff.mpr (mt List.isEmpty_iff.mpr digits)
    split at found
    all_goals
      obtain ⟨magnitude, -, rfl⟩ := Option.map_eq_some_iff.mp found
      exact Nat.add_pos_right _ some_digit
  | unsigned bits =>
    simp only [read?, Integer.readUnsigned?, Option.ite_none_left_eq_some] at found
    obtain ⟨digits, found⟩ := found
    obtain ⟨magnitude, -, rfl⟩ := Option.map_eq_some_iff.mp found
    exact Nat.add_pos_right _ (List.length_pos_iff.mpr (mt List.isEmpty_iff.mpr digits))
  | hexadecimal bits =>
    simp only [read?, Integer.readHex?, Option.ite_none_left_eq_some] at found
    obtain ⟨digits, found⟩ := found
    obtain ⟨magnitude, -, rfl⟩ := Option.map_eq_some_iff.mp found
    exact Nat.add_pos_right _ (List.length_pos_iff.mpr (mt List.isEmpty_iff.mpr digits))
  | decimal =>
    obtain ⟨numeral, lexed, found⟩ := Option.bind_eq_some_iff.mp found
    obtain ⟨value, -, rfl⟩ := Option.map_eq_some_iff.mp found
    exact width_pos_of_numeral lexed
  | number radix format =>
    obtain ⟨numeral, lexed, found⟩ := Option.bind_eq_some_iff.mp found
    obtain ⟨value, -, rfl⟩ := Option.map_eq_some_iff.mp found
    exact width_pos_of_numeral lexed

theorem read?_nil {α : Type} (caseSensitive : Bool) (probe : Probe α) :
    probe.read? caseSensitive [] = none := by
  cases probe with
  | characters set => rfl
  | upToCharacters set => rfl
  | literal wanted => rfl
  | upTo wanted => rfl
  | signed bits => rfl
  | unsigned bits => rfl
  | hexadecimal bits => rfl
  | decimal => rfl
  | number radix format => cases radix <;> rfl

end Probe

namespace Scanner

/-! ### One scan -/

/-- `run` is the longest text in front of the scanner that consists of characters to be skipped. -/
def LongestSkip (scanner : Scanner) (run : List Char) : Prop :=
  match scanner.skip with
  | none => run = []
  | some set =>
    (run <+: scanner.remaining ∧ ∀ c ∈ run, set.contains c = true) ∧
      ∀ longer, longer <+: scanner.remaining → (∀ c ∈ longer, set.contains c = true) →
        longer.length ≤ run.length

theorem skipped_of_none {scanner : Scanner} (nothing : scanner.skip = none) :
    scanner.skipped = [] := by
  rw [skipped, nothing]

theorem skipped_of_some {scanner : Scanner} {set : CharSet} (skips : scanner.skip = some set) :
    scanner.skipped = set.leading scanner.remaining := by
  rw [skipped, skips]

theorem skipped_prefix (scanner : Scanner) : scanner.skipped <+: scanner.remaining := by
  cases skips : scanner.skip with
  | none =>
    rw [skipped_of_none skips]
    exact List.nil_prefix
  | some set =>
    rw [skipped_of_some skips]
    exact List.takeWhile_prefix _

theorem longestSkip_skipped (scanner : Scanner) : scanner.LongestSkip scanner.skipped := by
  unfold LongestSkip
  split
  next skips => exact skipped_of_none skips
  next set skips =>
    rw [skipped_of_some skips]
    refine ⟨⟨List.takeWhile_prefix _, fun c member => List.mem_takeWhile_imp member⟩, ?_⟩
    -- a prefix of members is passed over whole before the run can end
    rintro longer ⟨rest, equal⟩ members
    rw [CharSet.leading, ← equal, List.takeWhile_append_of_pos members, List.length_append]
    omega

theorem remaining_eq (scanner : Scanner) :
    scanner.remaining = scanner.skipped ++ scanner.start.after := by
  obtain ⟨rest, whole⟩ := skipped_prefix scanner
  rw [start, Cursor.after_advance, ← remaining, ← whole, List.drop_left]

theorem offset_start (scanner : Scanner) :
    scanner.start.offset = scanner.offset + Text.byteLength scanner.skipped := by
  obtain ⟨rest, equal⟩ := skipped_prefix scanner
  rw [start, Cursor.offset_advance, ← remaining, ← equal, List.take_left]
  rfl

theorem source_eq_start (scanner : Scanner) :
    scanner.source = scanner.start.before.reverse ++ scanner.start.after := by
  rw [source, ← Cursor.text_advance scanner.cursor scanner.skipped.length]
  rfl

theorem isValid_offset (scanner : Scanner) :
    String.Pos.Raw.IsValid (String.ofList scanner.source) ⟨scanner.offset⟩ := by
  have boundary := Text.isValid_byteLength scanner.cursor.before.reverse scanner.cursor.after
  rwa [Text.byteLength_reverse] at boundary

theorem scan_of_none {α : Type} {scanner : Scanner} {probe : Probe α}
    (nothing : probe.read? scanner.caseSensitive scanner.start.after = none) :
    scanner.scan probe = (none, scanner) := by
  rw [scan, nothing]

theorem scan_of_exhausted {scanner : Scanner} (exhausted : scanner.start.after = []) {α : Type}
    (probe : Probe α) : scanner.scan probe = (none, scanner) := by
  apply scan_of_none
  rw [exhausted, Probe.read?_nil]

theorem scan_of_some {α : Type} {scanner : Scanner} {probe : Probe α} {reading : Reading α}
    (found : probe.read? scanner.caseSensitive scanner.start.after = some reading) :
    scanner.scan probe =
      (some reading.value, { scanner with cursor := scanner.start.advance reading.width }) := by
  rw [scan, found]

theorem offset_scan {α : Type} {scanner : Scanner} {probe : Probe α} {reading : Reading α}
    (found : probe.read? scanner.caseSensitive scanner.start.after = some reading) :
    (scanner.scan probe).2.offset =
      scanner.offset + Text.byteLength scanner.skipped +
        Text.byteLength (scanner.start.after.take reading.width) := by
  rw [scan_of_some found, ← offset_start]
  exact Cursor.offset_advance scanner.start reading.width

/-- What a scan with `probe` does to `scanner`, if the characters to be skipped in front of it take
`skip` bytes. -/
structure ScanLaw {α : Type} (scanner : Scanner) (probe : Probe α) (skip : Nat) : Prop where
  -- a scan that finds nothing leaves the scanner as it was
  unchanged : (scanner.scan probe).1 = none → (scanner.scan probe).2 = scanner
  -- a scan changes nothing but the place
  keeps : (scanner.scan probe).2.source = scanner.source ∧
    (scanner.scan probe).2.skip = scanner.skip ∧
    (scanner.scan probe).2.caseSensitive = scanner.caseSensitive
  -- a scan that finds something ends behind the characters to be skipped
  forward : ∀ value, (scanner.scan probe).1 = some value →
    scanner.offset + skip ≤ (scanner.scan probe).2.offset
  -- most probes do not find an empty text
  advances : ∀ value, (scanner.scan probe).1 = some value → probe.consumes = true →
    scanner.offset + skip < (scanner.scan probe).2.offset
  -- a text that is found has the bytes of the source between the two offsets
  spells : ∀ value text, (scanner.scan probe).1 = some value → probe.spelled value = some text →
    (String.ofList scanner.source).toByteArray.extract (scanner.offset + skip)
      (scanner.scan probe).2.offset = (String.ofList text).toByteArray

theorem extract_scan {α : Type} {scanner : Scanner} {probe : Probe α} {reading : Reading α}
    (found : probe.read? scanner.caseSensitive scanner.start.after = some reading) :
    (String.ofList scanner.source).toByteArray.extract
        (scanner.offset + Text.byteLength scanner.skipped) (scanner.scan probe).2.offset =
      (String.ofList (scanner.start.after.take reading.width)).toByteArray := by
  have place : Text.byteLength scanner.start.before.reverse =
      scanner.offset + Text.byteLength scanner.skipped := by
    rw [Text.byteLength_reverse, ← offset_start]
    rfl
  -- the source in three parts: what was skipped or passed before, what is read, and the rest
  have whole : scanner.source = scanner.start.before.reverse ++
      scanner.start.after.take reading.width ++ scanner.start.after.drop reading.width := by
    rw [source_eq_start, List.append_assoc, List.take_append_drop]
  rw [whole, offset_scan found, ← place, ← Text.byteLength_append]
  exact Text.extract_toByteArray _ _ _

theorem byteLength_take_pos {text : List Char} {width : Nat} (nonempty : text ≠ [])
    (positive : 0 < width) : 0 < Text.byteLength (text.take width) := by
  obtain ⟨c, rest, rfl⟩ := List.exists_cons_of_ne_nil nonempty
  obtain ⟨width, rfl⟩ := Nat.exists_eq_add_of_lt positive
  have size := c.utf8Size_pos
  simp only [Nat.zero_add, List.take_succ_cons, Text.byteLength_cons]
  omega

theorem scanLaw {α : Type} (scanner : Scanner) (probe : Probe α) :
    ScanLaw scanner probe (Text.byteLength scanner.skipped) := by
  cases found : probe.read? scanner.caseSensitive scanner.start.after with
  | none =>
    have same := scan_of_none found
    constructor
    · intro _
      rw [same]
    · rw [same]
      exact ⟨rfl, rfl, rfl⟩
    · intro value returned
      rw [same] at returned
      cases returned
    · intro value returned
      rw [same] at returned
      cases returned
    · intro value text returned
      rw [same] at returned
      cases returned
  | some reading =>
    have moved := scan_of_some found
    have offset := offset_scan found
    constructor
    · intro nothing
      rw [moved] at nothing
      cases nothing
    · refine ⟨source_scan scanner probe, ?_⟩
      rw [moved]
      exact ⟨rfl, rfl⟩
    · intro _ _
      omega
    · intro _ _ must
      -- a width counts characters only as long as there are some
      have nonempty : scanner.start.after ≠ [] := by
        intro empty
        rw [empty, Probe.read?_nil] at found
        cases found
      have passed := byteLength_take_pos nonempty (Probe.read?_consumes found must)
      omega
    · intro value text returned spelled
      rw [moved] at returned
      cases returned
      rw [extract_scan found, Probe.read?_spells found spelled]

end Scanner

namespace Session

/-! ### All states of a session -/

/-- Every state of the session is over the text `source`. -/
def Over (source : List Char) (session : Session) : Prop :=
  session.scanner.source = source ∧ ∀ scanner ∈ session.earlier, scanner.source = source

theorem source_next {source : List Char} {session : Session} (held : session.Over source)
    (operation : Operation) : (session.next operation).source = source := by
  cases operation with
  | scan probe => rw [next, Scanner.source_scan, held.1]
  | setSkip skip => exact held.1
  | setCaseSensitive caseSensitive => exact held.1
  | restore back =>
    -- an earlier state is over the same text, and a missing one changes nothing
    rw [next]
    cases state : session.earlier[back]? with
    | none => exact held.1
    | some scanner => exact held.2 scanner (List.mem_of_getElem? state)

theorem over_step {source : List Char} {session : Session} (held : session.Over source)
    (operation : Operation) : (session.step operation).Over source := by
  refine ⟨source_next held operation, ?_⟩
  intro scanner member
  rcases List.mem_cons.mp member with rfl | before
  · exact held.1
  · exact held.2 scanner before

theorem over_run {source : List Char} {session : Session} (held : session.Over source)
    (operations : List Operation) : (session.run operations).Over source := by
  induction operations generalizing session with
  | nil => exact held
  | cons operation rest ih => exact ih (over_step held operation)

/-- After any operations on a scanner that starts at the front of a text, with any settings, the
scanner stands on a character boundary of that text, and every scan from there obeys `ScanLaw`. -/
theorem run_invariant (source : List Char) (skip : Option CharSet) (caseSensitive : Bool)
    (operations : List Operation) :
    let scanner := ((start ⟨.ofText source, skip, caseSensitive⟩).run operations).scanner
    scanner.source = source ∧ scanner.offset ≤ (String.ofList source).utf8ByteSize ∧
      String.Pos.Raw.IsValid (String.ofList source) ⟨scanner.offset⟩ ∧
      ∃ run, scanner.LongestSkip run ∧
        ∀ {α : Type} (probe : Probe α), scanner.ScanLaw probe (Text.byteLength run) := by
  intro scanner
  have begin : (start ⟨.ofText source, skip, caseSensitive⟩).Over source :=
    ⟨Cursor.text_ofText source, by simp [start]⟩
  have same : scanner.source = source := (over_run begin operations).1
  have boundary := Scanner.isValid_offset scanner
  rw [same] at boundary
  exact ⟨same, boundary.le_utf8ByteSize, boundary, scanner.skipped,
    Scanner.longestSkip_skipped scanner, fun probe => Scanner.scanLaw scanner probe⟩

end Session

end DeclScan
