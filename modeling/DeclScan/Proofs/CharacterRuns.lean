import DeclScan.Proofs.Machine.Members
import DeclScan.Proofs.ScannerRun

/-!
What membership in a set settles.

## Main result

`CharSet.membership_settles_search`: a set made of listed characters has these as members and no
others, and a complement has exactly the characters that are no members. Whatever the set, a search in
a text passes over the longest run of members, or of other characters, and ends on a character
boundary. So a scan up to the members of a set and a scan over its complement pass over the same text,
except that the latter does not find an empty one.

## Proof strategy

Both searches are a `takeWhile` with a test or its negation, and inverting a set negates its test
(`CharSet.leading_invert`). That runs taken so are the longest (`longestRun_takeWhile`) is all that is
needed of either.
-/

namespace DeclScan

open Text

/-- `run` is the longest text in front of `text` all of whose characters have the property. -/
structure LongestRun (member : Char → Prop) (text run : List Char) : Prop where
  start : run <+: text
  members : ∀ c ∈ run, member c
  longest : ∀ longer, longer <+: text → (∀ c ∈ longer, member c) → longer <+: run

theorem longestRun_takeWhile (member : Char → Bool) (text : List Char) :
    LongestRun (fun c => member c = true) text (text.takeWhile member) := by
  refine ⟨List.takeWhile_prefix _, fun c inside => List.mem_takeWhile_imp inside, ?_⟩
  rintro longer ⟨rest, rfl⟩ members
  rw [List.takeWhile_append_of_pos members]
  exact List.prefix_append _ _

theorem LongestRun.isValid {member : Char → Prop} {text run : List Char}
    (longest : LongestRun member text run) :
    String.Pos.Raw.IsValid (String.ofList text) ⟨byteLength run⟩ := by
  obtain ⟨rest, rfl⟩ := longest.start
  exact isValid_byteLength run rest

namespace CharSet

@[simp] theorem leading_invert (set : CharSet) (text : List Char) :
    set.invert.leading text = set.before text := by
  rw [leading, before, funext (contains_invert set)]

theorem longestRun_leading (set : CharSet) (text : List Char) :
    LongestRun (fun c => set.contains c = true) text (set.leading text) :=
  longestRun_takeWhile set.contains text

theorem longestRun_before (set : CharSet) (text : List Char) :
    LongestRun (fun c => set.contains c = false) text (set.before text) := by
  simpa [before] using longestRun_takeWhile (fun c => !set.contains c) text

/-- What a search for the end of the members in front of a text, or for the first member, comes to. -/
structure SearchLaw (set : CharSet) (text : List Char) : Prop where
  -- both measure a longest run
  leading : ∃ run, LongestRun (fun c => set.contains c = true) text run ∧
    set.leadingLength text = byteLength run
  before : ∃ run, LongestRun (fun c => set.contains c = false) text run ∧
    set.firstMember text = byteLength run
  -- looking for a member is passing over the complement
  complement : set.firstMember text = set.invert.leadingLength text
  -- both end on a character boundary
  boundary : String.Pos.Raw.IsValid (String.ofList text) ⟨set.leadingLength text⟩
  boundary' : String.Pos.Raw.IsValid (String.ofList text) ⟨set.firstMember text⟩
  -- walks over the characters with their offsets come to the same
  walks : Machine.leadingLength set text = set.leadingLength text ∧
    Machine.firstMember set text = set.firstMember text

theorem searchLaw (set : CharSet) (text : List Char) : SearchLaw set text where
  leading := ⟨set.leading text, longestRun_leading set text, rfl⟩
  before := ⟨set.before text, longestRun_before set text, rfl⟩
  complement := by simp [firstMember, leadingLength]
  boundary := (longestRun_leading set text).isValid
  boundary' := (longestRun_before set text).isValid
  walks := ⟨Machine.leadingLength_eq set text, Machine.firstMember_eq set text⟩

end CharSet

namespace Scanner

theorem scan_upToCharacters {scanner : Scanner} (set : CharSet) (more : scanner.start.after ≠ []) :
    scanner.scan (.upToCharacters set) = (some (set.before scanner.start.after),
      { scanner with
        cursor := scanner.start.advance (set.before scanner.start.after).length }) := by
  have found : (Probe.upToCharacters set).read? scanner.caseSensitive scanner.start.after =
      some ⟨set.before scanner.start.after, (set.before scanner.start.after).length⟩ := by
    simp [Probe.read?, more]
  exact scan_of_some found

theorem scan_characters {scanner : Scanner} {set : CharSet}
    (some_member : set.leading scanner.start.after ≠ []) :
    scanner.scan (.characters set) = (some (set.leading scanner.start.after),
      { scanner with
        cursor := scanner.start.advance (set.leading scanner.start.after).length }) := by
  have found : (Probe.characters set).read? scanner.caseSensitive scanner.start.after =
      some ⟨set.leading scanner.start.after, (set.leading scanner.start.after).length⟩ := by
    simp [Probe.read?, some_member]
  exact scan_of_some found

theorem scan_characters_none {scanner : Scanner} {set : CharSet}
    (no_member : set.leading scanner.start.after = []) :
    scanner.scan (.characters set) = (none, scanner) := by
  apply scan_of_none
  simp [Probe.read?, no_member]

theorem offset_behind_run {scanner : Scanner} {member : Char → Prop} {run : List Char}
    (longest : LongestRun member scanner.start.after run) :
    (scanner.start.advance run.length).offset =
      scanner.offset + byteLength scanner.skipped + byteLength run := by
  rw [Cursor.offset_advance, offset_start, ← List.prefix_iff_eq_take.mp longest.start]

/-- With `text` ahead behind `skip` bytes, a scan up to the members of `set` passes over the longest run
of other characters, and a scan over the complement passes over the same run, unless it is empty. -/
def ComplementLaw (scanner : Scanner) (set : CharSet) (skip : ℕ) (text : List Char) : Prop :=
  ∃ run moved, LongestRun (fun c => set.contains c = false) text run ∧
    scanner.scan (.upToCharacters set) = (some run, moved) ∧
    moved.offset = scanner.offset + skip + byteLength run ∧
    (run ≠ [] → scanner.scan (.characters set.invert) = (some run, moved)) ∧
    (run = [] → scanner.scan (.characters set.invert) = (none, scanner))

theorem complementLaw (scanner : Scanner) (set : CharSet) (more : scanner.start.after ≠ []) :
    scanner.ComplementLaw set (byteLength scanner.skipped) scanner.start.after := by
  have longest := set.longestRun_before scanner.start.after
  refine ⟨_, _, longest, scan_upToCharacters set more, offset_behind_run longest, ?_, ?_⟩
  · intro nonempty
    rw [← CharSet.leading_invert] at nonempty ⊢
    exact scan_characters nonempty
  · intro empty
    apply scan_characters_none
    simpa using empty

end Scanner

/-- A set made of listed characters has these as members and no others, and the complement has exactly
the characters that are no members. A search obeys `SearchLaw`, and a scan that has some text ahead of
it obeys `ComplementLaw`. -/
theorem CharSet.membership_settles_search (set : CharSet) :
    (∀ word, (∀ c, (ofChars word).contains c = true ↔ c ∈ word) ∧
        ∃ members, ofChars word = listed members ∧ members.toList = Machine.inOrder word) ∧
      (∀ c, set.invert.contains c = true ↔ set.contains c = false) ∧
      (∀ c, set.invert.invert.contains c = set.contains c) ∧
      (∀ c, Machine.contains set c = set.contains c) ∧
      (∀ text, SearchLaw set text) ∧
      ∀ scanner : Scanner, ∃ run text, scanner.LongestSkip run ∧ scanner.remaining = run ++ text ∧
        (text ≠ [] → scanner.ComplementLaw set (byteLength run) text) := by
  refine ⟨?_, ?_, ?_, Machine.contains_eq set, searchLaw set, ?_⟩
  · intro word
    exact ⟨by simp, _, rfl, Machine.toList_ofList word⟩
  · simp
  · simp
  · intro scanner
    exact ⟨_, _, scanner.longestSkip_skipped, scanner.remaining_eq, scanner.complementLaw set⟩

-- the search counts bytes
example : (CharSet.satisfying (· == '=')).firstMember ['é', '='] = 2 := by
  decide

-- the scan is behind the blank, and its complement over the same text
example : ((Scanner.ofText " é=".toList).scan (.characters (.complement (.ofChars ['='])))).1 =
    some ['é'] := by
  decide

end DeclScan
