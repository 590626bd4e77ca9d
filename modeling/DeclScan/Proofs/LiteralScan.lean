import DeclScan.Proofs.ScannerRun
import Mathlib.Data.List.Forall2
import Mathlib.Order.Bounds.Basic

/-!
Literals as characters and as bytes.

## Main result

`Scanner.scan_literal_agrees`: a literal is found exactly where it matches, the search for it stops
in front of the first match, and both answers are those of a comparison of bytes at every byte of
the text, inside of characters too.

## Proof strategy

Both scans ask `Literal.matchesAt`, so they agree on what a match is; the search is an induction on
the text. Letter case is folded character by character. Folding bytes instead comes to the same,
since the bytes of a character beyond ASCII are no letters, and the first byte of a literal stands
only where a character starts.
-/

namespace DeclScan

namespace Literal

open Text

/-! ### Letter case -/

/-- The same character, or the same ASCII letter in the other case. -/
def SameLetter (a b : Char) : Prop :=
  a = b ∨ ('A' ≤ a ∧ a ≤ 'Z' ∧ b.toNat = a.toNat + 32) ∨
    ('A' ≤ b ∧ b ≤ 'Z' ∧ a.toNat = b.toNat + 32)

theorem toNat_toLower (c : Char) :
    c.toLower.toNat = if 65 ≤ c.toNat ∧ c.toNat ≤ 90 then c.toNat + 32 else c.toNat := by
  have order (a b : Char) : a.val ≤ b.val ↔ a.toNat ≤ b.toNat := UInt32.le_iff_toNat_le
  unfold Char.toLower
  simp only [ge_iff_le, order, Char.reduceToNat]
  split
  next upper =>
    have sum : (c.val + ('a'.val - 'A'.val)).toNat = (c.val.toNat + 32) % 4294967296 := by
      rw [UInt32.toNat_add]
      rfl
    have small : c.val.toNat ≤ 90 := upper.2
    exact sum.trans (Nat.mod_eq_of_lt (by omega))
  next => rfl

theorem toLower_eq_iff (a b : Char) : a.toLower = b.toLower ↔ SameLetter a b := by
  have order (a b : Char) : a ≤ b ↔ a.toNat ≤ b.toNat := UInt32.le_iff_toNat_le
  rw [← Char.toNat_inj, toNat_toLower, toNat_toLower, SameLetter, ← Char.toNat_inj]
  simp only [order, Char.reduceToNat]
  split <;> split <;> omega

/-- The same word; if letter case does not count, the same up to the case of ASCII letters. -/
def SameWord (caseSensitive : Bool) (literal word : List Char) : Prop :=
  if caseSensitive then literal = word else List.Forall₂ SameLetter literal word

theorem sameWord_iff (caseSensitive : Bool) (literal word : List Char) :
    SameWord caseSensitive literal word ↔
      literal.map (fold caseSensitive) = word.map (fold caseSensitive) := by
  cases caseSensitive with
  | true =>
    have same : fold true = id := rfl
    simp only [SameWord, if_true, same, List.map_id]
  | false =>
    have folded : fold false = Char.toLower := rfl
    simp only [SameWord, Bool.false_eq_true, if_false, folded]
    rw [← List.forall₂_eq_eq_eq, List.forall₂_map_left_iff, List.forall₂_map_right_iff]
    simp only [toLower_eq_iff]

/-- The text starts with the literal. -/
def Matches (caseSensitive : Bool) (literal text : List Char) : Prop :=
  ∃ word, word <+: text ∧ SameWord caseSensitive literal word

theorem matchesAt_iff_matches (caseSensitive : Bool) (literal text : List Char) :
    matchesAt caseSensitive literal text = true ↔ Matches caseSensitive literal text := by
  rw [matchesAt_iff, List.prefix_map_iff]
  simp only [Matches, sameWord_iff]

/-- A word has as many characters as the literal that it matches. -/
theorem SameWord.length_eq {caseSensitive : Bool} {literal word : List Char}
    (same : SameWord caseSensitive literal word) : literal.length = word.length := by
  have length := congrArg List.length ((sameWord_iff caseSensitive literal word).mp same)
  simpa using length

/-! ### The first match -/

/-- `passed` is the shortest text in front of `text` behind which the literal matches, or all of
`text` if it matches nowhere. -/
def IsBefore (caseSensitive : Bool) (literal text passed : List Char) : Prop :=
  (∃ rest, text = passed ++ rest ∧ Matches caseSensitive literal rest ∧
      ∀ front back, text = front ++ back → Matches caseSensitive literal back →
        passed.length ≤ front.length) ∨
    passed = text ∧ ∀ front back, text = front ++ back → ¬Matches caseSensitive literal back

theorem before_go_eq (caseSensitive : Bool) (literal text passed : List Char) :
    before.go caseSensitive literal text passed =
      passed.reverse ++ before caseSensitive literal text := by
  unfold before
  induction text generalizing passed with
  | nil => simp [before.go]
  | cons c rest ih =>
    rw [before.go, before.go]
    split
    · simp
    · rw [ih (c :: passed), ih [c]]
      simp

theorem before_cons (caseSensitive : Bool) (literal : List Char) (c : Char) (rest : List Char) :
    before caseSensitive literal (c :: rest) =
      if matchesAt caseSensitive literal (c :: rest) then []
      else c :: before caseSensitive literal rest := by
  rw [before, before.go, before_go_eq]
  rfl

theorem IsBefore.cons {caseSensitive : Bool} {literal rest passed : List Char} {c : Char}
    (behind : IsBefore caseSensitive literal rest passed)
    (missing : ¬Matches caseSensitive literal (c :: rest)) :
    IsBefore caseSensitive literal (c :: rest) (c :: passed) := by
  rcases behind with ⟨more, rfl, matching, least⟩ | ⟨rfl, nowhere⟩
  · refine .inl ⟨more, rfl, matching, ?_⟩
    intro front back split there
    -- the match is not at the front, so it is one of what is behind the first character
    cases front with
    | nil => exact absurd (split ▸ there) missing
    | cons d front =>
      rw [List.cons_append, List.cons.injEq] at split
      exact Nat.succ_le_succ (least front back split.2 there)
  · refine .inr ⟨rfl, ?_⟩
    intro front back split there
    cases front with
    | nil => exact missing (split ▸ there)
    | cons d front =>
      rw [List.cons_append, List.cons.injEq] at split
      exact nowhere front back split.2 there

theorem search_isBefore (caseSensitive : Bool) (literal text : List Char) :
    IsBefore caseSensitive literal text (search caseSensitive literal text) := by
  rw [search_eq_before]
  induction text with
  | nil =>
    by_cases matching : Matches caseSensitive literal []
    · exact .inl ⟨[], rfl, matching, fun _ _ _ _ => Nat.zero_le _⟩
    · refine .inr ⟨rfl, ?_⟩
      intro front back split
      rw [(List.nil_eq_append_iff.mp split).2]
      exact matching
  | cons c rest ih =>
    rw [before_cons]
    split
    next matching =>
      rw [matchesAt_iff_matches] at matching
      exact .inl ⟨c :: rest, rfl, matching, fun _ _ _ _ => Nat.zero_le _⟩
    next missing =>
      rw [matchesAt_iff_matches] at missing
      exact ih.cons missing

theorem IsBefore.eq_nil_of_matches {caseSensitive : Bool} {literal text passed : List Char}
    (first : IsBefore caseSensitive literal text passed)
    (matching : Matches caseSensitive literal text) : passed = [] := by
  rcases first with ⟨rest, -, -, least⟩ | ⟨-, nowhere⟩
  · exact List.eq_nil_of_length_eq_zero (Nat.le_zero.mp (least [] text rfl matching))
  · exact absurd matching (nowhere [] text rfl)

theorem IsBefore.matches_behind {caseSensitive : Bool} {literal text passed rest : List Char}
    (first : IsBefore caseSensitive literal text passed) (split : text = passed ++ rest)
    (more : rest ≠ []) : Matches caseSensitive literal rest := by
  rcases first with ⟨rest', split', matching, -⟩ | ⟨whole, -⟩
  · rwa [List.append_cancel_left (split.symm.trans split')]
  · exact absurd (List.self_eq_append_right.mp (whole.trans split)) more

/-! ### Bytes -/

/-- What of a byte counts in a match. -/
def foldByte (caseSensitive : Bool) (b : UInt8) : UInt8 :=
  if caseSensitive then b else if 65 ≤ b ∧ b ≤ 90 then b + 32 else b

theorem toNat_foldByte (b : UInt8) :
    (foldByte false b).toNat = if 65 ≤ b.toNat ∧ b.toNat ≤ 90 then b.toNat + 32 else b.toNat := by
  have order (a b : UInt8) : a ≤ b ↔ a.toNat ≤ b.toNat := UInt8.le_iff_toNat_le
  simp only [foldByte, order, UInt8.reduceToNat, Bool.false_eq_true, if_false]
  split
  next upper =>
    rw [UInt8.toNat_add]
    exact Nat.mod_eq_of_lt (by simp only [UInt8.reduceToNat]; omega)
  next => rfl

/-- Folding the bytes of a character gives the bytes of the folded character. -/
theorem map_foldByte_utf8EncodeChar (caseSensitive : Bool) (c : Char) :
    (String.utf8EncodeChar c).map (foldByte caseSensitive) =
      String.utf8EncodeChar (fold caseSensitive c) := by
  cases caseSensitive with
  | true =>
    have same : foldByte true = id := rfl
    rw [same, List.map_id]
    rfl
  | false =>
    have folded : fold false c = c.toLower := rfl
    have lower := toNat_toLower c
    rw [folded]
    rcases Nat.lt_or_ge c.toNat 128 with ascii | wide
    · -- one byte, which is the character itself
      have ascii' : c.toLower.toNat < 128 := by
        rw [lower]
        split <;> omega
      rw [utf8EncodeChar_eq_byte ascii, utf8EncodeChar_eq_byte ascii', List.map_singleton,
        List.singleton_inj, ← UInt8.toNat_inj, toNat_foldByte,
        UInt8.toNat_ofNat_of_lt' (ascii.trans (by decide)),
        UInt8.toNat_ofNat_of_lt' (ascii'.trans (by decide)), lower]
    · -- beyond ASCII no byte is a letter, and neither is the character
      have same : c.toLower = c := by
        rw [← Char.toNat_inj, lower, if_neg (by omega)]
      have bytes : ∀ b ∈ String.utf8EncodeChar c, foldByte false b = id b := by
        intro b member
        have large := le_of_mem_utf8EncodeChar wide member
        rw [← UInt8.toNat_inj, toNat_foldByte, if_neg (by omega)]
        rfl
      rw [same, List.map_congr_left bytes, List.map_id]

theorem map_foldByte_bytes (caseSensitive : Bool) (text : List Char) :
    (bytes text).map (foldByte caseSensitive) = bytes (text.map (fold caseSensitive)) := by
  induction text with
  | nil => rfl
  | cons c rest ih => simp [ih, map_foldByte_utf8EncodeChar]

/-- The bytes of the text from `place` on start with those of the literal. -/
def BytesAt (caseSensitive : Bool) (literal text : List Char) (place : Nat) : Prop :=
  (bytes literal).map (foldByte caseSensitive) <+:
    ((bytes text).drop place).map (foldByte caseSensitive)

theorem bytesAt_iff_fold (caseSensitive : Bool) (literal text : List Char) (place : Nat) :
    BytesAt caseSensitive literal text place ↔
      bytes (literal.map (fold caseSensitive)) <+:
        (bytes (text.map (fold caseSensitive))).drop place := by
  rw [BytesAt, List.map_drop, map_foldByte_bytes, map_foldByte_bytes]

/-- At the front of a text the bytes of a literal stand exactly where the literal matches. -/
theorem bytesAt_zero_iff (caseSensitive : Bool) (literal text : List Char) :
    BytesAt caseSensitive literal text 0 ↔ Matches caseSensitive literal text := by
  rw [bytesAt_iff_fold, List.drop_zero, bytes_prefix_iff, ← matchesAt_iff, matchesAt_iff_matches]

theorem byteLength_fold (caseSensitive : Bool) (text : List Char) :
    byteLength (text.map (fold caseSensitive)) = byteLength text := by
  rw [← length_bytes, ← map_foldByte_bytes, List.length_map, length_bytes]

theorem SameWord.byteLength_eq {caseSensitive : Bool} {literal word : List Char}
    (same : SameWord caseSensitive literal word) : byteLength literal = byteLength word := by
  rw [← byteLength_fold caseSensitive literal, (sameWord_iff caseSensitive literal word).mp same,
    byteLength_fold]

/-- The bytes of a literal stand nowhere inside of a character. -/
theorem bytesAt_iff {literal : List Char} (nonempty : literal ≠ []) (caseSensitive : Bool)
    (text : List Char) (place : Nat) :
    BytesAt caseSensitive literal text place ↔
      ∃ front back, text = front ++ back ∧ byteLength front = place ∧
        Matches caseSensitive literal back := by
  have nonempty' : literal.map (fold caseSensitive) ≠ [] := by simpa using nonempty
  rw [bytesAt_iff_fold, bytes_prefix_drop_iff nonempty']
  constructor
  · rintro ⟨front', back', split, rfl, start⟩
    -- the folded text is cut where the text itself can be cut
    obtain ⟨front, back, rfl, rfl, rfl⟩ := List.map_eq_append_iff.mp split
    rw [← matchesAt_iff, matchesAt_iff_matches] at start
    exact ⟨front, back, rfl, (byteLength_fold caseSensitive front).symm, start⟩
  · rintro ⟨front, back, rfl, rfl, start⟩
    rw [← matchesAt_iff_matches, matchesAt_iff] at start
    exact ⟨_, _, List.map_append, byteLength_fold caseSensitive front, start⟩

theorem byteLength_mono_of_length {text front front' back back' : List Char}
    (split : text = front ++ back) (split' : text = front' ++ back')
    (shorter : front.length ≤ front'.length) : byteLength front ≤ byteLength front' := by
  obtain ⟨more, rfl⟩ : front <+: front' :=
    List.prefix_of_prefix_length_le ⟨back, split.symm⟩ ⟨back', split'.symm⟩ shorter
  simp

/-- What stands before the first match takes as many bytes as there are before the first place where
the bytes match. -/
theorem IsBefore.isLeast {caseSensitive : Bool} {literal text passed : List Char}
    (first : IsBefore caseSensitive literal text passed) :
    IsLeast {place | BytesAt caseSensitive literal text place} (byteLength passed) ∨
      passed = text ∧ ∀ place, ¬BytesAt caseSensitive literal text place := by
  by_cases empty : literal = []
  · -- the empty literal has no first byte, but it stands at the front already
    subst empty
    have matching : Matches caseSensitive [] text :=
      ⟨[], List.nil_prefix, (sameWord_iff caseSensitive [] []).mpr rfl⟩
    rw [first.eq_nil_of_matches matching]
    exact .inl ⟨(bytesAt_zero_iff caseSensitive [] text).mpr matching, fun _ _ => Nat.zero_le _⟩
  · have stands := bytesAt_iff empty caseSensitive text
    rcases first with ⟨rest, split, matching, least⟩ | ⟨whole, nowhere⟩
    · refine .inl ⟨(stands _).mpr ⟨passed, rest, split, rfl, matching⟩, ?_⟩
      intro place there
      obtain ⟨front, back, split', rfl, matching'⟩ := (stands place).mp there
      exact byteLength_mono_of_length split split' (least front back split' matching')
    · refine .inr ⟨whole, ?_⟩
      intro place there
      obtain ⟨front, back, split, -, matching⟩ := (stands place).mp there
      exact nowhere front back split matching

end Literal

namespace Scanner

/-! ### Scans for a literal -/

open Literal (Matches SameWord IsBefore BytesAt)

/-- What the two scans for `literal` do to `scanner`, if the characters to be skipped in front of
`text` take `skip` bytes. -/
structure LiteralLaw (scanner : Scanner) (literal text : List Char) (skip : Nat) : Prop where
  -- at the end of the text neither finds anything
  exhausted : text = [] →
    scanner.scan (.literal literal) = (none, scanner) ∧
      scanner.scan (.upTo literal) = (none, scanner)
  -- the literal is found where it matches
  found_iff : text ≠ [] →
    ((scanner.scan (.literal literal)).1.isSome ↔ Matches scanner.caseSensitive literal text)
  -- what is found is the literal up to letter case, and takes its bytes
  found : ∀ word, (scanner.scan (.literal literal)).1 = some word →
    word <+: text ∧ SameWord scanner.caseSensitive literal word ∧
      (scanner.scan (.literal literal)).2.offset =
        scanner.offset + skip + Text.byteLength literal
  -- the search passes what stands before the first match
  passed : text ≠ [] → ∃ passed rest,
    text = passed ++ rest ∧ IsBefore scanner.caseSensitive literal text passed ∧
      (scanner.scan (.upTo literal)).1 = some passed ∧
      (scanner.scan (.upTo literal)).2.remaining = rest ∧
      (scanner.scan (.upTo literal)).2.offset = scanner.offset + skip + Text.byteLength passed
  -- the search passes nothing exactly where the literal is found
  passed_nil_iff :
    (scanner.scan (.upTo literal)).1 = some [] ↔ (scanner.scan (.literal literal)).1.isSome
  -- the literal is found where the search stops, unless that is skipped
  found_behind : ∀ passed c rest, (scanner.scan (.upTo literal)).1 = some passed →
    (scanner.scan (.upTo literal)).2.remaining = c :: rest →
    (∀ set, scanner.skip = some set → set.contains c = false) →
      ((scanner.scan (.upTo literal)).2.scan (.literal literal)).1.isSome
  -- the literal is found where its bytes stand
  found_bytes : text ≠ [] →
    ((scanner.scan (.literal literal)).1.isSome ↔
      BytesAt scanner.caseSensitive literal text 0)
  -- the search stops at the first place where its bytes stand
  passed_bytes : ∀ passed, (scanner.scan (.upTo literal)).1 = some passed →
    IsLeast {place | BytesAt scanner.caseSensitive literal text place} (Text.byteLength passed) ∨
      passed = text ∧ ∀ place, ¬BytesAt scanner.caseSensitive literal text place

theorem start_after_of_outside {scanner : Scanner} {c : Char} {rest : List Char}
    (remains : scanner.remaining = c :: rest)
    (outside : ∀ set, scanner.skip = some set → set.contains c = false) :
    scanner.start.after = c :: rest := by
  have nothing : scanner.skipped = [] := by
    cases skips : scanner.skip with
    | none => exact skipped_of_none skips
    | some set =>
      rw [skipped_of_some skips, remains, CharSet.leading,
        List.takeWhile_cons_of_neg (by simp [outside set skips])]
  rw [← remains, remaining_eq, nothing, List.nil_append]

section

variable {scanner : Scanner} (literal : List Char) (nonempty : scanner.start.after ≠ [])
include nonempty

theorem read?_literal_eq :
    (Probe.literal literal).read? scanner.caseSensitive scanner.start.after =
      if Literal.matchesAt scanner.caseSensitive literal scanner.start.after then
        some ⟨scanner.start.after.take literal.length, literal.length⟩
      else none := by
  simp [Probe.read?, nonempty]

theorem read?_upTo_eq :
    (Probe.upTo literal).read? scanner.caseSensitive scanner.start.after =
      some ⟨Literal.search scanner.caseSensitive literal scanner.start.after,
        (Literal.search scanner.caseSensitive literal scanner.start.after).length⟩ := by
  simp [Probe.read?, nonempty]

theorem isSome_scan_literal_iff :
    (scanner.scan (.literal literal)).1.isSome ↔
      Matches scanner.caseSensitive literal scanner.start.after := by
  have read := read?_literal_eq literal nonempty
  rw [← Literal.matchesAt_iff_matches]
  split at read
  next matching => simp [scan_of_some read, matching]
  next missing => simp [scan_of_none read, missing]

theorem scan_literal_found {word : List Char}
    (found : (scanner.scan (.literal literal)).1 = some word) :
    word <+: scanner.start.after ∧ SameWord scanner.caseSensitive literal word ∧
      (scanner.scan (.literal literal)).2.offset =
        scanner.offset + Text.byteLength scanner.skipped + Text.byteLength literal := by
  have matching := (isSome_scan_literal_iff literal nonempty).mp (by simp [found])
  have read := read?_literal_eq literal nonempty
  rw [if_pos ((Literal.matchesAt_iff_matches _ _ _).mpr matching)] at read
  rw [scan_of_some read, Option.some.injEq] at found
  -- as many characters as the literal has are the word that matches it
  obtain ⟨word', start, same⟩ := matching
  have equal : scanner.start.after.take literal.length = word' := by
    rw [same.length_eq, ← List.prefix_iff_eq_take.mp start]
  subst found
  rw [offset_scan read]
  dsimp only
  rw [equal, same.byteLength_eq]
  exact ⟨start, same, rfl⟩

theorem scan_upTo_passed : ∃ passed rest,
    scanner.start.after = passed ++ rest ∧
      IsBefore scanner.caseSensitive literal scanner.start.after passed ∧
      (scanner.scan (.upTo literal)).1 = some passed ∧
      (scanner.scan (.upTo literal)).2.remaining = rest ∧
      (scanner.scan (.upTo literal)).2.offset =
        scanner.offset + Text.byteLength scanner.skipped + Text.byteLength passed := by
  have read := read?_upTo_eq literal nonempty
  have first := Literal.search_isBefore scanner.caseSensitive literal scanner.start.after
  have start := Literal.search_prefix scanner.caseSensitive literal scanner.start.after
  generalize Literal.search scanner.caseSensitive literal scanner.start.after = passed at *
  obtain ⟨rest, whole⟩ := start
  refine ⟨passed, rest, whole.symm, first, by rw [scan_of_some read], ?_, ?_⟩
  · rw [scan_of_some read, remaining, Cursor.after_advance, ← whole, List.drop_left]
  · rw [offset_scan read, ← whole, List.take_left]

end

theorem literalLaw_of_exhausted {scanner : Scanner} (literal : List Char) (skip : Nat)
    (exhausted : scanner.start.after = []) : LiteralLaw scanner literal [] skip := by
  constructor <;> simp [scan_of_exhausted exhausted]

theorem literalLaw (scanner : Scanner) (literal : List Char) :
    LiteralLaw scanner literal scanner.start.after (Text.byteLength scanner.skipped) := by
  by_cases exhausted : scanner.start.after = []
  · rw [exhausted]
    exact literalLaw_of_exhausted literal _ exhausted
  have found_iff := isSome_scan_literal_iff literal exhausted
  obtain ⟨passed, rest, split, first, returned, remains, offset⟩ :=
    scan_upTo_passed literal exhausted
  constructor
  case exhausted => exact fun empty => absurd empty exhausted
  case found_iff => exact fun _ => found_iff
  case found => exact fun word => scan_literal_found literal exhausted
  case passed => exact fun _ => ⟨passed, rest, split, first, returned, remains, offset⟩
  case passed_nil_iff =>
    rw [found_iff, returned, Option.some.injEq]
    constructor
    · intro nothing
      subst nothing
      exact split ▸ first.matches_behind split (split ▸ exhausted)
    · exact first.eq_nil_of_matches
  case found_behind =>
    intro _ c more _ stops outside
    -- the search changed neither what is skipped nor whether letter case counts
    have keeps := (scanLaw scanner (.upTo literal)).keeps
    have front := start_after_of_outside stops (keeps.2.1 ▸ outside)
    rw [isSome_scan_literal_iff literal (by simp [front]), front, keeps.2.2, ← stops, remains]
    exact first.matches_behind split (by simp [← remains, stops])
  case found_bytes => exact fun _ => by rw [found_iff, Literal.bytesAt_zero_iff]
  case passed_bytes =>
    intro passed' returned'
    obtain rfl : passed = passed' := Option.some.inj (returned.symm.trans returned')
    exact first.isLeast

/-- Behind the characters to be skipped, finding a literal and searching for it obey `LiteralLaw`:
the first tells whether the literal matches there, the second stops at the first match, and both
agree with a comparison of bytes. -/
theorem scan_literal_agrees (scanner : Scanner) (literal : List Char) :
    ∃ run text, scanner.LongestSkip run ∧ scanner.remaining = run ++ text ∧
      scanner.LiteralLaw literal text (Text.byteLength run) :=
  ⟨scanner.skipped, scanner.start.after, longestSkip_skipped scanner, remaining_eq scanner,
    literalLaw scanner literal⟩

end Scanner

end DeclScan
