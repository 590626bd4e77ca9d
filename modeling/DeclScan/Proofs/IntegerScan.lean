import DeclScan.Proofs.NumeralGrammar
import DeclScan.Proofs.ScannerRun
import Mathlib.Tactic.NormNum

/-!
Scanning integers.

## Main result

`Scanner.scan_integer_exact`: an integer is scanned exactly if a sign or a mark and as many digits as
there are stand in front of the text ahead, and the number that they denote fits the given number of
bits. The scanner then stands behind the digits, however many there are and however many of them are
zeros; otherwise it stays as it was. What is written for a number is scanned to that number.

## Proof strategy

The three forms of integers differ in what stands in front of the digits. Whatever that is, it ends
where the digits begin, so the digits that are read are those that the form asks for
(`Integer.IsRun`). Each reader then answers for the form what the value of its digits demands
(`Integer.readSigned?_eq` and its like), and it finds nothing where the form does not stand
(`Integer.exists_run`).
-/

namespace DeclScan

open Text
open Numeral (IsSign IsMark IsWord)

namespace Integer

/-! ### The forms of integers -/

/-- A word of digits that does not go on in `rest`. -/
structure IsRun (radix : Radix) (digits rest : List Char) : Prop where
  word : IsWord radix digits
  ends : ∀ c, rest.head? = some c → radix.isDigit c = false

/-- `word` in front of `rest` is `[+-]? digit+` with all digits that follow, and denotes `value`. -/
inductive Signed : (word rest : List Char) → ℤ → Prop where
  | parts {sign digits rest : List Char} {negative : Bool} (signed : IsSign sign negative)
      (run : IsRun .decimal digits rest) :
      Signed (sign ++ digits) rest
        (if negative then -(Digits.value 10 digits : ℤ) else Digits.value 10 digits)

/-- `word` in front of `rest` is `+? digit+` with all digits that follow, and denotes `value`. -/
inductive Unsigned : (word rest : List Char) → ℕ → Prop where
  | parts {sign digits rest : List Char} (signed : IsSign sign false)
      (run : IsRun .decimal digits rest) :
      Unsigned (sign ++ digits) rest (Digits.value 10 digits)

/-- `0x` or `0X` and a digit stand in front of `text`. -/
def Marked (text : List Char) : Prop :=
  ∃ mark c rest, text = '0' :: mark :: c :: rest ∧ (mark = 'x' ∨ mark = 'X') ∧
    Radix.hexadecimal.isDigit c = true

/-- `word` in front of `rest` is `(0[xX])? hexdigit+` with all digits that follow, and denotes `value`.
Where a mark stands in front of a digit it is part of the word. -/
inductive Hexadecimal : (word rest : List Char) → ℕ → Prop where
  | parts {mark digits rest : List Char} (marked : IsMark .hexadecimal mark)
      (run : IsRun .hexadecimal digits rest) (unmarked : mark = [] → ¬Marked (digits ++ rest)) :
      Hexadecimal (mark ++ digits) rest (Digits.value 16 digits)

/-! ### Digits in front of a text -/

theorem IsRun.takeWhile_eq {radix : Radix} {digits rest : List Char}
    (run : IsRun radix digits rest) : (digits ++ rest).takeWhile radix.isDigit = digits := by
  rw [List.takeWhile_append_of_pos run.word.2]
  cases rest with
  | nil => simp
  | cons c rest => simp [run.ends c rfl]

theorem IsRun.isEmpty_eq {radix : Radix} {digits rest : List Char} (run : IsRun radix digits rest) :
    digits.isEmpty = false := by
  simpa using run.word.1

/-- Digits that are found behind `start` characters are a run. -/
theorem exists_run {radix : Radix} {text : List Char} {start : ℕ}
    (digits : (text.drop start).takeWhile radix.isDigit ≠ []) :
    ∃ digits rest, text = text.take start ++ (digits ++ rest) ∧ IsRun radix digits rest := by
  refine ⟨(text.drop start).takeWhile radix.isDigit, (text.drop start).dropWhile radix.isDigit, ?_,
    ⟨digits, fun c member => List.mem_takeWhile_imp member⟩, ?_⟩
  · rw [List.takeWhile_append_dropWhile, List.take_append_drop]
  · intro c first
    have stop := List.head?_dropWhile_not radix.isDigit (text.drop start)
    rwa [first] at stop

/-- In front of a text `read` finds the word that has the form, if its value fits. -/
structure Reads {α : Type} (read : List Char → Option (Reading α))
    (form : (word rest : List Char) → α → Prop) (fits : α → Prop) [DecidablePred fits] : Prop where
  read_eq : ∀ word rest value, form word rest value →
    read (word ++ rest) = if fits value then some ⟨value, word.length⟩ else none
  formed : ∀ text reading, read text = some reading →
    ∃ word rest value, text = word ++ rest ∧ form word rest value

theorem Reads.eq_some_iff {α : Type} {read : List Char → Option (Reading α)}
    {form : (word rest : List Char) → α → Prop} {fits : α → Prop} [DecidablePred fits]
    (reads : Reads read form fits) (text : List Char) (reading : Reading α) :
    read text = some reading ↔ ∃ word rest, text = word ++ rest ∧
      (form word rest reading.value ∧ fits reading.value) ∧ reading.width = word.length := by
  constructor
  · intro found
    obtain ⟨word, rest, value, rfl, formed⟩ := reads.formed text _ found
    rw [reads.read_eq word rest value formed, Option.ite_none_right_eq_some,
      Option.some.injEq] at found
    obtain ⟨fitting, rfl⟩ := found
    exact ⟨word, rest, rfl, ⟨formed, fitting⟩, rfl⟩
  · rintro ⟨word, rest, rfl, ⟨formed, fitting⟩, width⟩
    rw [reads.read_eq word rest reading.value formed, if_pos fitting, ← width]

/-- A word whose value needs no more than `bits` bits. -/
theorem map_valueBelow? {α : Type} {base : ℕ} (positive : 0 < base) (bits : ℕ) (word : List Char)
    (f : ℕ → α) :
    (Digits.valueBelow? base (1 <<< bits) word).map f =
      if Digits.value base word < 2 ^ bits then some (f (Digits.value base word)) else none := by
  rw [Nat.one_shiftLeft, Digits.valueBelow?_eq base _ positive (Nat.two_pow_pos bits),
    apply_ite (Option.map f)]
  rfl

/-! ### Signs -/

section

variable {sign digits rest : List Char} {negative : Bool} (signed : IsSign sign negative)
  (run : IsRun .decimal digits rest) (bits : ℕ)
include signed run

theorem sign_eq : signWidth (sign ++ (digits ++ rest)) = sign.length ∧
    startsNegative (sign ++ (digits ++ rest)) = negative :=
  signed.read fun _ first => Numeral.ne_sign_of_isDigit (run.word.head? first)

theorem readSigned?_eq :
    let value : ℤ := if negative then -(Digits.value 10 digits : ℤ) else Digits.value 10 digits
    readSigned? bits (sign ++ (digits ++ rest)) =
      if -2 ^ (bits - 1) ≤ value ∧ value < 2 ^ (bits - 1) then
        some ⟨value, (sign ++ digits).length⟩
      else none := by
  intro value
  obtain ⟨width, minus⟩ := sign_eq signed run
  have cast : (2 : ℤ) ^ (bits - 1) = (2 ^ (bits - 1) : ℕ) := by norm_num
  have positive : 0 < 2 ^ (bits - 1) := Nat.two_pow_pos _
  simp only [readSigned?, width, minus, List.drop_left, run.takeWhile_eq, run.isEmpty_eq,
    Nat.one_shiftLeft, cast, value, List.length_append, Bool.false_eq_true, if_false]
  rw [Digits.valueBelow?_eq 10 _ (by norm_num) (Nat.succ_pos _),
    Digits.valueBelow?_eq 10 _ (by norm_num) positive]
  generalize Digits.value 10 digits = magnitude
  generalize 2 ^ (bits - 1) = bound at positive
  -- a minus sign admits one number more
  cases negative with
  | true =>
    simp only [if_true]
    by_cases small : magnitude < bound + 1
    · rw [if_pos small, if_pos (by omega)]
      rfl
    · rw [if_neg small, if_neg (by omega)]
      rfl
  | false =>
    simp only [Bool.false_eq_true, if_false]
    by_cases small : magnitude < bound
    · rw [if_pos small, if_pos (by omega)]
      rfl
    · rw [if_neg small, if_neg (by omega)]
      rfl

end

theorem reads_signed (bits : ℕ) :
    Reads (readSigned? bits) Signed fun value => -2 ^ (bits - 1) ≤ value ∧ value < 2 ^ (bits - 1) := by
  constructor
  · rintro word rest value ⟨signed, run⟩
    rw [List.append_assoc, readSigned?_eq signed run]
  · intro text reading found
    simp only [readSigned?, Option.ite_none_left_eq_some, List.isEmpty_iff] at found
    obtain ⟨digits, rest, split, run⟩ := exists_run found.1
    exact ⟨_, rest, _, by rw [List.append_assoc, ← split], .parts (Numeral.isSign_take text) run⟩

theorem readUnsigned?_eq {sign digits rest : List Char} (signed : IsSign sign false)
    (run : IsRun .decimal digits rest) (bits : ℕ) :
    readUnsigned? bits (sign ++ (digits ++ rest)) =
      if Digits.value 10 digits < 2 ^ bits then
        some ⟨Digits.value 10 digits, (sign ++ digits).length⟩
      else none := by
  obtain ⟨width, plus⟩ := sign_eq signed run
  simp only [readUnsigned?, width, plus, List.drop_left, run.takeWhile_eq, run.isEmpty_eq,
    List.length_append, Bool.false_eq_true, if_false]
  exact map_valueBelow? (by norm_num) bits digits _

theorem reads_unsigned (bits : ℕ) :
    Reads (readUnsigned? bits) Unsigned fun value => value < 2 ^ bits := by
  constructor
  · rintro word rest value ⟨signed, run⟩
    rw [List.append_assoc, readUnsigned?_eq signed run]
  · intro text reading found
    simp only [readUnsigned?, Option.ite_none_left_eq_some, List.isEmpty_iff] at found
    obtain ⟨digits, rest, split, run⟩ := exists_run found.1
    have signed := Numeral.isSign_take text
    -- behind a minus sign no digits would have been looked for
    cases minus : startsNegative text with
    | true =>
      rw [minus, if_pos rfl, List.take_zero, List.nil_append] at split
      have plus := (sign_eq .absent run).2
      rw [List.nil_append, ← split, minus] at plus
      cases plus
    | false =>
      rw [minus, if_neg (by simp)] at split
      rw [minus] at signed
      exact ⟨_, rest, _, by rw [List.append_assoc, ← split], .parts signed run⟩

/-! ### Marks -/

theorem hexMarkWidth_of_marked {text : List Char} (marked : Marked text) : hexMarkWidth text = 2 := by
  obtain ⟨mark, c, rest, rfl, letter, digit⟩ := marked
  exact if_pos ⟨letter, digit⟩

theorem hexMarkWidth_of_unmarked {text : List Char} (unmarked : ¬Marked text) :
    hexMarkWidth text = 0 := by
  unfold hexMarkWidth
  split
  next mark c rest => exact if_neg fun spelled => unmarked ⟨mark, c, rest, rfl, spelled⟩
  next => rfl

theorem marked_append {mark digits rest : List Char} (marked : IsMark .hexadecimal mark)
    (run : IsRun .hexadecimal digits rest) (nonempty : mark ≠ []) :
    mark.length = 2 ∧ Marked (mark ++ (digits ++ rest)) := by
  obtain ⟨c, more, rfl⟩ := List.exists_cons_of_ne_nil run.word.1
  have digit := run.word.2 c List.mem_cons_self
  cases marked with
  | absent => exact absurd rfl nonempty
  | lower => exact ⟨rfl, 'x', c, more ++ rest, rfl, .inl rfl, digit⟩
  | upper => exact ⟨rfl, 'X', c, more ++ rest, rfl, .inr rfl, digit⟩

theorem hexMarkWidth_eq {mark digits rest : List Char} (marked : IsMark .hexadecimal mark)
    (run : IsRun .hexadecimal digits rest) (unmarked : mark = [] → ¬Marked (digits ++ rest)) :
    hexMarkWidth (mark ++ (digits ++ rest)) = mark.length := by
  by_cases empty : mark = []
  · rw [empty]
    exact hexMarkWidth_of_unmarked (unmarked empty)
  · obtain ⟨length, stands⟩ := marked_append marked run empty
    rw [length]
    exact hexMarkWidth_of_marked stands

theorem isMark_take_hexMarkWidth (text : List Char) :
    IsMark .hexadecimal (text.take (hexMarkWidth text)) ∧
      (text.take (hexMarkWidth text) = [] → ¬Marked text) := by
  by_cases marked : Marked text
  · rw [hexMarkWidth_of_marked marked]
    obtain ⟨mark, c, rest, rfl, rfl | rfl, -⟩ := marked
    · exact ⟨.lower, nofun⟩
    · exact ⟨.upper, nofun⟩
  · rw [hexMarkWidth_of_unmarked marked]
    exact ⟨.absent _, fun _ => marked⟩

theorem readHex?_eq {mark digits rest : List Char} (marked : IsMark .hexadecimal mark)
    (run : IsRun .hexadecimal digits rest) (unmarked : mark = [] → ¬Marked (digits ++ rest))
    (bits : ℕ) :
    readHex? bits (mark ++ (digits ++ rest)) =
      if Digits.value 16 digits < 2 ^ bits then
        some ⟨Digits.value 16 digits, (mark ++ digits).length⟩
      else none := by
  simp only [readHex?, hexMarkWidth_eq marked run unmarked, List.drop_left, run.takeWhile_eq,
    run.isEmpty_eq, List.length_append, Bool.false_eq_true, if_false]
  exact map_valueBelow? (by norm_num) bits digits _

theorem reads_hexadecimal (bits : ℕ) :
    Reads (readHex? bits) Hexadecimal fun value => value < 2 ^ bits := by
  constructor
  · rintro word rest value ⟨marked, run, unmarked⟩
    rw [List.append_assoc, readHex?_eq marked run unmarked]
  · intro text reading found
    simp only [readHex?, Option.ite_none_left_eq_some, List.isEmpty_iff] at found
    obtain ⟨digits, rest, split, run⟩ := exists_run found.1
    obtain ⟨marked, unmarked⟩ := isMark_take_hexMarkWidth text
    refine ⟨_, rest, _, by rw [List.append_assoc, ← split], .parts marked run fun empty => ?_⟩
    rw [empty, List.nil_append] at split
    rw [← split]
    exact unmarked empty

/-! ### What is written for a number -/

theorem toList_repr (value : ℤ) :
    value.repr.toList = (if value < 0 then ['-'] else []) ++ Nat.toDigits 10 value.natAbs := by
  rw [Int.repr_eq_if]
  split
  next nonneg =>
    rw [if_neg (by omega), List.nil_append, Nat.toList_repr]
    congr 1
    omega
  next negative =>
    rw [if_pos (by omega), String.toList_append, Nat.toList_repr]
    congr 2
    omega

theorem isRun_toDigits (n : ℕ) {rest : List Char}
    (ends : ∀ c, rest.head? = some c → c.isDigit = false) :
    IsRun .decimal (Nat.toDigits 10 n) rest :=
  ⟨Numeral.isWord_toDigits n, ends⟩

theorem signed_repr (value : ℤ) {rest : List Char}
    (ends : ∀ c, rest.head? = some c → c.isDigit = false) : Signed value.repr.toList rest value := by
  have run := isRun_toDigits value.natAbs ends
  have magnitude := Digits.value_toDigits value.natAbs
  rw [toList_repr]
  by_cases negative : value < 0
  · have spelled := Signed.parts .minus run
    have number : -(value.natAbs : ℤ) = value := by omega
    rw [magnitude, if_pos rfl, number] at spelled
    rwa [if_pos negative]
  · have spelled := Signed.parts .absent run
    have number : (value.natAbs : ℤ) = value := by omega
    rw [magnitude, if_neg (by decide), number] at spelled
    rwa [if_neg negative]

/-- The hexadecimal digits of a number, in capitals or not. -/
def hexDigits (capitals : Bool) (value : ℕ) : List Char :=
  (Nat.toDigits 16 value).map fun c => if capitals then c.toUpper else c

theorem isRun_hexDigits (capitals : Bool) (value : ℕ) {rest : List Char}
    (ends : ∀ c, rest.head? = some c → Radix.hexadecimal.isDigit c = false) :
    IsRun .hexadecimal (hexDigits capitals value) rest := by
  refine ⟨Numeral.isWord_map_toDigits .hexadecimal ?_ value, ends⟩
  cases capitals <;> decide

theorem value_hexDigits (capitals : Bool) (value : ℕ) :
    Digits.value 16 (hexDigits capitals value) = value := by
  refine Digits.value_map_toDigits (by decide) ?_ value
  cases capitals <;> decide

theorem unsigned_repr (value : ℕ) {rest : List Char}
    (ends : ∀ c, rest.head? = some c → c.isDigit = false) :
    Unsigned value.repr.toList rest value := by
  have spelled := Unsigned.parts .absent (isRun_toDigits value ends)
  rwa [Digits.value_toDigits, List.nil_append, ← Nat.toList_repr] at spelled

theorem hexadecimal_hexDigits {mark : Char} (letter : mark = 'x' ∨ mark = 'X') (capitals : Bool)
    (value : ℕ) {rest : List Char}
    (ends : ∀ c, rest.head? = some c → Radix.hexadecimal.isDigit c = false) :
    Hexadecimal ('0' :: mark :: hexDigits capitals value) rest value := by
  have run := isRun_hexDigits capitals value ends
  have marked : IsMark .hexadecimal ['0', mark] := by
    rcases letter with rfl | rfl
    · exact .lower
    · exact .upper
  have spelled := Hexadecimal.parts marked run nofun
  rwa [value_hexDigits] at spelled

end Integer

namespace Scanner

open Integer (Signed Unsigned Hexadecimal hexDigits)

/-! ### Scans for an integer -/

/-- A scan with `probe`, which passes over `run` and stands in front of `text` then, finds a value
exactly if a word that denotes it stands in front of `text`, and ends behind that word. -/
structure FindsExactly {α : Type} (scanner : Scanner) (probe : Probe α) (run text : List Char)
    (denotes : (word rest : List Char) → α → Prop) : Prop where
  found_iff : ∀ value, (scanner.scan probe).1 = some value ↔
    ∃ word rest, text = word ++ rest ∧ denotes word rest value
  behind : ∀ word rest value, text = word ++ rest → denotes word rest value →
    (scanner.scan probe).2 = { scanner with cursor := scanner.start.advance word.length } ∧
      (scanner.scan probe).2.remaining = rest ∧
      (scanner.scan probe).2.offset = scanner.offset + Text.byteLength (run ++ word)
  unchanged : (scanner.scan probe).1 = none → (scanner.scan probe).2 = scanner

theorem findsExactly {α : Type} {scanner : Scanner} {probe : Probe α}
    {form : (word rest : List Char) → α → Prop} {fits : α → Prop} [DecidablePred fits]
    (reads : Integer.Reads (probe.read? scanner.caseSensitive) form fits) :
    scanner.FindsExactly probe scanner.skipped scanner.start.after
      fun word rest value => form word rest value ∧ fits value := by
  have behind {word rest : List Char} {value : α} (split : scanner.start.after = word ++ rest)
      (spelled : form word rest value ∧ fits value) :
      probe.read? scanner.caseSensitive scanner.start.after = some ⟨value, word.length⟩ :=
    (reads.eq_some_iff _ _).mpr ⟨word, rest, split, spelled, rfl⟩
  constructor
  · intro value
    constructor
    · intro returned
      cases found : probe.read? scanner.caseSensitive scanner.start.after with
      | none =>
        rw [scan_of_none found] at returned
        cases returned
      | some reading =>
        rw [scan_of_some found] at returned
        cases returned
        obtain ⟨word, rest, split, spelled, -⟩ := (reads.eq_some_iff _ _).mp found
        exact ⟨word, rest, split, spelled⟩
    · rintro ⟨word, rest, split, spelled⟩
      rw [scan_of_some (behind split spelled)]
  · intro word rest value split spelled
    have found := behind split spelled
    rw [offset_scan found, split, List.take_left, Text.byteLength_append, Nat.add_assoc,
      scan_of_some found]
    refine ⟨rfl, ?_, rfl⟩
    rw [remaining, Cursor.after_advance, split, List.drop_left]
  · exact scan_snd_of_none scanner probe

theorem FindsExactly.found {α : Type} {scanner : Scanner} {probe : Probe α} {run text : List Char}
    {denotes : (word rest : List Char) → α → Prop}
    (finds : scanner.FindsExactly probe run text denotes) {word rest : List Char} {value : α}
    (split : text = word ++ rest) (spelled : denotes word rest value) :
    (scanner.scan probe).1 = some value ∧ (scanner.scan probe).2.remaining = rest :=
  ⟨(finds.found_iff value).mpr ⟨word, rest, split, spelled⟩,
    (finds.behind word rest value split spelled).2.1⟩

/-- What the scans for an integer of `bits` bits do to `scanner`, which passes over `run` and stands in
front of `text` then. -/
structure IntegerLaw (scanner : Scanner) (bits : ℕ) (run text : List Char) : Prop where
  signed : scanner.FindsExactly (.signed bits) run text fun word rest value =>
    Signed word rest value ∧ -2 ^ (bits - 1) ≤ value ∧ value < 2 ^ (bits - 1)
  unsigned : scanner.FindsExactly (.unsigned bits) run text fun word rest value =>
    Unsigned word rest value ∧ value < 2 ^ bits
  hexadecimal : scanner.FindsExactly (.hexadecimal bits) run text fun word rest value =>
    Hexadecimal word rest value ∧ value < 2 ^ bits
  -- what is written for a number that fits is scanned to it
  signed_written : ∀ (value : ℤ) (rest : List Char),
    -2 ^ (bits - 1) ≤ value → value < 2 ^ (bits - 1) → text = value.repr.toList ++ rest →
    (∀ c, rest.head? = some c → c.isDigit = false) →
      (scanner.scan (.signed bits)).1 = some value ∧
        (scanner.scan (.signed bits)).2.remaining = rest
  unsigned_written : ∀ (value : ℕ) (rest : List Char),
    value < 2 ^ bits → text = value.repr.toList ++ rest →
    (∀ c, rest.head? = some c → c.isDigit = false) →
      (scanner.scan (.unsigned bits)).1 = some value ∧
        (scanner.scan (.unsigned bits)).2.remaining = rest
  hexadecimal_written : ∀ (value : ℕ) (mark : Char) (capitals : Bool) (rest : List Char),
    value < 2 ^ bits → mark = 'x' ∨ mark = 'X' →
    text = '0' :: mark :: (hexDigits capitals value ++ rest) →
    (∀ c, rest.head? = some c → Radix.hexadecimal.isDigit c = false) →
      (scanner.scan (.hexadecimal bits)).1 = some value ∧
        (scanner.scan (.hexadecimal bits)).2.remaining = rest

/-- Integers of any number of bits are scanned exactly: a value is found if and only if a word of the
form denotes it and it fits, the scanner ends behind that word, and it stays as it was if nothing is
found. What is written for a number is scanned to it. -/
theorem scan_integer_exact (scanner : Scanner) (bits : ℕ) :
    ∃ run text, scanner.LongestSkip run ∧ scanner.remaining = run ++ text ∧
      scanner.IntegerLaw bits run text := by
  refine ⟨scanner.skipped, scanner.start.after, longestSkip_skipped scanner, remaining_eq scanner, ?_⟩
  have signed : scanner.FindsExactly (.signed bits) _ _ _ := findsExactly (Integer.reads_signed bits)
  have unsigned : scanner.FindsExactly (.unsigned bits) _ _ _ :=
    findsExactly (Integer.reads_unsigned bits)
  have hexadecimal : scanner.FindsExactly (.hexadecimal bits) _ _ _ :=
    findsExactly (Integer.reads_hexadecimal bits)
  exact {
    signed, unsigned, hexadecimal
    signed_written := fun value rest least most split ends =>
      signed.found split ⟨Integer.signed_repr value ends, least, most⟩
    unsigned_written := fun value rest most split ends =>
      unsigned.found split ⟨Integer.unsigned_repr value ends, most⟩
    hexadecimal_written := fun value mark capitals rest most letter split ends =>
      hexadecimal.found split ⟨Integer.hexadecimal_hexDigits letter capitals value ends, most⟩ }

-- the least number of 32 bits, behind zeros; one less does not fit
example : ((ofText " -0002147483648;".toList).scan (.signed 32)).1 = some (-2147483648) := by
  decide

example : ((ofText " -2147483649;".toList).scan (.signed 32)).1 = none := by
  decide

-- a mark without digits is left alone
example : ((ofText "0xg".toList).scan (.hexadecimal 32)).2.remaining = ['x', 'g'] := by
  decide

end Scanner

end DeclScan
