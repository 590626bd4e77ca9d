import DeclScan.Proofs.DecimalValue
import DeclScan.Proofs.NumberScan

/-!
Scanning exact decimals.

## Main result

`Scanner.scan_decimal_exact`: a decimal numeral is scanned to the decimal that denotes the number it
writes, and to nothing if there is none. Neither the length of the numeral, nor the zeros at its
ends, nor the place of its point, nor the limit for its exponent counts.

## Proof strategy

A decimal is determined by the number it denotes (`Decimal.toRat_inj`), so it is enough to say which
number a result denotes (`Decimal.ofNumeral?_eq_some_iff`). An exponent that is cut lies so far out
that no decimal denotes the number at either exponent (`Numeral.natAbs_exponent_le`).
-/

namespace DeclScan

namespace Numeral

/-! ### Decimals from a numeral -/

variable {text : List Char} {numeral : Numeral}

theorem value_significant_mod (spelled : Spelled .decimal text numeral)
    (nonempty : numeral.significant ≠ []) : Digits.value 10 numeral.significant % 10 ≠ 0 :=
  Digits.value_significant_mod spelled.digits nonempty

theorem pow_le_value_significant (spelled : Spelled .decimal text numeral)
    (long : Decimal.maxDigits < numeral.significant.length) :
    Decimal.mantissaBound ≤ Digits.value 10 numeral.significant := by
  have digits := isDigit_significant spelled
  have start := head?_significant_ne numeral
  generalize numeral.significant = word at *
  cases word with
  | nil => simp at long
  | cons c rest =>
    have leading : Digits.digitValue c ≠ 0 := by
      intro zero
      simp [(Digits.digitValue_spec (digits c List.mem_cons_self)).2 zero] at start
    calc Decimal.mantissaBound ≤ 10 ^ rest.length :=
          Nat.pow_le_pow_right (by norm_num) (by simpa using Nat.lt_succ_iff.mp long)
      _ ≤ Digits.value 10 (c :: rest) := Digits.le_value_cons 10 leading rest

/-- The number that a decimal numeral denotes. -/
def toRat (numeral : Numeral) : ℚ := Decimal.signFactor numeral.negative * numeral.decimalExact

theorem toRat_eq_zero_iff (spelled : Spelled .decimal text numeral) :
    numeral.toRat = 0 ↔ numeral.significant = [] := by
  rw [toRat, Decimal.signFactor_mul_eq_zero, decimalExact_eq]
  constructor
  · intro zero
    by_contra nonempty
    have ends := value_significant_mod spelled nonempty
    exact (Decimal.scaled_pos (by omega) _).ne' zero
  · intro empty
    simp [empty]

/-- The last significant digit stands as far from the point as the zeros behind it say. -/
theorem place_sub_length (numeral : Numeral) :
    numeral.significant.length ≤
        ((numeral.integer ++ numeral.fraction).dropWhile (· == '0')).length ∧
      numeral.exponent - numeral.fraction.length +
          ((((numeral.integer ++ numeral.fraction).dropWhile (· == '0')).length -
            numeral.significant.length : ℕ) : ℤ) =
        numeral.place - numeral.significant.length := by
  have leading : (numeral.integer ++ numeral.fraction).length = numeral.leadingZeros +
      ((numeral.integer ++ numeral.fraction).dropWhile (· == '0')).length := by
    rw [leadingZeros, ← List.length_append, List.takeWhile_append_dropWhile]
  have behind := congrArg List.length
    (Digits.significant_append_zeros (numeral.integer ++ numeral.fraction))
  rw [List.length_append] at leading behind
  rw [place, significant]
  omega

end Numeral

namespace Decimal

variable {text : List Char} {numeral : Numeral}

theorem ofNumeral?_eq_ofDigits? (spelled : Numeral.Spelled .decimal text numeral) :
    ofNumeral? numeral =
      ofDigits? numeral.negative numeral.integer numeral.fraction numeral.exponent
        spelled.digits :=
  dif_pos (List.all_eq_true.mpr spelled.digits)

/-- A numeral gives the decimal that denotes its number, if there is one. -/
theorem ofNumeral?_eq_some_iff (spelled : Numeral.Spelled .decimal text numeral)
    {decimal : Decimal} : ofNumeral? numeral = some decimal ↔ decimal.toRat = numeral.toRat := by
  have place := numeral.place_sub_length.2
  rw [ofNumeral?_eq_ofDigits? spelled]
  by_cases empty : numeral.significant = []
  · have nothing := (Numeral.toRat_eq_zero_iff spelled).mpr empty
    rw [ofDigits?_of_zeros empty, nothing, toRat_eq_zero_iff, Option.some_inj, eq_comm]
  · rw [ofDigits?_eq_some_iff empty, Numeral.toRat, Numeral.decimalExact_eq,
      toRat_eq_iff (Numeral.value_significant_mod spelled empty), ← place]
    apply and_iff_right_of_imp
    rintro ⟨-, mantissa, -⟩
    -- so many digits without zeros at the ends are too many for every decimal
    by_contra many
    have large := Numeral.pow_le_value_significant spelled (not_le.mp many)
    rw [Numeral.significant, ← mantissa] at large
    exact absurd decimal.mantissa_lt large.not_gt

end Decimal

namespace Numeral

variable {text : List Char} {numeral : Numeral}

/-- A numeral for a decimal has an exponent that its digits can make up for. -/
theorem natAbs_exponent_le (spelled : Spelled .decimal text numeral) {decimal : Decimal}
    (same : decimal.toRat = numeral.toRat) (nonzero : numeral.toRat ≠ 0) :
    numeral.exponent.natAbs ≤ 128 + (numeral.integer.length + numeral.fraction.length) := by
  have nonempty := mt (toRat_eq_zero_iff spelled).mpr nonzero
  rw [toRat, decimalExact_eq, Decimal.toRat_eq_iff (value_significant_mod spelled nonempty)] at same
  obtain ⟨back, -, length⟩ := value_eq_significant numeral
  have range := decimal.exponent_range
  rw [same.2.2, place] at range
  omega

end Numeral

/-- The limit for exponents lies out of reach of the digits, so it makes no difference. -/
theorem Decimal.ofNumeral?_cutExponent {text : List Char} {numeral : Numeral}
    (spelled : Numeral.Spelled .decimal text numeral) {limit : ℕ}
    (room : 128 + (numeral.integer.length + numeral.fraction.length) < limit) :
    ofNumeral? { numeral with exponent := Numeral.cutExponent limit numeral.exponent } =
      ofNumeral? numeral := by
  have cut := spelled.withExponent (Numeral.cutExponent limit numeral.exponent)
  ext decimal
  rw [ofNumeral?_eq_some_iff cut, ofNumeral?_eq_some_iff spelled]
  by_cases small : numeral.exponent.natAbs ≤ limit
  · rw [Numeral.cutExponent_of_le small]
  have zeros := (Numeral.toRat_eq_zero_iff cut).trans (Numeral.toRat_eq_zero_iff spelled).symm
  by_cases zero : numeral.toRat = 0
  · rw [zero, zeros.mpr zero]
  · -- neither number is one that a decimal denotes
    constructor
    · intro same
      have reach := Numeral.natAbs_exponent_le cut same (mt zeros.mp zero)
      dsimp only at reach
      unfold Numeral.cutExponent at reach
      omega
    · intro same
      have reach := Numeral.natAbs_exponent_le spelled same zero
      omega

namespace Scanner

theorem scan_decimal_eq {scanner : Scanner} {numeral : Numeral}
    (written : Numeral.written? .decimal scanner.start.after = some numeral) :
    scanner.scan .decimal =
      match Decimal.ofNumeral? numeral with
      | some decimal =>
        (some decimal, { scanner with cursor := scanner.start.advance numeral.width })
      | none => (none, scanner) := by
  obtain ⟨body, lexed, -⟩ := Option.map_eq_some_iff.mp written
  have spelled := Numeral.spelled_of_readWith? written
  have length := Numeral.length_le_of_body? lexed written
  have limit : Numeral.exponentLimit = 1000000 := rfl
  have found := Numeral.read?_of_written? lexed written
  have same := Decimal.ofNumeral?_cutExponent spelled
    (by omega : _ < Numeral.exponentLimit + body.width)
  rw [scan, Probe.read?, found, Option.bind_some, same]
  cases Decimal.ofNumeral? numeral <;> rfl

/-- A decimal numeral is scanned to the decimal that denotes the number it writes: zero, or the one
with the sign, the mantissa without zeros at its end, and the exponent of that number. It is not
scanned exactly if these are out of range, and all numerals for one number are scanned alike. -/
theorem scan_decimal_exact {scanner : Scanner} {numeral : Numeral}
    (written : Numeral.written? .decimal scanner.start.after = some numeral) :
    let exact (numeral : Numeral) : ℚ := Decimal.signFactor numeral.negative *
      (Digits.value 10 (numeral.integer ++ numeral.fraction) *
        10 ^ (numeral.exponent - numeral.fraction.length))
    let result := scanner.scan .decimal
    let behind : Scanner := { scanner with cursor := scanner.start.advance numeral.width }
    behind.offset = scanner.start.offset + numeral.width ∧
      (exact numeral = 0 → result = (some .zero, behind)) ∧
      (exact numeral ≠ 0 → ∃ (m : ℕ) (k : ℤ), ¬10 ∣ m ∧
        exact numeral = Decimal.signFactor numeral.negative * (m * 10 ^ k)) ∧
      (∀ (negative : Bool) (m : ℕ) (k : ℤ), ¬10 ∣ m →
        exact numeral = Decimal.signFactor negative * (m * 10 ^ k) →
          (m < 10 ^ 38 ∧ -128 ≤ k ∧ k ≤ 127 → ∃ decimal, result = (some decimal, behind) ∧
            decimal.mantissa = m ∧ decimal.exponent = k ∧ decimal.negative = negative) ∧
          (¬(m < 10 ^ 38 ∧ -128 ≤ k ∧ k ≤ 127) → result = (none, scanner))) ∧
      ∀ (other : Scanner) (numeral' : Numeral),
        Numeral.written? .decimal other.start.after = some numeral' →
          exact numeral' = exact numeral → (other.scan .decimal).1 = result.1 := by
  intro exact result behind
  have spelled := Numeral.spelled_of_readWith? written
  have returned : result = match Decimal.ofNumeral? numeral with
      | some decimal => (some decimal, behind)
      | none => (none, scanner) := scan_decimal_eq written
  have denotes {decimal : Decimal} : Decimal.ofNumeral? numeral = some decimal ↔
      decimal.toRat = exact numeral := Decimal.ofNumeral?_eq_some_iff spelled
  refine ⟨offset_behind written, ?_, ?_, ?_, ?_⟩
  · intro zero
    rw [returned, denotes.mpr ((Decimal.toRat_eq_zero_iff.mpr rfl).trans zero.symm)]
  · intro nonzero
    have nonempty := mt (Numeral.toRat_eq_zero_iff spelled).mpr nonzero
    refine ⟨Digits.value 10 numeral.significant, numeral.place - numeral.significant.length, ?_,
      congrArg _ numeral.decimalExact_eq⟩
    rw [Nat.dvd_iff_mod_eq_zero]
    exact Numeral.value_significant_mod spelled nonempty
  · intro negative m k ends parts
    rw [Nat.dvd_iff_mod_eq_zero] at ends
    constructor
    · rintro ⟨small, range⟩
      let decimal : Decimal := ⟨m, k, negative, small, range, fun zero => absurd zero ends⟩
      have same : decimal.toRat = exact numeral := parts.symm
      refine ⟨decimal, ?_, rfl, rfl, rfl⟩
      rw [returned, denotes.mpr same]
    · intro outside
      -- a decimal with this number would have its parts in range
      cases found : Decimal.ofNumeral? numeral with
      | none => rw [returned, found]
      | some decimal =>
        obtain ⟨-, rfl, rfl⟩ := (Decimal.toRat_eq_iff ends).mp ((denotes.mp found).trans parts)
        exact absurd ⟨decimal.mantissa_lt, decimal.exponent_range⟩ outside
  · intro other numeral' written' same
    have equal : Decimal.ofNumeral? numeral' = Decimal.ofNumeral? numeral := by
      ext decimal
      rw [Decimal.ofNumeral?_eq_some_iff (Numeral.spelled_of_readWith? written'), denotes, ← same]
      rfl
    rw [scan_decimal_eq written', returned, equal]
    cases Decimal.ofNumeral? numeral <;> rfl

/-- Zeros at both ends, the place of the point and the exponent are spelling. -/
theorem scan_decimal_spelling :
    let scanner := ofText " -0120.0500e2,".toList
    Numeral.written? .decimal scanner.start.after =
        some ⟨.decimal, true, "0120".toList, "0500".toList, 2, 12⟩ ∧
      ¬10 ∣ 12005 ∧
      (∃ decimal, scanner.scan .decimal =
          (some decimal, { scanner with cursor := scanner.start.advance 12 }) ∧
        decimal.mantissa = 12005 ∧ decimal.exponent = 0 ∧ decimal.negative = true) ∧
      ((ofText "-12005".toList).scan .decimal).1 = (scanner.scan .decimal).1 := by
  intro scanner
  have written : Numeral.written? .decimal scanner.start.after =
      some ⟨.decimal, true, "0120".toList, "0500".toList, 2, 12⟩ := by decide
  have shorter : Numeral.written? .decimal (ofText "-12005".toList).start.after =
      some ⟨.decimal, true, "12005".toList, [], 0, 6⟩ := by decide
  have places : 2 - ("0500".toList.length : ℤ) = -2 := rfl
  have number : (Digits.value 10 ("0120".toList ++ "0500".toList) : ℚ) *
      10 ^ (2 - ("0500".toList.length : ℤ)) = (12005 : ℕ) * 10 ^ (0 : ℤ) := by
    rw [show Digits.value 10 ("0120".toList ++ "0500".toList) = 1200500 by decide, places]
    norm_num
  have ends : ¬10 ∣ 12005 := by decide
  obtain ⟨-, -, -, parts, alike⟩ := scan_decimal_exact written
  refine ⟨written, ends, (parts true 12005 0 ends (congrArg _ number)).1 (by norm_num), ?_⟩
  exact alike _ _ shorter (congrArg _ number.symm)

end Scanner

end DeclScan
