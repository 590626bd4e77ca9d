import DeclScan.Decimal.Basic
import Mathlib.Algebra.Order.Field.Power
import Mathlib.Algebra.Order.Ring.Rat
import Mathlib.Tactic.Linarith
import Mathlib.Tactic.NormNum
import Mathlib.Tactic.Ring

/-!
The numbers that decimals denote. A number has at most one decimal (`Decimal.toRat_inj`), and a
mantissa with an exponent gives it whenever there is one (`Decimal.ofParts?_eq_some_iff`).
-/

namespace DeclScan.Decimal

theorem eq_iff_parts {left right : Decimal} :
    left = right ↔ left.negative = right.negative ∧ left.mantissa = right.mantissa ∧
      left.exponent = right.exponent := by
  constructor
  · rintro rfl
    simp
  · rintro ⟨negative, mantissa, exponent⟩
    cases left
    cases right
    simp_all

/-- The sign of a number as a factor. -/
def signFactor (negative : Bool) : ℚ := if negative then -1 else 1

/-- The number that a decimal denotes. -/
def toRat (decimal : Decimal) : ℚ :=
  signFactor decimal.negative * (decimal.mantissa * 10 ^ decimal.exponent)

/-! ### Numbers and their representations -/

theorem signFactor_mul_inj {negative negative' : Bool} {x y : ℚ} (positive : 0 < x)
    (positive' : 0 < y) (same : signFactor negative * x = signFactor negative' * y) :
    negative = negative' ∧ x = y := by
  cases negative with
  | false =>
    cases negative' with
    | false => exact ⟨rfl, by simpa [signFactor] using same⟩
    | true =>
      have opposite : x = -y := by simpa [signFactor] using same
      linarith
  | true =>
    cases negative' with
    | false =>
      have opposite : -x = y := by simpa [signFactor] using same
      linarith
    | true => exact ⟨rfl, by simpa [signFactor] using same⟩

theorem signFactor_mul_eq_zero {negative : Bool} {x : ℚ} : signFactor negative * x = 0 ↔ x = 0 := by
  cases negative <;> simp [signFactor]

/-- A mantissa that does not end in zero has the largest exponent of all. -/
theorem exponent_le {m n : ℕ} {k l : ℤ} (ends : m % 10 ≠ 0)
    (same : (m : ℚ) * 10 ^ k = n * 10 ^ l) : l ≤ k := by
  by_contra larger
  obtain ⟨d, rfl⟩ : ∃ d : ℕ, l = k + 1 + d := ⟨(l - k - 1).toNat, by omega⟩
  -- a larger exponent leaves a factor ten for the mantissa
  have scaled : (m : ℚ) = 10 * (n * 10 ^ d) := by
    have nonzero : (10 : ℚ) ^ k ≠ 0 := zpow_ne_zero k (by norm_num)
    rw [zpow_add₀ (by norm_num), zpow_add₀ (by norm_num), zpow_one, zpow_natCast] at same
    apply mul_right_cancel₀ nonzero
    rw [same]
    ring
  have divides : m = 10 * (n * 10 ^ d) := by exact_mod_cast scaled
  omega

theorem scaled_inj {m n : ℕ} {k l : ℤ} (ends : m % 10 ≠ 0) (ends' : n % 10 ≠ 0)
    (same : (m : ℚ) * 10 ^ k = n * 10 ^ l) : m = n ∧ k = l := by
  have equal : k = l := le_antisymm (exponent_le ends' same.symm) (exponent_le ends same)
  subst equal
  refine ⟨?_, rfl⟩
  exact_mod_cast mul_right_cancel₀ (zpow_ne_zero k (by norm_num)) same

theorem scaled_pos {m : ℕ} (nonzero : m ≠ 0) (k : ℤ) : (0 : ℚ) < m * 10 ^ k :=
  mul_pos (by exact_mod_cast Nat.pos_of_ne_zero nonzero) (zpow_pos (by norm_num) k)

/-- A number other than zero has one sign, one mantissa that does not end in zero, and one
exponent. -/
theorem signed_inj {m n : ℕ} {k l : ℤ} {negative negative' : Bool} (ends : m % 10 ≠ 0)
    (ends' : n % 10 ≠ 0)
    (same : signFactor negative * (m * 10 ^ k) = signFactor negative' * (n * 10 ^ l)) :
    negative = negative' ∧ m = n ∧ k = l := by
  obtain ⟨signs, magnitudes⟩ :=
    signFactor_mul_inj (scaled_pos (by omega) k) (scaled_pos (by omega) l) same
  exact ⟨signs, scaled_inj ends ends' magnitudes⟩

theorem eq_zero_of_mantissa {decimal : Decimal} (zero : decimal.mantissa = 0) :
    decimal = Decimal.zero := by
  obtain ⟨-, exponent, negative⟩ := decimal.canonical (by rw [zero])
  cases decimal
  simp_all [Decimal.zero]

theorem toRat_eq_zero_iff {decimal : Decimal} : decimal.toRat = 0 ↔ decimal = Decimal.zero := by
  constructor
  · intro zero
    rw [toRat, signFactor_mul_eq_zero] at zero
    apply eq_zero_of_mantissa
    by_contra nonzero
    exact (scaled_pos nonzero decimal.exponent).ne' zero
  · rintro rfl
    simp [toRat, Decimal.zero]

/-- A decimal that is not zero and a number written without a zero at the end: the parts agree. -/
theorem toRat_eq_iff {decimal : Decimal} {m : ℕ} {k : ℤ} {negative : Bool} (ends : m % 10 ≠ 0) :
    decimal.toRat = signFactor negative * (m * 10 ^ k) ↔
      decimal.negative = negative ∧ decimal.mantissa = m ∧ decimal.exponent = k := by
  constructor
  · intro same
    refine signed_inj ?_ ends same
    intro zero
    -- only zero ends in zero, and the other side is not zero
    have nothing := toRat_eq_zero_iff.mpr (eq_zero_of_mantissa (decimal.canonical zero).1)
    rw [same, signFactor_mul_eq_zero] at nothing
    exact (scaled_pos (by omega) k).ne' nothing
  · rintro ⟨rfl, rfl, rfl⟩
    rfl

/-- Decimals that denote the same number are the same. -/
theorem toRat_inj {left right : Decimal} : left.toRat = right.toRat ↔ left = right := by
  constructor
  · intro same
    by_cases zero : right.mantissa % 10 = 0
    · obtain rfl := eq_zero_of_mantissa (right.canonical zero).1
      exact toRat_eq_zero_iff.mp (same.trans (toRat_eq_zero_iff.mpr rfl))
    · exact eq_iff_parts.mpr ((toRat_eq_iff zero).mp same)
  · rintro rfl
    rfl

/-! ### Decimals from a mantissa and an exponent -/

theorem strip_value (mantissa : ℕ) (exponent : ℤ) :
    ((strip mantissa exponent).1 : ℚ) * 10 ^ (strip mantissa exponent).2 =
      mantissa * 10 ^ exponent := by
  fun_induction strip mantissa exponent with
  | case1 mantissa exponent ends ih =>
    have whole : mantissa = mantissa / 10 * 10 := by omega
    rw [ih, zpow_add_one₀ (by norm_num)]
    nth_rewrite 2 [whole]
    push_cast
    ring
  | case2 mantissa exponent done => rfl

/-- A mantissa and an exponent give the decimal that denotes their number, if there is one. -/
theorem ofParts?_eq_some_iff {mantissa : ℕ} {exponent : ℤ} {negative : Bool} {decimal : Decimal} :
    ofParts? mantissa exponent negative = some decimal ↔
      decimal.toRat = signFactor negative * (mantissa * 10 ^ exponent) := by
  by_cases zero : mantissa = 0
  · have nothing : signFactor negative * ((mantissa : ℚ) * 10 ^ exponent) = 0 := by simp [zero]
    rw [nothing, toRat_eq_zero_iff, ofParts?, dif_neg (by simpa using zero), Option.some.injEq,
      eq_comm]
  · have ends := strip_mod mantissa exponent zero
    rw [← strip_value, toRat_eq_iff ends, ofParts?, dif_pos zero]
    dsimp only
    split
    next fits => rw [Option.some_inj, eq_comm, eq_iff_parts]
    next outside =>
      simp only [reduceCtorEq, false_iff]
      -- the parts of a decimal are in range
      rintro ⟨-, mantissa, exponent⟩
      apply outside
      rw [← mantissa, ← exponent]
      exact ⟨decimal.mantissa_lt, decimal.exponent_range⟩

/-! ### Decimals from digits -/

section

variable {negative : Bool} {integer fraction : List Char} {exponent : ℤ}
  {digits : ∀ c ∈ integer ++ fraction, Radix.decimal.isDigit c = true}

theorem ofDigits?_of_zeros (zeros : Digits.significant (integer ++ fraction) = []) :
    ofDigits? negative integer fraction exponent digits = some zero := by
  simp [ofDigits?, zeros]

/-- Digits that are not all zero give the decimal that has what is left of them for its mantissa, if
there is one. -/
theorem ofDigits?_eq_some_iff (nonempty : Digits.significant (integer ++ fraction) ≠ [])
    {decimal : Decimal} :
    ofDigits? negative integer fraction exponent digits = some decimal ↔
      (Digits.significant (integer ++ fraction)).length ≤ maxDigits ∧
        decimal.negative = negative ∧
        decimal.mantissa = Digits.value 10 (Digits.significant (integer ++ fraction)) ∧
        decimal.exponent = exponent - fraction.length +
          ((((integer ++ fraction).dropWhile (· == '0')).length -
            (Digits.significant (integer ++ fraction)).length : ℕ) : ℤ) := by
  unfold ofDigits?
  dsimp only
  rw [dif_pos nonempty]
  split
  next few =>
    split
    next range =>
      rw [Option.some_inj, eq_comm, eq_iff_parts]
      exact (and_iff_right few).symm
    next outside =>
      simp only [reduceCtorEq, false_iff]
      -- the exponent of a decimal is in range
      rintro ⟨-, -, -, exponent⟩
      exact outside (exponent ▸ decimal.exponent_range)
  next many => simp [many]

end

end DeclScan.Decimal
