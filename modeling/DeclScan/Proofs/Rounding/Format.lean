import DeclScan.Binary.Format
import DeclScan.Proofs.Rounding.Odd

/-!
Rounding to a floating-point format.

## Main results

`Format.round?_isNearest`: rounding gives the number of the format nearest to the exact one, ties to
even, and nothing exactly when that number would be too large.
`Format.decode_bits`: the bit pattern of a number of the format, read back field by field, is the
number.

## Proof strategy

`Format.nearest` is the rounding of an exact number onto the grid that the format has at its
magnitude, without an upper end. It is monotone and keeps what the format holds, and it is all that
`Format.IsNearest` depends on.
-/

namespace DeclScan.Binary

namespace Format

/-- What the formats have in common: some precision, exponents that lie about zero, and a field for
each exponent, for the numbers below the normal ones and for what is not a number. -/
structure Regular (format : Format) : Prop where
  precision_pos : 1 ≤ format.precision
  precision_lt : format.precision < format.width
  maxExponent_pos : 1 ≤ format.maxExponent
  minExponent_eq : format.minExponent = 1 - format.maxExponent
  fields : 2 * format.maxExponent + 2 = (2 ^ (format.width - format.precision) : ℕ)

theorem binary64_regular : binary64.Regular := by
  constructor <;> decide

theorem binary32_regular : binary32.Regular := by
  constructor <;> decide

theorem regular_of_supported {format : Format} (supported : format = binary64 ∨ format = binary32) :
    format.Regular := by
  rcases supported with rfl | rfl
  · exact binary64_regular
  · exact binary32_regular

/-- The exponent of the least number of the format. -/
def least (format : Format) : ℤ := format.lastExponent format.minExponent

/-- The least power of two that is too large for the format. -/
def bound (format : Format) : ℚ := 2 ^ (format.maxExponent + 1)

/-- `x` rounded to the grid of the format, as if there were no largest number. -/
def nearest (format : Format) (x : ℚ) : ℚ := roundToGrid (format.lastExponent (Int.log 2 x)) x

/-- `number` is written as the format stores it: with all the bits it has, unless it is too small. -/
structure Holds (format : Format) (number : Scaled) : Prop where
  least_le : format.least ≤ number.exponent
  mantissa_le : number.mantissa ≤ 2 ^ format.precision
  normal : number.mantissa < 2 ^ (format.precision - 1) → number.exponent = format.least
  lt_bound : number.toRat < format.bound

/-- `result` is what rounding `x` to the format gives. -/
def IsNearest (format : Format) (x : ℚ) (result : Option Scaled) : Prop :=
  match result with
  | none => format.bound ≤ format.nearest x
  | some number => format.Holds number ∧ number.toRat = format.nearest x

variable {format : Format}

theorem least_eq : format.least = format.minExponent - (format.precision - 1) := by
  rw [least, lastExponent, max_self]

theorem lastExponent_eq (top : ℤ) :
    format.lastExponent top = max (top - (format.precision - 1)) format.least := by
  rw [least_eq, lastExponent]
  omega

theorem least_le_lastExponent (top : ℤ) : format.least ≤ format.lastExponent top := by
  rw [lastExponent_eq]
  exact le_max_right _ _

/-! ### The grid of a format -/

@[simp] theorem nearest_zero : format.nearest 0 = 0 := roundToGrid_zero _

theorem nearest_le_two_zpow {x : ℚ} {k : ℤ} (below : x ≤ 2 ^ k)
    (grid : format.lastExponent (Int.log 2 x) ≤ k) : format.nearest x ≤ 2 ^ k := by
  rw [← roundToGrid_two_zpow grid]
  exact roundToGrid_mono _ below

theorem two_zpow_le_nearest {x : ℚ} {k : ℤ} (above : 2 ^ k ≤ x)
    (grid : format.lastExponent (Int.log 2 x) ≤ k) : 2 ^ k ≤ format.nearest x := by
  rw [← roundToGrid_two_zpow grid]
  exact roundToGrid_mono _ above

/-- The numbers that fit the precision and are no finer than the least number stay as they are. -/
theorem nearest_eq_self (regular : format.Regular) {m : ℕ} {e : ℤ}
    (fits : m ≤ 2 ^ format.precision) (coarse : format.least ≤ e) :
    format.nearest (m * 2 ^ e) = m * 2 ^ e := by
  have short {n : ℕ} {k : ℤ} (small : n < 2 ^ format.precision) (coarse : format.least ≤ k) :
      format.nearest (n * 2 ^ k) = n * 2 ^ k := by
    by_cases zero : n = 0
    · simp [zero]
    · apply roundToGrid_of_le
      have length : n.log2 < format.precision := (Nat.log2_lt zero).mpr small
      rw [lastExponent_eq, Scaled.log_mul_two_zpow zero]
      omega
  rcases fits.lt_or_eq with small | rfl
  · exact short small coarse
  · -- the next power of two is half the mantissa one place higher
    obtain ⟨p, equal⟩ := Nat.exists_eq_add_of_le' regular.precision_pos
    have halved : ((2 ^ format.precision : ℕ) : ℚ) * 2 ^ e = ((2 ^ p : ℕ) : ℚ) * 2 ^ (e + 1) := by
      rw [equal, zpow_add_one₀ (by norm_num), pow_succ]
      push_cast
      ring
    rw [halved]
    exact short (Nat.pow_lt_pow_right (by norm_num) (by omega)) (by omega)

theorem nearest_mono (regular : format.Regular) {x y : ℚ} (positive : 0 < x) (order : x ≤ y) :
    format.nearest x ≤ format.nearest y := by
  have logs : Int.log 2 x ≤ Int.log 2 y := Int.log_mono_right positive order
  have some_bit := regular.precision_pos
  by_cases same : format.lastExponent (Int.log 2 x) = format.lastExponent (Int.log 2 y)
  · rw [nearest, nearest, same]
    exact roundToGrid_mono _ order
  · -- between numbers on different grids lies a power of two that is on both
    have grids : Int.log 2 x < Int.log 2 y ∧ format.lastExponent (Int.log 2 x) ≤ Int.log 2 y ∧
        format.lastExponent (Int.log 2 y) ≤ Int.log 2 y := by
      rw [lastExponent_eq, lastExponent_eq] at same ⊢
      omega
    have low : format.nearest x ≤ 2 ^ Int.log 2 y := by
      apply nearest_le_two_zpow _ grids.2.1
      exact (lt_two_zpow_log_succ x).le.trans (zpow_le_zpow_right₀ (by norm_num) (by omega))
    have high : 2 ^ Int.log 2 y ≤ format.nearest y :=
      two_zpow_le_nearest (two_zpow_log_le (positive.trans_le order)) grids.2.2
    exact low.trans high

theorem nearest_two_zpow (regular : format.Regular) {k : ℤ} (coarse : format.least ≤ k) :
    format.nearest (2 ^ k) = 2 ^ k := by
  simpa using nearest_eq_self regular Nat.one_le_two_pow coarse

theorem nearest_le (regular : format.Regular) {x : ℚ} {k : ℤ} (nonneg : 0 ≤ x) (below : x ≤ 2 ^ k)
    (coarse : format.least ≤ k) : format.nearest x ≤ 2 ^ k := by
  rcases nonneg.eq_or_lt with rfl | positive
  · exact nearest_zero.trans_le below
  · exact (nearest_mono regular positive below).trans_eq (nearest_two_zpow regular coarse)

theorem le_nearest (regular : format.Regular) {x : ℚ} {k : ℤ} (above : 2 ^ k ≤ x)
    (coarse : format.least ≤ k) : 2 ^ k ≤ format.nearest x :=
  (nearest_two_zpow regular coarse).symm.trans_le (nearest_mono regular (two_zpow_pos k) above)

theorem nearest_eq_of_odd {bits : ℕ} {x y : ℚ} (odd : IsRoundedToOdd bits x y)
    (spare : format.precision + 1 ≤ bits) : format.nearest x = format.nearest y := by
  -- both numbers have the same grid, two bits above the lowest one of the odd number
  rw [nearest, nearest, odd.log_eq (by omega)]
  apply odd.roundToGrid_eq
  rw [lastExponent_eq]
  omega

theorem nearest_eq_zero (regular : format.Regular) {x : ℚ} (nonneg : 0 ≤ x)
    (tiny : x ≤ 2 ^ (format.least - 1)) : format.nearest x = 0 := by
  rcases nonneg.eq_or_lt with rfl | positive
  · exact nearest_zero
  · have some_bit := regular.precision_pos
    -- on the grid of the least number at most half a step is left, and a tie goes to zero
    have low : Int.log 2 x < format.least := by
      rw [← Int.lt_zpow_iff_log_lt (by norm_num) positive]
      refine lt_of_le_of_lt tiny ?_
      exact_mod_cast zpow_lt_zpow_right₀ (by norm_num : (1 : ℚ) < 2) (sub_one_lt format.least)
    have grid : format.lastExponent (Int.log 2 x) = format.least := by
      rw [lastExponent_eq]
      omega
    have half : x / 2 ^ format.least ≤ 1 / 2 := by
      rw [div_le_iff₀ (two_zpow_pos _), one_div, ← zpow_neg_one, ← zpow_add₀ (by norm_num)]
      rwa [neg_add_eq_sub]
    have above : 0 < x / 2 ^ format.least := div_pos positive (two_zpow_pos _)
    have rounded : nearestEven (x / 2 ^ format.least) = 0 := by
      rw [nearestEven_eq_iff]
      rcases half.lt_or_eq with less | tie
      · exact Or.inl ⟨by push_cast; linarith, by push_cast; linarith⟩
      · exact Or.inr ⟨rfl, Or.inr (by push_cast; linarith)⟩
    rw [nearest, grid, roundToGrid, rounded, Int.cast_zero, zero_mul]

namespace IsNearest

variable {x y : ℚ} {result : Option Scaled}

theorem congr (near : format.IsNearest x result) (same : format.nearest x = format.nearest y) :
    format.IsNearest y result := by
  cases result with
  | none => exact near.trans_eq same
  | some number => exact ⟨near.1, near.2.trans same⟩

theorem of_large (near : format.IsNearest x result) (large : format.bound ≤ format.nearest x)
    (also : format.bound ≤ format.nearest y) : format.IsNearest y result := by
  cases result with
  | none => exact also
  | some number => exact absurd near.1.lt_bound (large.trans_eq near.2.symm).not_gt

end IsNearest

/-! ### Rounding -/

theorem mantissa_le_of_nearest (regular : format.Regular) {x : ℚ} {k : ℕ}
    (rounded : k * 2 ^ format.lastExponent (Int.log 2 x) = format.nearest x) :
    k ≤ 2 ^ format.precision := by
  have some_bit := regular.precision_pos
  have room : Int.log 2 x + 1 ≤ format.precision + format.lastExponent (Int.log 2 x) := by
    rw [lastExponent_eq]
    omega
  -- the power of two above the number is on its grid
  have below : format.nearest x ≤ 2 ^ (format.precision + format.lastExponent (Int.log 2 x)) := by
    apply nearest_le_two_zpow _ (by omega)
    exact (lt_two_zpow_log_succ x).le.trans (zpow_le_zpow_right₀ (by norm_num) room)
  rw [← rounded, zpow_add₀ (by norm_num), zpow_natCast] at below
  exact_mod_cast le_of_mul_le_mul_right below (two_zpow_pos _)

theorem normal_of_nearest (regular : format.Regular) {x : ℚ} (positive : 0 < x) {k : ℕ}
    (rounded : k * 2 ^ format.lastExponent (Int.log 2 x) = format.nearest x)
    (small : k < 2 ^ (format.precision - 1)) :
    format.lastExponent (Int.log 2 x) = format.least := by
  have some_bit := regular.precision_pos
  by_contra above
  -- above the least exponent the leading bit is one of the bits that are kept
  have place : Int.log 2 x =
      ((format.precision - 1 : ℕ) : ℤ) + format.lastExponent (Int.log 2 x) := by
    rw [lastExponent_eq] at above ⊢
    omega
  have kept : 2 ^ Int.log 2 x ≤ format.nearest x :=
    two_zpow_le_nearest (two_zpow_log_le positive) (by omega)
  rw [← rounded, place, zpow_add₀ (by norm_num), zpow_natCast, ← place] at kept
  have : 2 ^ (format.precision - 1) ≤ k := by
    exact_mod_cast le_of_mul_le_mul_right kept (two_zpow_pos _)
  omega

end Format

namespace Scaled

/-- Rounding to the bits above `2 ^ last` is rounding to the grid of its multiples. -/
theorem roundTo_eq (number : Scaled) (last : ℤ) :
    last ≤ (number.roundTo (number.top - last + 1)).exponent ∧
      (number.roundTo (number.top - last + 1)).toRat = roundToGrid last number.toRat := by
  have excess : (bitLength number.mantissa : ℤ) - (number.top - last + 1) =
      last - number.exponent := by
    rw [top]
    ring
  simp only [roundTo, excess]
  split
  next fits => exact ⟨by omega, (roundToGrid_of_le number.mantissa (by omega)).symm⟩
  next long =>
    -- the bits below the grid are divided off
    obtain ⟨n, equal⟩ : ∃ n : ℕ, last - number.exponent = n := ⟨(last - number.exponent).toNat, by omega⟩
    have place : number.exponent + (n : ℤ) = last := by omega
    have quotient : number.toRat / 2 ^ last = (number.mantissa : ℚ) / (2 ^ n : ℕ) := by
      rw [toRat, ← place, zpow_add₀ (by norm_num), zpow_natCast,
        mul_comm (2 ^ number.exponent), mul_div_mul_right _ _ (two_zpow_pos _).ne']
      norm_cast
    rw [equal, place]
    refine ⟨le_rfl, ?_⟩
    rw [toRat, roundToGrid, quotient, ← divNearestEven_eq _ _ (by positivity), Int.toNat_natCast,
      Nat.one_shiftLeft]
    rfl

theorem toRat_shiftLeft (number : Scaled) {last : ℤ} (above : last ≤ number.exponent) :
    toRat ⟨number.mantissa <<< (number.exponent - last).toNat, last⟩ = number.toRat := by
  obtain ⟨n, equal⟩ : ∃ n : ℕ, number.exponent = last + n := ⟨(number.exponent - last).toNat, by omega⟩
  rw [toRat, toRat, equal, add_sub_cancel_left, Int.toNat_natCast, Nat.shiftLeft_eq,
    zpow_add₀ (by norm_num), zpow_natCast]
  push_cast
  ring

end Scaled

namespace Format

variable {format : Format}

theorem lt_top_iff (regular : format.Regular) (number : Scaled)
    (low : number.mantissa = 0 → number.exponent = format.least) :
    format.maxExponent < number.top ↔ format.bound ≤ number.toRat := by
  by_cases zero : number.mantissa = 0
  · -- zero has its place below the least number
    have order := regular.minExponent_eq
    have some_normal := regular.maxExponent_pos
    have some_bit := regular.precision_pos
    have small : ¬format.bound ≤ number.toRat := by
      rw [Scaled.toRat, zero, Nat.cast_zero, zero_mul, not_le]
      exact two_zpow_pos _
    have top : number.top = format.least - 1 := by
      rw [Scaled.top, zero, low zero, bitLength, if_pos rfl]
      simp
    rw [least_eq] at top
    constructor
    · intro high
      omega
    · intro high
      exact absurd high small
  · rw [← Scaled.log_toRat zero, bound, ← Int.add_one_le_iff]
    have power := Int.zpow_le_iff_le_log (b := 2) (by norm_num) (Scaled.toRat_pos zero)
      (x := format.maxExponent + 1)
    rw [← power]
    norm_cast

/-- Rounding gives the nearest number of the format, or nothing if that is too large. -/
theorem round?_isNearest (regular : format.Regular) (number : Scaled) :
    format.IsNearest number.toRat (format.round? number) := by
  have some_bit := regular.precision_pos
  by_cases zero : number.mantissa = 0
  · have value : number.toRat = 0 := by rw [Scaled.toRat, zero, Nat.cast_zero, zero_mul]
    rw [round?, if_pos zero, value]
    refine ⟨⟨le_rfl, Nat.zero_le _, fun _ => rfl, ?_⟩, ?_⟩
    · simpa [Scaled.toRat, bound] using two_zpow_pos (format.maxExponent + 1)
    · simp [Scaled.toRat]
  · obtain ⟨above, grid⟩ := number.roundTo_eq (format.lastExponent number.top)
    have aligned := Scaled.toRat_shiftLeft _ above
    rw [round?, if_neg zero]
    dsimp only
    -- in units of the grid the rounded number is an integer
    generalize (number.roundTo (number.top - format.lastExponent number.top + 1)).mantissa <<<
      ((number.roundTo (number.top - format.lastExponent number.top + 1)).exponent -
        format.lastExponent number.top).toNat = k at aligned ⊢
    rw [grid, ← Scaled.log_toRat zero] at aligned
    rw [← Scaled.log_toRat zero]
    have normal := normal_of_nearest regular (Scaled.toRat_pos zero) aligned
    have top := lt_top_iff regular ⟨k, format.lastExponent (Int.log 2 number.toRat)⟩
      fun none => normal (none ▸ Nat.two_pow_pos _)
    split
    next high => exact (top.mp high).trans_eq aligned
    next low =>
      refine ⟨⟨least_le_lastExponent _, mantissa_le_of_nearest regular aligned, normal, ?_⟩, aligned⟩
      exact not_le.mp fun large => low (top.mpr large)

/-! ### Bit patterns -/

/-- The sign and the magnitude that a bit pattern stands for, field by field: a sign bit, an exponent
field with bias `maxExponent`, and the bits after the point. The highest exponent field is kept for
what is not a finite number, the lowest for numbers without a leading one. -/
def decode (format : Format) (pattern : ℕ) : Option (Bool × ℚ) :=
  let fraction := pattern % 2 ^ (format.precision - 1)
  let field := pattern / 2 ^ (format.precision - 1) % 2 ^ (format.width - format.precision)
  let negative := pattern / 2 ^ (format.width - 1) % 2 == 1
  let point : ℤ := format.maxExponent + (format.precision - 1)
  if field = 2 ^ (format.width - format.precision) - 1 then none
  else if field = 0 then some (negative, (fraction : ℚ) * 2 ^ (1 - point))
  else some (negative, (2 ^ (format.precision - 1) + fraction : ℚ) * 2 ^ (field - point))

theorem decode_fields (regular : format.Regular) (negative : Bool) {field fraction : ℕ}
    (finite : field + 1 < 2 ^ (format.width - format.precision))
    (short : fraction < 2 ^ (format.precision - 1)) :
    format.decode ((if negative then 1 <<< (format.width - 1) else 0) +
        (field * 2 ^ (format.precision - 1) + fraction)) =
      some (negative, if field = 0 then (fraction : ℚ) * 2 ^ format.least
        else (2 ^ (format.precision - 1) + fraction : ℚ) * 2 ^ (format.least + field - 1)) := by
  have some_bit := regular.precision_pos
  have room := regular.precision_lt
  have bias := regular.minExponent_eq
  have places : 2 ^ (format.width - 1) =
      2 ^ (format.precision - 1) * 2 ^ (format.width - format.precision) := by
    rw [← pow_add]
    congr 1
    omega
  have sign : (if negative then 1 <<< (format.width - 1) else 0) =
      negative.toNat * 2 ^ (format.width - format.precision) * 2 ^ (format.precision - 1) := by
    rw [mul_assoc, mul_comm (2 ^ (format.width - format.precision)), ← places]
    cases negative <;> simp [Nat.one_shiftLeft]
  -- the three fields are apart, so each division or remainder leaves one of them
  rw [sign, ← add_assoc, ← add_mul, add_comm _ fraction]
  have low : (fraction + (negative.toNat * 2 ^ (format.width - format.precision) + field) *
      2 ^ (format.precision - 1)) % 2 ^ (format.precision - 1) = fraction := by
    rw [Nat.add_mul_mod_self_right, Nat.mod_eq_of_lt short]
  have high : (fraction + (negative.toNat * 2 ^ (format.width - format.precision) + field) *
      2 ^ (format.precision - 1)) / 2 ^ (format.precision - 1) =
        field + negative.toNat * 2 ^ (format.width - format.precision) := by
    rw [Nat.add_mul_div_right _ _ (Nat.two_pow_pos _), Nat.div_eq_of_lt short]
    ring
  have middle : (field + negative.toNat * 2 ^ (format.width - format.precision)) %
      2 ^ (format.width - format.precision) = field := by
    rw [Nat.add_mul_mod_self_right, Nat.mod_eq_of_lt (by omega)]
  have front : ((field + negative.toNat * 2 ^ (format.width - format.precision)) /
      2 ^ (format.width - format.precision) % 2 == 1) = negative := by
    rw [Nat.add_mul_div_right _ _ (Nat.two_pow_pos _), Nat.div_eq_of_lt (by omega), zero_add]
    cases negative <;> rfl
  have point : 1 - (format.maxExponent + ((format.precision : ℤ) - 1)) = format.least := by
    rw [least_eq]
    omega
  have point' : (field : ℤ) - (format.maxExponent + ((format.precision : ℤ) - 1)) =
      format.least + field - 1 := by
    rw [← point]
    ring
  simp only [decode, places, ← Nat.div_div_eq_div_mul, low, high, middle, front, point, point']
  rw [if_neg (by omega)]
  split <;> rfl

theorem field_lt (regular : format.Regular) {number : Scaled} (holds : format.Holds number) {n : ℕ}
    (leading : 2 ^ (format.precision - 1 + n) ≤ number.mantissa) :
    number.exponent - format.least + n + 2 < (2 ^ (format.width - format.precision) : ℕ) := by
  have some_bit := regular.precision_pos
  -- the leading one is below the bound, and the exponent fields go up to the bound
  have power : (2 : ℚ) ^ (((format.precision - 1 + n : ℕ) : ℤ) + number.exponent) < format.bound := by
    rw [zpow_add₀ (by norm_num), zpow_natCast]
    refine lt_of_le_of_lt ?_ holds.lt_bound
    exact mul_le_mul_of_nonneg_right (by exact_mod_cast leading) (two_zpow_pos _).le
  have exponents := (zpow_lt_zpow_iff_right₀ (by norm_num)).mp power
  rw [← regular.fields, least_eq, regular.minExponent_eq]
  omega

/-- The bit pattern of a number of the format stands for the number. -/
theorem decode_bits (regular : format.Regular) (negative : Bool) {number : Scaled}
    (holds : format.Holds number) :
    format.decode (format.bits ⟨negative, number⟩) = some (negative, number.toRat) := by
  have some_bit := regular.precision_pos
  obtain ⟨steps, place⟩ : ∃ steps : ℕ, number.exponent = format.least + steps :=
    ⟨(number.exponent - format.least).toNat, by have := holds.least_le; omega⟩
  have pattern : format.bits ⟨negative, number⟩ = (if negative then 1 <<< (format.width - 1) else 0) +
      (steps * 2 ^ (format.precision - 1) + number.mantissa) := by
    rw [bits, ← least, place, add_sub_cancel_left, Int.toNat_natCast, Nat.shiftLeft_eq steps,
      add_assoc]
  have double : 2 ^ format.precision = 2 * 2 ^ (format.precision - 1) := by
    rw [← pow_succ', Nat.sub_add_cancel some_bit]
  rcases lt_or_ge number.mantissa (2 ^ (format.precision - 1)) with small | large
  · -- no leading one: the exponent field is zero
    have lowest := holds.normal small
    have zero : steps = 0 := by omega
    have fields : 0 + 1 < 2 ^ (format.width - format.precision) := by
      have some_normal := regular.maxExponent_pos
      have count := regular.fields
      omega
    rw [pattern, zero, decode_fields regular negative fields small, if_pos rfl, Scaled.toRat, lowest]
  · rcases holds.mantissa_le.lt_or_eq with short | carried
    · -- the leading one adds itself to the exponent field
      have fields := field_lt regular holds (n := 0) large
      have sum : steps * 2 ^ (format.precision - 1) + number.mantissa = (steps + 1) *
          2 ^ (format.precision - 1) + (number.mantissa - 2 ^ (format.precision - 1)) := by
        rw [add_mul]
        omega
      rw [pattern, sum, decode_fields regular negative (by omega) (by omega),
        if_neg (Nat.succ_ne_zero steps), Scaled.toRat, place, Nat.cast_sub large]
      push_cast
      ring_nf
    · -- a mantissa that was rounded up to the next power of two adds itself twice
      have fields := field_lt regular holds (n := 1) (by rw [pow_succ]; omega)
      have sum : steps * 2 ^ (format.precision - 1) + number.mantissa =
          (steps + 2) * 2 ^ (format.precision - 1) + 0 := by
        rw [add_mul]
        omega
      rw [pattern, sum, decode_fields regular negative (by omega) (Nat.two_pow_pos _),
        if_neg (Nat.succ_ne_zero (steps + 1)), Scaled.toRat, place, carried, double]
      push_cast
      rw [show format.least + ((steps : ℤ) + 2) - 1 = format.least + steps + 1 by ring,
        zpow_add_one₀ (by norm_num)]
      ring_nf

end Format

end DeclScan.Binary
