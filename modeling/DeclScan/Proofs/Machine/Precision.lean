import DeclScan.Proofs.Machine.Double

/-!
Rounding to a number of bits, in exact numbers and in words of 64 bits.

The bits of a number that are too many are cut off by one shift, and what was cut decides whether the
last kept bit goes up. Above 64 bits too many there is nothing to shift: zero is returned at once.

## Main result

- `Scaled.roundTo_nearest_even`: for every number of bits to keep, no bit and less than none among
  them, a 64-bit mantissa is divided by a power of two and rounded to the nearest integer, ties to
  even. The computation in 64-bit words comes to a result, and to the same number.

## Proof strategy

What `RoundsTo` says of a result is about one quotient, `Scaled.kept`. A mantissa of `b` bits is below
`2 ^ b`, and rounding does not pass an integer (`divNearestEven_le`): all bounds on the quotient come
from these two. The words are then followed through the three ways out of `Machine.roundTo`
(`Machine.roundTo_eq`).
-/

namespace DeclScan

namespace Binary

namespace Scaled

/-! ### What a rounded number is -/

/-- How many bits `number` has more than `precision`. -/
def surplus (number : Scaled) (precision : ℤ) : ℤ := bitLength number.mantissa - precision

/-- The mantissa without the bits that are too many, rounded to the nearest integer, ties to even. -/
def kept (number : Scaled) (precision : ℤ) : ℤ :=
  nearestEven (number.mantissa / 2 ^ number.surplus precision)

/-- `result` is `number` rounded to at most `precision` bits. -/
structure RoundsTo (number : Scaled) (precision : ℤ) (result : Scaled) : Prop where
  /-- A number that is short enough stays as it is. -/
  same : number.surplus precision ≤ 0 → result = number
  /-- A longer one becomes the nearest multiple of its last kept bit. -/
  value : 0 < number.surplus precision →
    result.toRat = number.kept precision * 2 ^ (number.exponent + number.surplus precision)
  mantissa : 0 < number.surplus precision → (result.mantissa : ℤ) = number.kept precision
  /-- Where no bit is kept, only the lowest one can be rounded up to. -/
  unit : precision ≤ 0 → number.kept precision = 0 ∨ number.kept precision = 1
  nothing : 64 < number.surplus precision → number.kept precision = 0
  /-- Rounding up can add one bit, and then there is only that one. -/
  short : 1 ≤ precision → result.mantissa ≤ 2 ^ precision.toNat

section

variable {number : Scaled} {precision : ℤ}

theorem kept_eq (long : 0 ≤ number.surplus precision) :
    number.kept precision =
      divNearestEven number.mantissa (1 <<< (number.surplus precision).toNat) := by
  rw [divNearestEven_eq _ _ (by simp [Nat.one_shiftLeft]), kept, Nat.one_shiftLeft]
  push_cast
  rw [← zpow_natCast, Int.toNat_of_nonneg long]

theorem divNearestEven_surplus_le (long : 0 ≤ number.surplus precision) :
    divNearestEven number.mantissa (1 <<< (number.surplus precision).toNat) ≤
      2 ^ precision.toNat := by
  have bits : bitLength number.mantissa ≤
      precision.toNat + (number.surplus precision).toNat := by
    rw [surplus] at *
    omega
  apply divNearestEven_le (by simp [Nat.one_shiftLeft])
  calc number.mantissa ≤ 2 ^ bitLength number.mantissa := (lt_two_pow_bitLength _).le
    _ ≤ 2 ^ (precision.toNat + (number.surplus precision).toNat) :=
      Nat.pow_le_pow_right (by norm_num) bits
    _ = 2 ^ precision.toNat * 1 <<< (number.surplus precision).toNat := by
      rw [Nat.one_shiftLeft, pow_add]

theorem kept_of_precision_nonpos (none_kept : precision ≤ 0) :
    number.kept precision = 0 ∨ number.kept precision = 1 := by
  have long : 0 ≤ number.surplus precision := by
    rw [surplus]
    omega
  have most := divNearestEven_surplus_le long
  rw [Int.toNat_of_nonpos none_kept, pow_zero] at most
  rw [kept_eq long]
  omega

theorem kept_of_lt_surplus (fits : number.mantissa < 2 ^ 64)
    (far : 64 < number.surplus precision) : number.kept precision = 0 := by
  rw [kept_eq (by omega), Machine.divNearestEven_shiftLeft_of_far fits (by omega), Nat.cast_zero]

/-! ### Exact numbers -/

theorem roundTo_of_surplus_nonpos (enough : number.surplus precision ≤ 0) :
    number.roundTo precision = number := if_pos enough

theorem roundTo_of_surplus_pos (long : 0 < number.surplus precision) :
    number.roundTo precision =
      ⟨divNearestEven number.mantissa (1 <<< (number.surplus precision).toNat),
        number.exponent + number.surplus precision⟩ := if_neg long.not_ge

theorem mantissa_le_of_surplus_nonpos (enough : number.surplus precision ≤ 0) :
    number.mantissa ≤ 2 ^ precision.toNat := by
  calc number.mantissa ≤ 2 ^ bitLength number.mantissa := (lt_two_pow_bitLength _).le
    _ ≤ 2 ^ precision.toNat := Nat.pow_le_pow_right (by norm_num) (by rw [surplus] at enough; omega)

theorem roundsTo_roundTo (fits : number.mantissa < 2 ^ 64) :
    number.RoundsTo precision (number.roundTo precision) where
  same := roundTo_of_surplus_nonpos
  value long := by
    rw [roundTo_of_surplus_pos long, kept_eq long.le, toRat, Int.cast_natCast]
  mantissa long := by rw [roundTo_of_surplus_pos long, kept_eq long.le]
  unit := kept_of_precision_nonpos
  nothing := kept_of_lt_surplus fits
  short _ := by
    rcases le_or_gt (number.surplus precision) 0 with enough | long
    · rw [roundTo_of_surplus_nonpos enough]
      exact mantissa_le_of_surplus_nonpos enough
    · rw [roundTo_of_surplus_pos long]
      exact divNearestEven_surplus_le long.le

theorem roundsTo_zero (fits : number.mantissa < 2 ^ 64) (far : 64 < number.surplus precision) :
    number.RoundsTo precision ⟨0, 0⟩ where
  same enough := by omega
  value _ := by
    rw [kept_of_lt_surplus fits far, Int.cast_zero, zero_mul]
    exact toRat_of_mantissa_zero rfl
  mantissa _ := (kept_of_lt_surplus fits far).symm
  unit := kept_of_precision_nonpos
  nothing := kept_of_lt_surplus fits
  short _ := Nat.zero_le _

end

end Scaled

end Binary

/-! ### Words of 64 bits -/

namespace Machine

open Binary

theorem roundTo_eq {number : Scaled} (fits : number.mantissa < 2 ^ 64)
    (low : -2 ^ 63 ≤ number.exponent) (high : number.exponent + 64 < 2 ^ 63) (precision : ℤ) :
    roundTo number precision =
      .ok (if 64 < number.surplus precision then ⟨0, 0⟩ else number.roundTo precision) := by
  have bits : number.surplus precision = bitLength number.mantissa - precision := rfl
  rw [roundTo, ← bits]
  by_cases enough : number.surplus precision ≤ 0
  · have still : saturate (number.surplus precision) ≤ 0 := by
      unfold saturate
      omega
    rw [if_pos still, if_neg (by omega), Scaled.roundTo_of_surplus_nonpos enough]
    rfl
  · by_cases far : 64 < number.surplus precision
    · have still : 64 < saturate (number.surplus precision) := by
        unfold saturate
        omega
      rw [if_neg (by omega), if_pos still, if_pos far]
      rfl
    · have whole : saturate (number.surplus precision) = number.surplus precision := by
        unfold saturate
        omega
      have place : saturate (number.exponent + number.surplus precision) =
          number.exponent + number.surplus precision := by
        unfold saturate
        omega
      rw [whole, if_neg enough, if_neg far, if_neg far, place,
        shiftNearestEven_eq fits (by omega) (by omega),
        Scaled.roundTo_of_surplus_pos (by omega)]
      rfl

end Machine

/-! ### Main result -/

namespace Binary.Scaled

/-- A mantissa of 64 bits, `bitLength` of them significant, is rounded to the nearest, ties to even,
for every number of bits to keep; in 64-bit words as well, if the exponent has room for the shift. -/
theorem roundTo_nearest_even (number : Scaled) (fits : number.mantissa < 2 ^ 64) (precision : ℤ) :
    number.mantissa < 2 ^ bitLength number.mantissa ∧
      (number.mantissa ≠ 0 → 2 ^ (bitLength number.mantissa - 1) ≤ number.mantissa) ∧
      number.RoundsTo precision (number.roundTo precision) ∧
      (-2 ^ 63 ≤ number.exponent → number.exponent + 64 < 2 ^ 63 →
        ∃ result, Machine.roundTo number precision = .ok result ∧
          number.RoundsTo precision result) := by
  refine ⟨lt_two_pow_bitLength _, two_pow_bitLength_sub_one_le, roundsTo_roundTo fits, ?_⟩
  intro low high
  refine ⟨_, Machine.roundTo_eq fits low high precision, ?_⟩
  split
  next far => exact roundsTo_zero fits far
  next => exact roundsTo_roundTo fits

/-- A little more than half the least double is rounded up to it, although no bit is kept. -/
theorem roundTo_nearest_even_above_half :
    (2 ^ 63 + 1 : ℕ) < 2 ^ 64 ∧
      ∃ result, Machine.roundTo ⟨2 ^ 63 + 1, -1138⟩ 0 = .ok result ∧
        result.toRat = 2 ^ (-1074 : ℤ) := by
  have fits : (2 ^ 63 + 1 : ℕ) < 2 ^ 64 := by norm_num
  obtain ⟨-, -, -, words⟩ := roundTo_nearest_even ⟨2 ^ 63 + 1, -1138⟩ fits 0
  obtain ⟨result, computed, rounds⟩ := words (by norm_num) (by norm_num)
  refine ⟨fits, result, computed, ?_⟩
  have surplus : surplus ⟨2 ^ 63 + 1, -1138⟩ 0 = 64 := by decide
  have kept : kept ⟨2 ^ 63 + 1, -1138⟩ 0 = 1 := by
    rw [kept_eq (by decide)]
    decide
  rw [rounds.value (by decide), kept, surplus]
  norm_num

-- half the least double is a tie, and zero is even
example : Machine.roundTo ⟨2 ^ 63, -1138⟩ 0 = .ok ⟨0, -1074⟩ := rfl

end Binary.Scaled

end DeclScan
