import DeclScan.Proofs.Rounding.NearestEven
import Mathlib.Data.Int.Log

/-!
Numbers rounded to odd. A number that is cut off to more than `bits` bits, with its lowest bit set if
anything was cut, still has the exact number's leading bit (`IsRoundedToOdd.log_eq`) and rounds like
the exact number wherever at least two bits more are dropped (`IsRoundedToOdd.roundToGrid_eq`).
-/

namespace DeclScan.Binary

theorem log_eq_of_mem {x : ℚ} {k : ℤ} (low : 2 ^ k ≤ x) (high : x < 2 ^ (k + 1)) :
    Int.log 2 x = k := by
  have positive : 0 < x := (two_zpow_pos k).trans_le low
  have least : k ≤ Int.log 2 x :=
    (Int.zpow_le_iff_le_log (by norm_num) positive).mp (by exact_mod_cast low)
  have most : Int.log 2 x < k + 1 :=
    (Int.lt_zpow_iff_log_lt (by norm_num) positive).mp (by exact_mod_cast high)
  omega

theorem two_zpow_log_le {x : ℚ} (positive : 0 < x) : (2 : ℚ) ^ Int.log 2 x ≤ x := by
  exact_mod_cast Int.zpow_log_le_self (b := 2) (by norm_num) positive

theorem lt_two_zpow_log_succ (x : ℚ) : x < (2 : ℚ) ^ (Int.log 2 x + 1) := by
  exact_mod_cast Int.lt_zpow_succ_log_self (b := 2) (by norm_num) x

theorem bitLength_of_ne_zero {n : ℕ} (nonzero : n ≠ 0) : bitLength n = n.log2 + 1 := if_neg nonzero

theorem two_pow_log2_le {n : ℕ} (nonzero : n ≠ 0) : 2 ^ n.log2 ≤ n := Nat.log2_self_le nonzero

theorem lt_two_pow_bitLength (n : ℕ) : n < 2 ^ bitLength n := by
  by_cases zero : n = 0
  · simp [zero]
  · rw [bitLength_of_ne_zero zero]
    exact Nat.lt_log2_self

theorem two_pow_bitLength_sub_one_le {n : ℕ} (nonzero : n ≠ 0) : 2 ^ (bitLength n - 1) ≤ n := by
  rw [bitLength_of_ne_zero nonzero, Nat.add_sub_cancel]
  exact two_pow_log2_le nonzero

namespace Scaled

/-- The number that mantissa and exponent stand for. -/
def toRat (number : Scaled) : ℚ := number.mantissa * 2 ^ number.exponent

theorem top_of_ne_zero {number : Scaled} (nonzero : number.mantissa ≠ 0) :
    number.top = number.exponent + number.mantissa.log2 := by
  rw [top, bitLength_of_ne_zero nonzero]
  push_cast
  ring

theorem toRat_nonneg (number : Scaled) : 0 ≤ number.toRat :=
  mul_nonneg (Nat.cast_nonneg _) (two_zpow_pos _).le

theorem toRat_pos {number : Scaled} (nonzero : number.mantissa ≠ 0) : 0 < number.toRat :=
  mul_pos (by exact_mod_cast Nat.pos_of_ne_zero nonzero) (two_zpow_pos _)

theorem log_toRat {number : Scaled} (nonzero : number.mantissa ≠ 0) :
    Int.log 2 number.toRat = number.top := by
  have low : (2 : ℚ) ^ number.mantissa.log2 ≤ number.mantissa := by
    exact_mod_cast two_pow_log2_le nonzero
  have high : (number.mantissa : ℚ) < 2 ^ (number.mantissa.log2 + 1) := by
    exact_mod_cast Nat.lt_log2_self
  have unit := two_zpow_pos number.exponent
  rw [top_of_ne_zero nonzero]
  apply log_eq_of_mem
  · rw [zpow_add₀ (by norm_num), mul_comm, zpow_natCast]
    exact mul_le_mul_of_nonneg_right low unit.le
  · rw [add_assoc, zpow_add₀ (by norm_num), mul_comm, toRat]
    exact mul_lt_mul_of_pos_right (by exact_mod_cast high) unit

theorem log_mul_two_zpow {m : ℕ} (nonzero : m ≠ 0) (e : ℤ) :
    Int.log 2 ((m : ℚ) * 2 ^ e) = e + m.log2 := by
  have top : Int.log 2 (toRat ⟨m, e⟩) = top ⟨m, e⟩ := log_toRat nonzero
  rwa [top_of_ne_zero nonzero] at top

end Scaled

/-- `y` is `x`, or an odd multiple of a power of two that has more than `bits` bits, and `x` lies
strictly between the multiples next to it. -/
def IsRoundedToOdd (bits : ℕ) (x y : ℚ) : Prop :=
  x = y ∨ ∃ (m : ℕ) (e : ℤ), y = m * 2 ^ e ∧ 2 ^ bits ≤ m ∧ m % 2 = 1 ∧
    ((m : ℚ) - 1) * 2 ^ e < x ∧ x < ((m : ℚ) + 1) * 2 ^ e

namespace IsRoundedToOdd

variable {bits : ℕ} {x y : ℚ}

/-- The leading bit of an odd number is also that of all numbers between its neighbours. -/
theorem log_eq_of_between {m : ℕ} {e : ℤ} (large : 2 ≤ m) (parity : m % 2 = 1)
    (low : ((m : ℚ) - 1) * 2 ^ e < x) (high : x < ((m : ℚ) + 1) * 2 ^ e) :
    Int.log 2 x = e + m.log2 := by
  have least := Nat.log2_self_le (by omega : m ≠ 0)
  have most : m < 2 ^ (m.log2 + 1) := Nat.lt_log2_self
  -- a power of two above one is even, so it does not lie strictly between the neighbours
  have even : 2 ^ m.log2 % 2 = 0 := by
    obtain ⟨k, equal⟩ := Nat.exists_eq_add_of_le' ((Nat.le_log2 (by omega)).mpr large : 1 ≤ m.log2)
    rw [equal, pow_succ]
    omega
  have least' : (2 : ℚ) ^ m.log2 ≤ (m : ℚ) - 1 := by
    rw [le_sub_iff_add_le]
    exact_mod_cast (by omega : 2 ^ m.log2 + 1 ≤ m)
  have most' : (m : ℚ) + 1 ≤ 2 ^ (m.log2 + 1) := by
    exact_mod_cast (by omega : m + 1 ≤ 2 ^ (m.log2 + 1))
  have unit := two_zpow_pos e
  apply log_eq_of_mem
  · rw [zpow_add₀ (by norm_num), mul_comm, zpow_natCast]
    exact (mul_le_mul_of_nonneg_right least' unit.le).trans low.le
  · rw [add_assoc, zpow_add₀ (by norm_num), mul_comm]
    refine high.trans_le (mul_le_mul_of_nonneg_right ?_ unit.le)
    exact_mod_cast most'

theorem log_eq (odd : IsRoundedToOdd bits x y) (some_bit : 1 ≤ bits) :
    Int.log 2 x = Int.log 2 y := by
  rcases odd with rfl | ⟨m, e, rfl, large, parity, low, high⟩
  · rfl
  · have two : 2 ≤ m := (Nat.pow_le_pow_right (by norm_num) some_bit).trans large
    have nonzero : m ≠ 0 := by omega
    rw [log_eq_of_between two parity low high, Scaled.log_mul_two_zpow nonzero]

theorem between_halves {m : ℕ} (parity : m % 2 = 1) (half : ℕ) :
    (((m / 2 ^ (half + 1) : ℕ) : ℤ) : ℚ) * 2 ^ (half + 1) ≤ (m : ℚ) - 1 ∧
      (m : ℚ) + 1 ≤ (((m / 2 ^ (half + 1) : ℕ) : ℤ) + 1) * 2 ^ (half + 1) := by
  -- the multiples are even, so none of them is passed from an odd number to its neighbours
  have even : m / 2 ^ (half + 1) * 2 ^ (half + 1) % 2 = 0 := by
    rw [pow_succ, ← mul_assoc]
    exact Nat.mul_mod_left _ 2
  have below := Nat.div_mul_le_self m (2 ^ (half + 1))
  have above := Nat.lt_div_mul_add (Nat.two_pow_pos (half + 1)) (a := m)
  constructor
  · rw [le_sub_iff_add_le]
    exact_mod_cast (by omega : m / 2 ^ (half + 1) * 2 ^ (half + 1) + 1 ≤ m)
  · rw [add_mul, one_mul]
    exact_mod_cast above

theorem nearestEven_eq_of_neighbour {z : ℚ} {m half : ℕ} (parity : m % 2 = 1)
    (low : (m : ℚ) - 1 < z) (high : z < (m : ℚ) + 1) :
    nearestEven (z / 2 ^ (half + 2)) = (((m / 2 ^ (half + 1) : ℕ) : ℤ) + 1) / 2 := by
  have between := between_halves parity half
  have twice : 2 * (z / 2 ^ (half + 2)) = z / 2 ^ (half + 1) := by
    rw [pow_succ _ (half + 1), ← div_div, mul_div_cancel₀ _ two_ne_zero]
  apply nearestEven_eq_of_between
  · rw [twice, lt_div_iff₀ (by positivity)]
    exact between.1.trans_lt low
  · rw [twice, div_lt_iff₀ (by positivity)]
    exact high.trans_le between.2

/-- Rounding to a grid that lies two or more bits above an odd number's lowest does not tell the
exact number from its rounding to odd. -/
theorem roundToGrid_eq (odd : IsRoundedToOdd bits x y) {last : ℤ}
    (coarse : Int.log 2 y + 2 ≤ last + bits) : roundToGrid last x = roundToGrid last y := by
  rcases odd with rfl | ⟨m, e, rfl, large, parity, low, high⟩
  · rfl
  · have nonzero : m ≠ 0 := by omega
    have long : bits ≤ m.log2 := (Nat.le_log2 nonzero).mpr large
    have top := Scaled.log_mul_two_zpow nonzero e
    obtain ⟨half, rfl⟩ : ∃ half : ℕ, last = e + (half + 2 : ℕ) := ⟨(last - e - 2).toNat, by omega⟩
    have unit := two_zpow_pos e
    have low : (m : ℚ) - 1 < x / 2 ^ e := by rwa [lt_div_iff₀ unit]
    have high : x / 2 ^ e < (m : ℚ) + 1 := by rwa [div_lt_iff₀ unit]
    -- in units of the lowest bit, the grid is `half + 2` bits above it
    have scaled (z : ℚ) : z / 2 ^ (e + (half + 2 : ℕ)) = z / 2 ^ e / 2 ^ (half + 2) := by
      rw [zpow_add₀ (by norm_num), zpow_natCast, div_div]
    rw [roundToGrid, roundToGrid, scaled, scaled, mul_div_assoc, div_self unit.ne', mul_one,
      nearestEven_eq_of_neighbour parity low high,
      nearestEven_eq_of_neighbour parity (sub_one_lt _) (lt_add_one _)]

end IsRoundedToOdd

/-- `number` is `x`, or its mantissa is odd and has more than `bits` bits, and `x` lies strictly
between the numbers next to it. -/
def Scaled.IsOddRounding (bits : ℕ) (x : ℚ) (number : Scaled) : Prop :=
  x = number.toRat ∨ 2 ^ bits ≤ number.mantissa ∧ number.mantissa % 2 = 1 ∧
    ((number.mantissa : ℚ) - 1) * 2 ^ number.exponent < x ∧
    x < ((number.mantissa : ℚ) + 1) * 2 ^ number.exponent

theorem Scaled.IsOddRounding.isRoundedToOdd {bits : ℕ} {x : ℚ} {number : Scaled}
    (odd : number.IsOddRounding bits x) : IsRoundedToOdd bits x number.toRat := by
  rcases odd with exact | ⟨large, parity, low, high⟩
  · exact Or.inl exact
  · exact Or.inr ⟨number.mantissa, number.exponent, rfl, large, parity, low, high⟩

end DeclScan.Binary
