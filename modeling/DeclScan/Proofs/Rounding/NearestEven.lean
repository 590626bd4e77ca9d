import DeclScan.Binary.Scaled
import Mathlib.Algebra.Order.Round
import Mathlib.Data.Rat.Floor
import Mathlib.Tactic.FieldSimp
import Mathlib.Tactic.Linarith
import Mathlib.Tactic.Positivity
import Mathlib.Tactic.Ring

/-!
Rounding a rational number to the nearest integer, ties to even. The result is pinned down by the
half-open neighbourhood of each integer (`nearestEven_eq_iff`); that rounding is monotone, and
constant between two neighbouring multiples of a half, follows from it.
-/

namespace DeclScan.Binary

/-- The integer nearest to `x`, the even one of two. -/
def nearestEven (x : ℚ) : ℤ :=
  if 2 * Int.fract x < 1 ∨ (2 * Int.fract x = 1 ∧ ⌊x⌋ % 2 = 0) then ⌊x⌋ else ⌊x⌋ + 1

/-- `k` is an integer nearest to `x`, and even if there are two. -/
def IsNearestEven (x : ℚ) (k : ℤ) : Prop :=
  (2 * k - 1 < 2 * x ∧ 2 * x < 2 * k + 1) ∨
    (k % 2 = 0 ∧ (2 * x = 2 * k - 1 ∨ 2 * x = 2 * k + 1))

theorem isNearestEven_nearestEven (x : ℚ) : IsNearestEven x (nearestEven x) := by
  have split : (⌊x⌋ : ℚ) + Int.fract x = x := Int.floor_add_fract x
  have low := Int.fract_nonneg x
  have high := Int.fract_lt_one x
  unfold nearestEven
  split
  next down =>
    rcases down with below | ⟨tie, even⟩
    · exact Or.inl ⟨by linarith, by linarith⟩
    · exact Or.inr ⟨even, Or.inr (by linarith)⟩
  next up =>
    rw [not_or, not_and, not_lt] at up
    rcases up.1.lt_or_eq with above | tie
    · exact Or.inl ⟨by push_cast; linarith, by push_cast; linarith⟩
    · have odd := up.2 tie.symm
      exact Or.inr ⟨by omega, Or.inl (by push_cast; linarith)⟩

theorem IsNearestEven.le_of_le {x y : ℚ} {k l : ℤ} (first : IsNearestEven x k)
    (second : IsNearestEven y l) (order : x ≤ y) : k ≤ l := by
  -- the neighbourhoods of two integers overlap in a tie at most
  by_contra less
  have apart : (l : ℚ) + 1 ≤ k := by exact_mod_cast (by omega : l + 1 ≤ k)
  rcases first with ⟨low, -⟩ | ⟨even, low⟩
  · rcases second with ⟨-, high⟩ | ⟨-, high | high⟩ <;> linarith
  · rcases second with ⟨-, high⟩ | ⟨even', high⟩
    · rcases low with low | low <;> linarith
    · -- both are even, so they are two apart
      have farther : (l : ℚ) + 2 ≤ k := by exact_mod_cast (by omega : l + 2 ≤ k)
      rcases low with low | low <;> rcases high with high | high <;> linarith

theorem nearestEven_eq_iff (x : ℚ) (k : ℤ) : nearestEven x = k ↔ IsNearestEven x k := by
  have near := isNearestEven_nearestEven x
  constructor
  · rintro rfl
    exact near
  · intro also
    exact le_antisymm (near.le_of_le also le_rfl) (also.le_of_le near le_rfl)

theorem nearestEven_mono {x y : ℚ} (order : x ≤ y) : nearestEven x ≤ nearestEven y :=
  (isNearestEven_nearestEven x).le_of_le (isNearestEven_nearestEven y) order

@[simp] theorem nearestEven_intCast (k : ℤ) : nearestEven (k : ℚ) = k :=
  (nearestEven_eq_iff _ _).mpr (Or.inl ⟨by linarith, by linarith⟩)

@[simp] theorem nearestEven_natCast (n : ℕ) : nearestEven (n : ℚ) = n := by
  exact_mod_cast nearestEven_intCast n

/-- Rounding does not tell numbers apart that lie strictly between the same two neighbouring
multiples of a half. -/
theorem nearestEven_eq_of_between {x : ℚ} (c : ℤ) (low : c < 2 * x) (high : 2 * x < c + 1) :
    nearestEven x = (c + 1) / 2 := by
  have below : ((2 * ((c + 1) / 2) - 1 : ℤ) : ℚ) ≤ c := by exact_mod_cast (by omega)
  have above : ((c + 1 : ℤ) : ℚ) ≤ (2 * ((c + 1) / 2) + 1 : ℤ) := by exact_mod_cast (by omega)
  push_cast at below above
  rw [nearestEven_eq_iff]
  exact Or.inl ⟨by linarith, by linarith⟩

theorem divNearestEven_eq (dividend divisor : ℕ) (positive : 0 < divisor) :
    (divNearestEven dividend divisor : ℤ) = nearestEven ((dividend : ℚ) / divisor) := by
  have positive' : (0 : ℚ) < divisor := by exact_mod_cast positive
  have split : (divisor : ℚ) * (dividend / divisor : ℕ) + (dividend % divisor : ℕ) = dividend := by
    exact_mod_cast Nat.div_add_mod dividend divisor
  have small : ((dividend % divisor : ℕ) : ℚ) < divisor := by
    exact_mod_cast Nat.mod_lt dividend positive
  have nonneg : (0 : ℚ) ≤ (dividend % divisor : ℕ) := by positivity
  symm
  -- cleared of the divisor, the neighbourhood is about quotient and remainder
  rw [nearestEven_eq_iff, IsNearestEven]
  simp only [← mul_div_assoc, lt_div_iff₀ positive', div_lt_iff₀ positive', div_eq_iff positive'.ne']
  unfold divNearestEven
  generalize dividend / divisor = quotient at *
  generalize dividend % divisor = remainder at *
  dsimp only
  split
  next down =>
    rcases down with below | ⟨tie, even⟩
    · have below : (2 : ℚ) * remainder < divisor := by exact_mod_cast below
      exact Or.inl ⟨by push_cast; linarith, by push_cast; linarith⟩
    · have tie : (2 : ℚ) * remainder = divisor := by exact_mod_cast tie
      exact Or.inr ⟨by omega, Or.inr (by push_cast; linarith)⟩
  next up =>
    rw [not_or, not_and, not_lt] at up
    rcases up.1.lt_or_eq with above | tie
    · have above : (divisor : ℚ) < 2 * remainder := by exact_mod_cast above
      exact Or.inl ⟨by push_cast; linarith, by push_cast; linarith⟩
    · have odd := up.2 tie.symm
      have tie : (divisor : ℚ) = 2 * remainder := by exact_mod_cast tie
      exact Or.inr ⟨by omega, Or.inl (by push_cast; linarith)⟩

theorem divNearestEven_le {dividend divisor bound : ℕ} (positive : 0 < divisor)
    (most : dividend ≤ bound * divisor) : divNearestEven dividend divisor ≤ bound := by
  have quotient : (dividend : ℚ) / divisor ≤ bound := by
    rw [div_le_iff₀ (by exact_mod_cast positive)]
    exact_mod_cast most
  have rounded := nearestEven_mono quotient
  rw [← divNearestEven_eq _ _ positive, nearestEven_natCast] at rounded
  exact_mod_cast rounded

/-- `x` rounded to the nearest multiple of `2 ^ last`, the even one of two. -/
def roundToGrid (last : ℤ) (x : ℚ) : ℚ := nearestEven (x / 2 ^ last) * 2 ^ last

theorem two_zpow_pos (k : ℤ) : (0 : ℚ) < 2 ^ k := zpow_pos (by norm_num) k

theorem roundToGrid_mono (last : ℤ) {x y : ℚ} (order : x ≤ y) :
    roundToGrid last x ≤ roundToGrid last y := by
  have unit := two_zpow_pos last
  have quotient : x / 2 ^ last ≤ y / 2 ^ last := div_le_div_of_nonneg_right order unit.le
  apply mul_le_mul_of_nonneg_right _ unit.le
  exact_mod_cast nearestEven_mono quotient

/-- Rounding to a grid keeps the numbers of every coarser grid. -/
theorem roundToGrid_of_le (n : ℕ) {last e : ℤ} (coarser : last ≤ e) :
    roundToGrid last (n * 2 ^ e) = n * 2 ^ e := by
  obtain ⟨d, rfl⟩ : ∃ d : ℕ, e = last + d := ⟨(e - last).toNat, by omega⟩
  have multiple : (n : ℚ) * 2 ^ (last + (d : ℤ)) / 2 ^ last = (n * 2 ^ d : ℕ) := by
    rw [zpow_add₀ (by norm_num), zpow_natCast, mul_left_comm,
      mul_div_cancel_left₀ _ (two_zpow_pos last).ne']
    push_cast
    rfl
  rw [roundToGrid, multiple, nearestEven_natCast, zpow_add₀ (by norm_num), zpow_natCast]
  push_cast
  ring

theorem roundToGrid_two_zpow {last k : ℤ} (coarser : last ≤ k) :
    roundToGrid last (2 ^ k) = 2 ^ k := by
  simpa using roundToGrid_of_le 1 coarser

@[simp] theorem roundToGrid_zero (last : ℤ) : roundToGrid last 0 = 0 := by
  simpa using roundToGrid_of_le 0 (le_refl last)

end DeclScan.Binary
