import DeclScan.Proofs.Rounding.Format

/-!
When a number and at least its double round to the same number of a format: if both leave nothing, or
both give the least number (`Format.nearest_eq_nearest_iff`). With the numbers that are too large,
these are the cases in which the results have the same bit pattern (`Format.map_bits_eq_iff_merges`).
-/

namespace DeclScan.Binary

theorem roundToGrid_near (last : ℤ) (x : ℚ) :
    x - 2 ^ last / 2 ≤ roundToGrid last x ∧ roundToGrid last x ≤ x + 2 ^ last / 2 := by
  have unit := two_zpow_pos last
  -- a tie is half a step away, everything else less
  have near : 2 * (nearestEven (x / 2 ^ last) : ℚ) - 1 ≤ 2 * (x / 2 ^ last) ∧
      2 * (x / 2 ^ last) ≤ 2 * (nearestEven (x / 2 ^ last) : ℚ) + 1 := by
    rcases isNearestEven_nearestEven (x / 2 ^ last) with ⟨low, high⟩ | ⟨-, tie | tie⟩
    · exact ⟨low.le, high.le⟩
    · exact ⟨tie.ge, by linarith⟩
    · exact ⟨by linarith, tie.le⟩
  have scaled : x / 2 ^ last * 2 ^ last = x := div_mul_cancel₀ x unit.ne'
  have low := mul_le_mul_of_nonneg_right near.1 unit.le
  have high := mul_le_mul_of_nonneg_right near.2 unit.le
  rw [roundToGrid]
  constructor
  · linarith
  · linarith

namespace Format

variable {format : Format}

theorem nearest_eq_of_grid {x : ℚ} {k : ℕ} (grid : format.lastExponent (Int.log 2 x) = format.least)
    (near : IsNearestEven (x / 2 ^ format.least) k) : format.nearest x = k * 2 ^ format.least := by
  rw [nearest, grid, roundToGrid, (nearestEven_eq_iff _ _).mpr near]
  rfl

theorem two_zpow_least (format : Format) : (2 : ℚ) ^ format.least = 2 * 2 ^ (format.least - 1) := by
  rw [mul_comm, ← zpow_add_one₀ (by norm_num), sub_add_cancel]

theorem lastExponent_eq_least (precise : 3 ≤ format.precision) {x : ℚ} (positive : 0 < x)
    (small : x < 2 ^ (format.least + 2)) : format.lastExponent (Int.log 2 x) = format.least := by
  have log : Int.log 2 x < format.least + 2 :=
    (Int.lt_zpow_iff_log_lt (by norm_num) positive).mp (by exact_mod_cast small)
  rw [lastExponent_eq]
  omega

theorem nearest_eq_least (precise : 3 ≤ format.precision) {x : ℚ}
    (low : 2 ^ (format.least - 1) < x) (high : x < 3 * 2 ^ (format.least - 1)) :
    format.nearest x = 2 ^ format.least := by
  have unit := two_zpow_pos (format.least - 1)
  have double := two_zpow_least format
  -- so small a number is rounded to a multiple of the least one, and one is nearest
  have grid := lastExponent_eq_least precise (unit.trans low) (by
    rw [zpow_add₀ (by norm_num), double]
    linarith)
  have near : IsNearestEven (x / 2 ^ format.least) (1 : ℕ) := by
    left
    rw [double, ← mul_div_assoc, lt_div_iff₀ (by positivity), div_lt_iff₀ (by positivity)]
    push_cast
    constructor
    · linarith
    · linarith
  rw [nearest_eq_of_grid grid near, Nat.cast_one, one_mul]

/-- From one and a half times the least number on, a number is not rounded to the same number as its
half. -/
theorem nearest_lt_nearest (regular : format.Regular) (precise : 3 ≤ format.precision) {x y : ℚ}
    (positive : 0 < x) (double : 2 * x ≤ y) (above : 3 * 2 ^ (format.least - 1) ≤ y) :
    format.nearest x < format.nearest y := by
  have unit := two_zpow_pos (format.least - 1)
  have step := two_zpow_least format
  rcases le_or_gt y (2 * 2 ^ format.least) with small | large
  · -- up to twice the least number: that is where the greater one goes
    have grid := lastExponent_eq_least precise (by linarith : 0 < y) (by
      rw [zpow_add₀ (by norm_num)]
      linarith)
    have near : IsNearestEven (y / 2 ^ format.least) (2 : ℕ) := by
      have least_pos := two_zpow_pos format.least
      rw [IsNearestEven, ← mul_div_assoc, lt_div_iff₀ least_pos, div_lt_iff₀ least_pos,
        div_eq_iff least_pos.ne']
      rcases above.lt_or_eq with above | tie
      · exact Or.inl ⟨by push_cast; linarith, by push_cast; linarith⟩
      · exact Or.inr ⟨rfl, Or.inl (by push_cast; linarith)⟩
    rw [nearest_eq_of_grid grid near]
    have low : format.nearest x ≤ 2 ^ format.least :=
      nearest_le regular positive.le (by linarith) le_rfl
    push_cast
    linarith
  · -- beyond, the steps of the grid are too small to close the gap
    have wide : (2 : ℚ) ^ format.lastExponent (Int.log 2 y) < y / 2 := by
      rw [lastExponent_eq]
      rcases max_choice (Int.log 2 y - (format.precision - 1)) format.least with top | bottom
      · rw [top]
        have leading := two_zpow_log_le (by linarith : 0 < y)
        have quarter : (2 : ℚ) ^ (Int.log 2 y - ((format.precision : ℤ) - 1)) ≤
            2 ^ (Int.log 2 y - 2) := zpow_le_zpow_right₀ (by norm_num) (by omega)
        have four : (2 : ℚ) ^ Int.log 2 y = 2 ^ (Int.log 2 y - 2) * 2 ^ (2 : ℤ) := by
          rw [← zpow_add₀ (by norm_num), sub_add_cancel]
        linarith
      · rw [bottom]
        linarith
    have steps : (2 : ℚ) ^ format.lastExponent (Int.log 2 x) ≤
        2 ^ format.lastExponent (Int.log 2 y) := by
      have logs : Int.log 2 x ≤ Int.log 2 y := Int.log_mono_right positive (by linarith)
      apply zpow_le_zpow_right₀ (by norm_num)
      rw [lastExponent_eq, lastExponent_eq]
      omega
    have low := (roundToGrid_near (format.lastExponent (Int.log 2 x)) x).2
    have high := (roundToGrid_near (format.lastExponent (Int.log 2 y)) y).1
    rw [nearest, nearest]
    linarith

/-- A number and at least its double round to the same number only at the lower end of the format. -/
theorem nearest_eq_nearest_iff (regular : format.Regular) (precise : 3 ≤ format.precision) {x y : ℚ}
    (positive : 0 < x) (double : 2 * x ≤ y) :
    format.nearest x = format.nearest y ↔ y ≤ 2 ^ (format.least - 1) ∨
      (2 ^ (format.least - 1) < x ∧ y < 3 * 2 ^ (format.least - 1)) := by
  have unit := two_zpow_pos format.least
  constructor
  · intro same
    -- unless both leave nothing, the greater one must not reach twice the least number
    rcases le_or_gt y (2 ^ (format.least - 1)) with tiny | some_left
    · exact Or.inl tiny
    · have low : y < 3 * 2 ^ (format.least - 1) := by
        by_contra above
        exact (nearest_lt_nearest regular precise positive double (not_lt.mp above)).ne same
      refine Or.inr ⟨?_, low⟩
      by_contra tiny
      rw [nearest_eq_zero regular positive.le (not_lt.mp tiny),
        nearest_eq_least precise some_left low] at same
      exact unit.ne same
  · rintro (tiny | ⟨low, high⟩)
    · rw [nearest_eq_zero regular positive.le (by linarith),
        nearest_eq_zero regular (by linarith) tiny]
    · rw [nearest_eq_least precise low (by linarith), nearest_eq_least precise (by linarith) high]

/-! ### Equal bit patterns -/

theorem bits_eq_of_exponent_lt (regular : format.Regular) (negative : Bool) {number other : Scaled}
    (holds : format.Holds number) (also : format.Holds other) (equal : number.toRat = other.toRat)
    (lower : number.exponent < other.exponent) :
    format.bits ⟨negative, number⟩ = format.bits ⟨negative, other⟩ := by
  have some_bit := regular.precision_pos
  have least := holds.least_le
  obtain ⟨n, place⟩ : ∃ n : ℕ, other.exponent = number.exponent + (n + 1 : ℕ) :=
    ⟨(other.exponent - number.exponent - 1).toNat, by omega⟩
  have mantissas : number.mantissa = other.mantissa * 2 ^ (n + 1) := by
    rw [Scaled.toRat, Scaled.toRat, place, zpow_add₀ (by norm_num), zpow_natCast,
      mul_comm (2 ^ number.exponent), ← mul_assoc] at equal
    exact_mod_cast mul_right_cancel₀ (two_zpow_pos number.exponent).ne' equal
  -- the higher one has a leading one, so the lower one is the next power of two
  have leading : 2 ^ (format.precision - 1) ≤ other.mantissa := by
    by_contra small
    have lowest := also.normal (not_le.mp small)
    omega
  have carried := holds.mantissa_le
  have double : 2 ^ format.precision = 2 * 2 ^ (format.precision - 1) := by
    rw [← pow_succ', Nat.sub_add_cancel some_bit]
  have positive := Nat.two_pow_pos (format.precision - 1)
  have one : n = 0 := by
    -- two places apart the lower mantissa would not fit
    by_contra more
    have power : 2 ^ 2 ≤ 2 ^ (n + 1) := Nat.pow_le_pow_right (by norm_num) (by omega)
    have product := Nat.mul_le_mul leading power
    omega
  subst one
  have steps : (other.exponent - format.lastExponent format.minExponent).toNat =
      (number.exponent - format.lastExponent format.minExponent).toNat + 1 := by
    rw [← Format.least]
    omega
  -- one step more of the exponent field stands for the half of the mantissa
  rw [bits, bits]
  dsimp only
  rw [steps, Nat.shiftLeft_eq _ (format.precision - 1), Nat.shiftLeft_eq _ (format.precision - 1),
    add_mul]
  omega

theorem bits_eq_of_toRat_eq (regular : format.Regular) (negative : Bool) {number other : Scaled}
    (holds : format.Holds number) (also : format.Holds other) (equal : number.toRat = other.toRat) :
    format.bits ⟨negative, number⟩ = format.bits ⟨negative, other⟩ := by
  rcases lt_trichotomy number.exponent other.exponent with lower | same | higher
  · exact bits_eq_of_exponent_lt regular negative holds also equal lower
  · have mantissas : number.mantissa = other.mantissa := by
      rw [Scaled.toRat, Scaled.toRat, same] at equal
      exact_mod_cast mul_right_cancel₀ (two_zpow_pos other.exponent).ne' equal
    rw [bits, bits]
    dsimp only
    rw [same, mantissas]
  · exact (bits_eq_of_exponent_lt regular negative also holds equal.symm higher).symm

/-- Two results of rounding have the same bit pattern if the exact numbers are both too large or
round to the same number. -/
theorem map_bits_eq_iff (regular : format.Regular) (negative : Bool) {x y : ℚ}
    {result other : Option Scaled} (near : format.IsNearest x result)
    (also : format.IsNearest y other) :
    (result.map fun number => format.bits ⟨negative, number⟩) =
        (other.map fun number => format.bits ⟨negative, number⟩) ↔
      (format.bound ≤ format.nearest x ∧ format.bound ≤ format.nearest y) ∨
        format.nearest x = format.nearest y := by
  cases result with
  | none =>
    cases other with
    | none => simpa using Or.inl ⟨near, also⟩
    | some number =>
      have small := also.2 ▸ also.1.lt_bound
      simp only [Option.map_none, Option.map_some, reduceCtorEq, false_iff]
      rintro (⟨-, large⟩ | same)
      · exact small.not_ge large
      · exact small.not_ge (same ▸ near)
  | some number =>
    have small := near.2 ▸ near.1.lt_bound
    cases other with
    | none =>
      simp only [Option.map_none, Option.map_some, reduceCtorEq, false_iff]
      rintro (⟨large, -⟩ | same)
      · exact small.not_ge large
      · exact small.not_ge (same ▸ also)
    | some number' =>
      rw [Option.map_some, Option.map_some, Option.some.injEq]
      constructor
      · intro equal
        right
        -- the pattern determines the number
        have decoded := decode_bits regular negative near.1
        rw [equal, decode_bits regular negative also.1, Option.some.injEq, Prod.mk.injEq] at decoded
        rw [← near.2, ← also.2, decoded.2]
      · rintro (⟨large, -⟩ | same)
        · exact absurd large small.not_ge
        · exact bits_eq_of_toRat_eq regular negative near.1 also.1 (near.2.trans (same.trans also.2.symm))

/-- Results for `low` and a much greater `high` are the same: both are too large, both leave nothing,
or both give the least number. -/
def Merges (format : Format) (low high : ℚ) : Prop :=
  format.bound ≤ format.nearest low ∨ high ≤ 2 ^ (format.least - 1) ∨
    (2 ^ (format.least - 1) < low ∧ high < 3 * 2 ^ (format.least - 1))

theorem map_bits_eq_iff_merges (regular : format.Regular) (precise : 3 ≤ format.precision)
    (negative : Bool) {low high : ℚ} (positive : 0 < low) (double : 2 * low ≤ high)
    {result other : Option Scaled} (near : format.IsNearest low result)
    (also : format.IsNearest high other) :
    (result.map fun number => format.bits ⟨negative, number⟩) =
        (other.map fun number => format.bits ⟨negative, number⟩) ↔
      format.Merges low high := by
  have larger := nearest_mono regular positive (by linarith : low ≤ high)
  rw [map_bits_eq_iff regular negative near also,
    nearest_eq_nearest_iff regular precise positive double, Merges]
  constructor
  · rintro (⟨large, -⟩ | same)
    · exact Or.inl large
    · exact Or.inr same
  · rintro (large | same)
    · exact Or.inl ⟨large, large.trans larger⟩
    · exact Or.inr same

end Format

end DeclScan.Binary
