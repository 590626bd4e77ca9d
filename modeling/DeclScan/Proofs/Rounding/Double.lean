import DeclScan.Binary.Double
import DeclScan.Proofs.Rounding.Format

/-!
Rounding to double precision and, by way of it, to single precision.

## Main results

`Scaled.toDouble?_isNearest` and `Scaled.toFormat?_isNearest`: a number that is exact or rounded to
odd reaches the number of the format that is nearest to the exact one.

## Proof strategy

Once a number is rounded, every product on its way lies on the grid of the format or is too large, so
no product rounds again (`Format.scale?_isNearest`). For single precision the number that passes
through double precision is itself rounded to odd, unless it is so small that nothing is left of it
in single precision.
-/

namespace DeclScan.Binary

namespace Format

variable {format : Format}

theorem product?_isNearest (regular : format.Regular) (number : Scaled) (places : ℤ) :
    format.IsNearest (number.toRat * 2 ^ places) (format.product? number places) := by
  have value : number.toRat * 2 ^ places =
      Scaled.toRat ⟨number.mantissa, number.exponent + places⟩ := by
    rw [Scaled.toRat, Scaled.toRat, zpow_add₀ (by norm_num), mul_assoc]
  rw [value]
  exact round?_isNearest regular _

/-- `x` is a multiple of `2 ^ e` that has no more bits than the format. -/
def Fits (format : Format) (x : ℚ) (e : ℤ) : Prop :=
  format.least ≤ e ∧ ∃ m : ℕ, m ≤ 2 ^ format.precision ∧ x = m * 2 ^ e

theorem Fits.mul_two_zpow {x : ℚ} {e places : ℤ} (fits : format.Fits x e)
    (coarse : format.least ≤ e + places) : format.Fits (x * 2 ^ places) (e + places) := by
  obtain ⟨-, m, short, rfl⟩ := fits
  refine ⟨coarse, m, short, ?_⟩
  rw [mul_assoc, ← zpow_add₀ (by norm_num)]

theorem Fits.nearest_eq (regular : format.Regular) {x : ℚ} {e : ℤ} (fits : format.Fits x e) :
    format.nearest x = x := by
  obtain ⟨coarse, m, short, rfl⟩ := fits
  exact nearest_eq_self regular short coarse

theorem Fits.nonneg {x : ℚ} {e : ℤ} (fits : format.Fits x e) : 0 ≤ x := by
  obtain ⟨-, m, -, rfl⟩ := fits
  exact mul_nonneg (Nat.cast_nonneg m) (two_zpow_pos e).le

/-- One product and then the others, if the product is exact. -/
theorem bind_product?_isNearest (regular : format.Regular) {number : Scaled} {step places e : ℤ}
    {next : Scaled → Option Scaled} (fits : format.Fits (number.toRat * 2 ^ step) e)
    (too_large : format.bound ≤ number.toRat * 2 ^ step →
      format.bound ≤ format.nearest (number.toRat * 2 ^ places))
    (moves : ∀ moved : Scaled, moved.toRat = number.toRat * 2 ^ step → moved.toRat < format.bound →
      format.IsNearest (moved.toRat * 2 ^ (places - step)) (next moved)) :
    format.IsNearest (number.toRat * 2 ^ places) ((format.product? number step).bind next) := by
  have first := product?_isNearest regular number step
  cases product : format.product? number step with
  | none =>
    rw [product, IsNearest, fits.nearest_eq regular] at first
    exact too_large first
  | some moved =>
    obtain ⟨holds, value⟩ := product ▸ first
    rw [fits.nearest_eq regular] at value
    have split : moved.toRat * 2 ^ (places - step) = number.toRat * 2 ^ places := by
      rw [value, mul_assoc, ← zpow_add₀ (by norm_num), add_sub_cancel]
    rw [Option.bind_some, ← split]
    exact moves moved value holds.lt_bound

/-- Moving a number that stays on the grid of the format, product by product, rounds nothing. -/
theorem scale?_isNearest (regular : format.Regular) (number : Scaled) (places : ℤ) {e : ℤ}
    (fits : format.Fits number.toRat e) (coarse : format.least ≤ e + places)
    (small : number.toRat < format.bound) :
    format.IsNearest (number.toRat * 2 ^ places) (format.scale? number places) := by
  have order := fits.1
  -- along the recursion the number stays on the grid and below the bound
  fun_induction format.scale? number places generalizing e with
  | case1 number places far ih =>
    have fits' : format.Fits (number.toRat * 2 ^ stride) (e + stride) :=
      fits.mul_two_zpow (by simp only [stride]; omega)
    apply bind_product?_isNearest regular fits'
    · -- too large already, and the products that are left make it larger
      intro large
      rw [(fits.mul_two_zpow coarse).nearest_eq regular]
      refine large.trans (mul_le_mul_of_nonneg_left ?_ fits.nonneg)
      exact zpow_le_zpow_right₀ (by norm_num) (by omega)
    · intro moved value held
      exact ih moved (value ▸ fits') (by omega) held (fits'.1)
  | case2 number places near far ih =>
    have fits' : format.Fits (number.toRat * 2 ^ (-stride)) (e + -stride) :=
      fits.mul_two_zpow (by omega)
    apply bind_product?_isNearest regular fits'
    · -- a number of the format does not become too large when it is made smaller
      intro large
      have shrinks : number.toRat * 2 ^ (-stride) ≤ number.toRat :=
        mul_le_of_le_one_right fits.nonneg (zpow_le_one_of_nonpos₀ (by norm_num) (by decide))
      exact absurd small (large.trans shrinks).not_gt
    · intro moved value held
      rw [sub_neg_eq_add]
      exact ih moved (value ▸ fits') (by omega) held fits'.1
  | case3 number places near near' => exact product?_isNearest regular number places

end Format

namespace Scaled

/-! ### Double precision -/

theorem toRat_of_mantissa_zero {number : Scaled} (zero : number.mantissa = 0) :
    number.toRat = 0 := by
  rw [toRat, zero, Nat.cast_zero, zero_mul]

theorem roundTo_bitsAt (number : Scaled) :
    binary64.least ≤ (number.roundTo (binary64.bitsAt number.top)).exponent ∧
      (number.roundTo (binary64.bitsAt number.top)).mantissa ≤ 2 ^ binary64.precision ∧
      (number.roundTo (binary64.bitsAt number.top)).toRat = binary64.nearest number.toRat := by
  obtain ⟨above, grid⟩ := number.roundTo_eq (binary64.lastExponent number.top)
  rw [← Format.bitsAt] at above grid
  generalize number.roundTo (binary64.bitsAt number.top) = rounded at above grid ⊢
  refine ⟨(Format.least_le_lastExponent _).trans above, ?_⟩
  by_cases zero : number.mantissa = 0
  · rw [toRat_of_mantissa_zero zero, roundToGrid_zero] at grid
    have nothing : rounded.mantissa = 0 := by
      by_contra nonzero
      exact (toRat_pos nonzero).ne' grid
    rw [nothing, grid, toRat_of_mantissa_zero zero, Format.nearest_zero]
    exact ⟨Nat.zero_le _, rfl⟩
  · rw [← log_toRat zero] at above grid
    have aligned := toRat_shiftLeft _ above
    rw [grid] at aligned
    have short := Format.mantissa_le_of_nearest Format.binary64_regular aligned
    rw [Nat.shiftLeft_eq] at short
    exact ⟨(Nat.le_mul_of_pos_right _ (Nat.two_pow_pos _)).trans short, grid⟩

theorem toDouble?_isNearest (number : Scaled) :
    binary64.IsNearest number.toRat number.toDouble? := by
  obtain ⟨low, short, value⟩ := roundTo_bitsAt number
  rw [toDouble?]
  generalize number.roundTo (binary64.bitsAt number.top) = rounded at low short value ⊢
  have regular := Format.binary64_regular
  have least : binary64.least = -1074 := rfl
  have reach : reach = 4000 := rfl
  have integral : toRat ⟨rounded.mantissa, 0⟩ = rounded.mantissa := by simp [toRat]
  have small : toRat ⟨rounded.mantissa, 0⟩ < binary64.bound := by
    have power : (rounded.mantissa : ℚ) ≤ 2 ^ (53 : ℤ) := by exact_mod_cast short
    rw [integral]
    exact power.trans_lt (zpow_lt_zpow_right₀ (by norm_num) (by decide))
  by_cases zero : rounded.mantissa = 0
  · -- zero lies on every grid, however far it is moved
    have nothing : toRat ⟨rounded.mantissa, 0⟩ = 0 := toRat_of_mantissa_zero zero
    have fits : binary64.Fits (toRat ⟨rounded.mantissa, 0⟩) 4000 :=
      ⟨by omega, 0, Nat.zero_le _, by rw [nothing, Nat.cast_zero, zero_mul]⟩
    have far := Format.scale?_isNearest regular _
      (max (-Scaled.reach) (min rounded.exponent Scaled.reach)) fits (by omega) small
    rw [nothing, zero_mul] at far
    refine far.congr ?_
    rw [← value, toRat_of_mantissa_zero zero, Format.nearest_zero]
  · have fits : binary64.Fits (toRat ⟨rounded.mantissa, 0⟩) 0 :=
      ⟨by omega, rounded.mantissa, short, rfl⟩
    have exact : binary64.Fits rounded.toRat rounded.exponent := ⟨low, _, short, rfl⟩
    rcases le_or_gt rounded.exponent 4000 with near | far
    · have places : max (-Scaled.reach) (min rounded.exponent Scaled.reach) = rounded.exponent := by
        omega
      have moved := Format.scale?_isNearest regular _ rounded.exponent fits (by omega) small
      rw [places]
      rw [integral] at moved
      exact moved.congr ((exact.nearest_eq regular).trans value)
    · -- so far above one every number is too large
      have places : max (-Scaled.reach) (min rounded.exponent Scaled.reach) = 4000 := by omega
      have moved := Format.scale?_isNearest regular _ 4000 fits (by omega) small
      have one : (1 : ℚ) ≤ rounded.mantissa := by exact_mod_cast Nat.pos_of_ne_zero zero
      have large : binary64.bound ≤ rounded.mantissa * 2 ^ (4000 : ℤ) := by
        refine le_trans ?_ (le_mul_of_one_le_left (two_zpow_pos _).le one)
        exact zpow_le_zpow_right₀ (by norm_num) (by decide)
      rw [places]
      refine moved.of_large ?_ ?_
      · rw [(fits.mul_two_zpow (by omega)).nearest_eq regular, integral]
        exact large
      · rw [← value]
        exact large.trans (mul_le_mul_of_nonneg_left
          (zpow_le_zpow_right₀ (by norm_num) far.le) (Nat.cast_nonneg _))

/-! ### Single precision -/

theorem toRat_halve (m : ℕ) (e : ℤ) : toRat ⟨m, e + 1⟩ = (2 * m : ℚ) * 2 ^ e := by
  rw [toRat, zpow_add_one₀ (by norm_num)]
  ring

/-- A number rounded to odd stays so when its last bit is cut off. -/
theorem IsOddRounding.halve {bits : ℕ} {x : ℚ} {number : Scaled}
    (odd : number.IsOddRounding bits x) (long : 2 ^ (bits + 1) ≤ number.mantissa) :
    IsOddRounding bits x
      ⟨jam (number.mantissa / 2) (number.mantissa % 2 == 1), number.exponent + 1⟩ := by
  obtain ⟨m, e⟩ := number
  have unit := two_zpow_pos e
  dsimp only at long ⊢
  rw [pow_succ] at long
  rcases Nat.mod_two_eq_zero_or_one m with even | parity
  · -- nothing is lost
    rcases odd with exact | ⟨-, parity, -⟩
    · left
      have whole : (2 : ℚ) * (m / 2 : ℕ) = m := by exact_mod_cast (by omega : 2 * (m / 2) = m)
      rw [exact, jam, even, if_neg (by decide), toRat_halve, whole]
      rfl
    · exact absurd (parity.symm.trans even) (by decide)
  · have between : ((m : ℚ) - 1) * 2 ^ e < x ∧ x < ((m : ℚ) + 1) * 2 ^ e := by
      rcases odd with exact | ⟨-, -, low, high⟩
      · rw [exact]
        exact ⟨mul_lt_mul_of_pos_right (sub_one_lt _) unit, mul_lt_mul_of_pos_right (lt_add_one _) unit⟩
      · exact ⟨low, high⟩
    have jammed : jam (m / 2) (m % 2 == 1) = m / 2 / 2 * 2 + 1 := by
      rw [jam, parity]
      rfl
    -- the odd one of the two numbers next to the exact half
    have below : ((m / 2 / 2 * 2 + 1 : ℕ) : ℚ) * 2 ≤ m + 1 := by
      exact_mod_cast (by omega : (m / 2 / 2 * 2 + 1) * 2 ≤ m + 1)
    have above : (m : ℚ) ≤ (m / 2 / 2 * 2 + 1 : ℕ) * 2 + 1 := by
      exact_mod_cast (by omega : m ≤ (m / 2 / 2 * 2 + 1) * 2 + 1)
    rw [jammed]
    refine Or.inr ⟨by dsimp only; omega, by dsimp only; omega, ?_, ?_⟩
    · rw [zpow_add_one₀ (by norm_num), mul_comm _ (2 : ℚ), ← mul_assoc]
      refine lt_of_le_of_lt (mul_le_mul_of_nonneg_right ?_ unit.le) between.1
      linarith
    · rw [zpow_add_one₀ (by norm_num), mul_comm _ (2 : ℚ), ← mul_assoc]
      refine between.2.trans_le (mul_le_mul_of_nonneg_right ?_ unit.le)
      linarith

theorem narrow_isOddRounding {x : ℚ} {number : Scaled} (odd : number.IsOddRounding 52 x) :
    number.narrow.IsOddRounding 52 x ∧ number.narrow.mantissa < 2 ^ 53 := by
  fun_induction narrow number with
  | case1 number short => exact ⟨odd, short⟩
  | case2 number long ih => exact ih (odd.halve (not_lt.mp long))

theorem toSingle?_isNearest {x : ℚ} {number : Scaled} (nonneg : 0 ≤ x)
    (odd : number.IsOddRounding 52 x) :
    binary32.IsNearest x (number.narrow.toDouble?.bind binary32.round?) := by
  obtain ⟨odd, short⟩ := narrow_isOddRounding odd
  have double := toDouble?_isNearest number.narrow
  generalize number.narrow = narrowed at odd short double ⊢
  have single := Format.binary32_regular
  have regular := Format.binary64_regular
  have same : binary32.nearest x = binary32.nearest narrowed.toRat :=
    Format.nearest_eq_of_odd odd.isRoundedToOdd (by decide)
  rcases le_or_gt binary64.least narrowed.exponent with coarse | fine
  · -- double precision holds the narrowed number
    have fits : binary64.Fits narrowed.toRat narrowed.exponent := ⟨coarse, _, short.le, rfl⟩
    cases result : narrowed.toDouble? with
    | none =>
      rw [result, Format.IsNearest, fits.nearest_eq regular] at double
      rw [Option.bind_none, Format.IsNearest, same]
      have large := Format.le_nearest single double (by decide)
      exact le_trans (zpow_le_zpow_right₀ (by norm_num) (by decide)) large
    | some held =>
      obtain ⟨-, value⟩ := result ▸ double
      rw [fits.nearest_eq regular] at value
      rw [Option.bind_some]
      exact (Format.round?_isNearest single held).congr (by rw [value, same])
  · -- the number is too small to leave anything in single precision
    have least : binary64.least = -1074 := rfl
    have limit : ((narrowed.mantissa : ℚ) + 1) * 2 ^ narrowed.exponent ≤ 2 ^ (-1022 : ℤ) := by
      have mantissa : (narrowed.mantissa : ℚ) + 1 ≤ 2 ^ (53 : ℤ) := by exact_mod_cast short
      have unit : (2 : ℚ) ^ narrowed.exponent ≤ 2 ^ (-1075 : ℤ) :=
        zpow_le_zpow_right₀ (by norm_num) (by omega)
      calc ((narrowed.mantissa : ℚ) + 1) * 2 ^ narrowed.exponent
          ≤ 2 ^ (53 : ℤ) * 2 ^ (-1075 : ℤ) :=
            mul_le_mul mantissa unit (two_zpow_pos _).le (two_zpow_pos _).le
        _ = 2 ^ (-1022 : ℤ) := by rw [← zpow_add₀ (by norm_num)]; norm_num
    have narrow_le : narrowed.toRat ≤ 2 ^ (-1022 : ℤ) :=
      (mul_le_mul_of_nonneg_right (lt_add_one _).le (two_zpow_pos _).le).trans limit
    have x_le : x ≤ 2 ^ (-1022 : ℤ) := by
      rcases odd with exact | ⟨-, -, -, high⟩
      · exact exact.trans_le narrow_le
      · exact high.le.trans limit
    have tiny : (2 : ℚ) ^ (-1022 : ℤ) ≤ 2 ^ (binary32.least - 1) :=
      zpow_le_zpow_right₀ (by norm_num) (by decide)
    have nothing := Format.nearest_eq_zero single nonneg (x_le.trans tiny)
    have rounded := Format.nearest_le regular narrowed.toRat_nonneg narrow_le (by decide)
    cases result : narrowed.toDouble? with
    | none =>
      rw [result, Format.IsNearest] at double
      exact absurd (double.trans rounded)
        (zpow_lt_zpow_right₀ (by norm_num) (by decide)).not_ge
    | some held =>
      obtain ⟨-, value⟩ := result ▸ double
      rw [Option.bind_some]
      refine (Format.round?_isNearest single held).congr ?_
      rw [nothing, Format.nearest_eq_zero single held.toRat_nonneg]
      exact (value.trans_le rounded).trans tiny

/-- A number that is exact or rounded to odd at more than sixty bits reaches the nearest number in
either precision. -/
theorem toFormat?_isNearest {format : Format} (supported : format = binary64 ∨ format = binary32)
    {x : ℚ} {number : Scaled} (nonneg : 0 ≤ x) (odd : number.IsOddRounding 60 x) :
    format.IsNearest x (number.toFormat? format) := by
  rcases supported with rfl | rfl
  · rw [toFormat?, if_pos rfl]
    exact (toDouble?_isNearest number).congr
      (Format.nearest_eq_of_odd odd.isRoundedToOdd (by decide)).symm
  · rw [toFormat?, if_neg (by decide)]
    apply toSingle?_isNearest nonneg
    rcases odd with exact | ⟨large, rest⟩
    · exact Or.inl exact
    · exact Or.inr ⟨(Nat.pow_le_pow_right (by norm_num) (by norm_num)).trans large, rest⟩

end Scaled

end DeclScan.Binary
