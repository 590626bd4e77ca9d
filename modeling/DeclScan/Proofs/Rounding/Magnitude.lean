import DeclScan.Proofs.Digits
import DeclScan.Proofs.Rounding.Odd

/-!
The two ways to a number rounded to odd: from hexadecimal digits of any number
(`Scaled.ofHexDigits_isOddRounding`) and from a ratio of natural numbers
(`Scaled.ofRatio_isOddRounding`). Both cut the exact number off and jam what is left over into the
lowest bit.
-/

namespace DeclScan.Binary.Scaled

/-- A number of steps that is cut off to `kept` units, and jammed if anything was lost, is rounded to
odd. -/
theorem jam_isOddRounding {bits kept lost unit : ℕ} {e : ℤ} {step : ℚ} {leftOver : Bool}
    (place : 2 ^ e = unit * step) (small : lost < unit) (left : leftOver = true ↔ lost ≠ 0)
    (full : lost ≠ 0 → 2 ^ bits ≤ kept) :
    IsOddRounding bits ((kept * unit + lost : ℕ) * step) ⟨jam kept leftOver, e⟩ := by
  have positive : (0 : ℚ) < unit := by exact_mod_cast (Nat.zero_le lost).trans_lt small
  have step_pos : 0 < step := pos_of_mul_pos_right (place ▸ two_zpow_pos e) positive.le
  by_cases exact : lost = 0
  · -- nothing is lost
    have jammed : jam kept leftOver = kept := if_neg fun lost => left.mp lost exact
    left
    rw [jammed, exact, add_zero, toRat, place]
    push_cast
    ring
  · -- the exact number lies between `kept` and the next, and one of the two is odd
    have jammed : jam kept leftOver = kept / 2 * 2 + 1 := if_pos (left.mpr exact)
    have large := full exact
    rw [jammed]
    refine Or.inr ⟨by dsimp only; omega, by dsimp only; omega, ?_, ?_⟩
    · have below : ((kept / 2 * 2 + 1 : ℕ) - 1 : ℚ) * unit < (kept * unit + lost : ℕ) := by
        push_cast
        rw [add_sub_cancel_right]
        have even := Nat.mul_le_mul_right unit (Nat.div_mul_le_self kept 2)
        exact_mod_cast (by omega : kept / 2 * 2 * unit < kept * unit + lost)
      rw [place, ← mul_assoc]
      exact mul_lt_mul_of_pos_right below step_pos
    · have above : ((kept * unit + lost : ℕ) : ℚ) < ((kept / 2 * 2 + 1 : ℕ) + 1) * unit := by
        have next : kept * unit + lost < (kept / 2 * 2 + 1 + 1) * unit := by
          calc kept * unit + lost < kept * unit + unit := Nat.add_lt_add_left small _
            _ = (kept + 1) * unit := (Nat.succ_mul kept unit).symm
            _ ≤ (kept / 2 * 2 + 1 + 1) * unit := Nat.mul_le_mul_right unit (by omega)
        exact_mod_cast next
      rw [place, ← mul_assoc]
      exact mul_lt_mul_of_pos_right above step_pos

/-! ### Hexadecimal digits -/

/-- Hexadecimal digits on either side of a point, rounded to odd where they do not fit. -/
theorem ofHexDigits_isOddRounding {integer fraction : List Char} (exponent : ℤ)
    (digits : ∀ c ∈ integer ++ fraction, Radix.hexadecimal.isDigit c = true) :
    (ofHexDigits integer fraction exponent).IsOddRounding 60
      (Digits.value 16 (integer ++ fraction) * 2 ^ (exponent - 4 * fraction.length)) := by
  have members := Digits.isDigit_dropWhile digits
  have start := Digits.head?_dropWhile_ne (integer ++ fraction)
  rw [← Digits.value_dropWhile, ofHexDigits]
  generalize (integer ++ fraction).dropWhile (· == '0') = word at members start ⊢
  -- a unit of the kept digits is one step of the dropped ones for each sixteenth
  have place : (2 : ℚ) ^ (exponent + 4 * (((word.drop keptDigits).length : ℤ) - fraction.length)) =
      (16 ^ (word.drop keptDigits).length : ℕ) * 2 ^ (exponent - 4 * fraction.length) := by
    have sum : exponent + 4 * (((word.drop keptDigits).length : ℤ) - fraction.length) =
        4 * ((word.drop keptDigits).length : ℤ) + (exponent - 4 * fraction.length) := by ring
    rw [sum, zpow_add₀ (by norm_num), zpow_mul, zpow_natCast]
    norm_num
  have dropped : ∀ c ∈ word.drop keptDigits, Radix.hexadecimal.isDigit c = true :=
    fun c member => members c (List.mem_of_mem_drop member)
  have small : Digits.value 16 (word.drop keptDigits) < 16 ^ (word.drop keptDigits).length :=
    Digits.value_lt 16 fun c member => (Digits.digitValue_spec (dropped c member)).1
  have some_lost : (word.drop keptDigits).any (· != '0') = true ↔
      Digits.value 16 (word.drop keptDigits) ≠ 0 := by
    rw [Ne, Digits.value_eq_zero_iff (by norm_num) dropped]
    simp
  rw [Digits.value_take_drop 16 keptDigits word]
  apply jam_isOddRounding place small some_lost
  intro lost
  have long : 15 < word.length := by
    by_contra short
    apply lost
    rw [List.drop_eq_nil_of_le (by rw [keptDigits]; omega), Digits.value_nil]
  calc 2 ^ 60 = 16 ^ 15 := by norm_num
    _ ≤ Digits.value 16 (word.take (15 + 1)) := Digits.le_value_take members start long

/-! ### Ratios -/

theorem two_pow_mul_le {numerator m n : ℕ} (denominator : ℕ) (nonzero : numerator ≠ 0)
    (room : 61 + denominator.log2 + n ≤ numerator.log2 + m) :
    2 ^ 60 * (denominator * 2 ^ n) ≤ numerator * 2 ^ m := by
  have most : denominator ≤ 2 ^ (denominator.log2 + 1) := Nat.lt_log2_self.le
  calc 2 ^ 60 * (denominator * 2 ^ n)
      ≤ 2 ^ 60 * (2 ^ (denominator.log2 + 1) * 2 ^ n) :=
        Nat.mul_le_mul_left _ (Nat.mul_le_mul_right _ most)
    _ = 2 ^ (61 + denominator.log2 + n) := by ring
    _ ≤ 2 ^ (numerator.log2 + m) := Nat.pow_le_pow_right (by norm_num) room
    _ = 2 ^ numerator.log2 * 2 ^ m := pow_add _ _ _
    _ ≤ numerator * 2 ^ m := Nat.mul_le_mul_right _ (two_pow_log2_le nonzero)

theorem quotient_isOddRounding {dividend divisor : ℕ} {e : ℤ} (positive : 0 < divisor)
    (fills : 2 ^ 60 * divisor ≤ dividend) :
    IsOddRounding 60 (dividend * (2 ^ e / divisor))
      ⟨jam (dividend / divisor) (dividend % divisor != 0), e⟩ := by
  have divisor_ne : (divisor : ℚ) ≠ 0 := by exact_mod_cast positive.ne'
  have place : (2 : ℚ) ^ e = divisor * (2 ^ e / divisor) := (mul_div_cancel₀ _ divisor_ne).symm
  have left : (dividend % divisor != 0) = true ↔ dividend % divisor ≠ 0 := bne_iff_ne
  have odd := jam_isOddRounding place (Nat.mod_lt dividend positive) left
    fun _ => (Nat.le_div_iff_mul_le positive).mpr fills
  rwa [Nat.div_add_mod'] at odd

/-- A quotient of natural numbers, rounded to odd where it does not end. -/
theorem ofRatio_isOddRounding (numerator : ℕ) {denominator : ℕ} (positive : 0 < denominator) :
    (ofRatio numerator denominator).IsOddRounding 60 ((numerator : ℚ) / denominator) := by
  by_cases zero : numerator = 0
  · left
    rw [zero, ofRatio, if_pos rfl, toRat]
    simp
  · rw [ofRatio, if_neg zero]
    dsimp only
    have fills := two_pow_mul_le denominator zero
      (m := (-((numerator.log2 : ℤ) - denominator.log2 - 63)).toNat)
      (n := ((numerator.log2 : ℤ) - denominator.log2 - 63).toNat) (by omega)
    generalize (numerator.log2 : ℤ) - denominator.log2 - 63 = e at fills ⊢
    rw [Nat.shiftLeft_eq, Nat.shiftLeft_eq]
    have divisor_pos : 0 < denominator * 2 ^ e.toNat := Nat.mul_pos positive (Nat.two_pow_pos _)
    have denominator_ne : (denominator : ℚ) ≠ 0 := by exact_mod_cast positive.ne'
    have divisor_ne : ((denominator * 2 ^ e.toNat : ℕ) : ℚ) ≠ 0 := by exact_mod_cast divisor_pos.ne'
    -- the shifts move numerator and denominator apart by the exponent
    have shifts : (2 : ℚ) ^ (-e).toNat * 2 ^ e = 2 ^ e.toNat := by
      rw [← zpow_natCast, ← zpow_natCast, ← zpow_add₀ (by norm_num)]
      congr 1
      omega
    have exact : (numerator : ℚ) / denominator =
        (numerator * 2 ^ (-e).toNat : ℕ) * (2 ^ e / (denominator * 2 ^ e.toNat : ℕ)) := by
      rw [div_eq_iff denominator_ne, mul_div_assoc', div_mul_eq_mul_div, eq_div_iff divisor_ne]
      push_cast
      rw [← shifts]
      ring
    rw [exact]
    exact quotient_isOddRounding divisor_pos fills

end DeclScan.Binary.Scaled
