import DeclScan.Binary.OfNumeral
import DeclScan.Proofs.Numeral
import DeclScan.Proofs.Rounding.Double
import DeclScan.Proofs.Rounding.Magnitude

/-!
Numerals rounded to a floating-point format.

## Main results

`Numeral.hexMagnitude_isNearest` and `Numeral.decimalMagnitude_isNearest`: a numeral, whatever its
length, gives the number of the format nearest to the exact one. For a decimal numeral this is the
number as written, even where its exponent is cut.

## Proof strategy

A decimal numeral is `0.significant · 10 ^ place`. Where its place is cut it is too large for the
format or leaves nothing, and so does the number at the cut. The limit for exponents lies so far out
that it moves no place that is not cut anyway.
-/

namespace DeclScan.Numeral

open Binary

/-- The number that a hexadecimal numeral with this exponent denotes, without its sign. -/
def hexExact (numeral : Numeral) (exponent : ℤ) : ℚ :=
  Digits.value 16 (numeral.integer ++ numeral.fraction) *
    2 ^ (exponent - 4 * numeral.fraction.length)

/-- The number that a decimal numeral denotes, without its sign. -/
def decimalExact (numeral : Numeral) : ℚ :=
  Digits.value 10 (numeral.integer ++ numeral.fraction) *
    10 ^ (numeral.exponent - numeral.fraction.length)

theorem hexExact_nonneg (numeral : Numeral) (exponent : ℤ) : 0 ≤ numeral.hexExact exponent :=
  mul_nonneg (Nat.cast_nonneg _) (two_zpow_pos _).le

theorem hexMagnitude_isNearest {format : Format} (supported : format = binary64 ∨ format = binary32)
    {text : List Char} {numeral : Numeral} (spelled : Spelled .hexadecimal text numeral) :
    format.IsNearest (numeral.hexExact numeral.exponent) (numeral.hexMagnitude.toFormat? format) :=
  Scaled.toFormat?_isNearest supported (numeral.hexExact_nonneg numeral.exponent)
    (Scaled.ofHexDigits_isOddRounding numeral.exponent spelled.digits)

/-! ### The significant digits of a decimal numeral -/

theorem exists_zeros (numeral : Numeral) :
    ∃ front back : List Char, numeral.integer ++ numeral.fraction =
        front ++ numeral.significant ++ back ∧ front.length = numeral.leadingZeros ∧
      (∀ c ∈ front, c = '0') ∧ ∀ c ∈ back, c = '0' := by
  have zeros {word : List Char} : ∀ c ∈ word.takeWhile (· == '0'), c = '0' :=
    fun c member => by simpa using List.mem_takeWhile_imp member
  -- the zeros in front come off the whole word, those behind off what is left
  refine ⟨(numeral.integer ++ numeral.fraction).takeWhile (· == '0'),
    (((numeral.integer ++ numeral.fraction).dropWhile (· == '0')).reverse.takeWhile
      (· == '0')).reverse, ?_, rfl, zeros, ?_⟩
  · rw [significant, List.append_assoc, Digits.significant_append_zeros,
      List.takeWhile_append_dropWhile]
  · intro c member
    exact zeros c (List.mem_reverse.mp member)

theorem value_eq_significant (numeral : Numeral) :
    ∃ back : ℕ, Digits.value 10 (numeral.integer ++ numeral.fraction) =
        Digits.value 10 numeral.significant * 10 ^ back ∧
      numeral.integer.length + numeral.fraction.length =
        numeral.leadingZeros + numeral.significant.length + back := by
  obtain ⟨front, back, split, length, front_zeros, back_zeros⟩ := exists_zeros numeral
  refine ⟨back.length, ?_, ?_⟩
  · rw [split, Digits.value_append, Digits.value_append, Digits.value_of_zeros 10 front_zeros,
      Digits.value_of_zeros 10 back_zeros, zero_mul, zero_add, add_zero]
  · rw [← List.length_append, split, List.length_append, List.length_append, length]

/-- A decimal numeral is its significant digits behind a point, at its place. -/
theorem decimalExact_eq (numeral : Numeral) :
    numeral.decimalExact = Digits.value 10 numeral.significant *
      10 ^ (numeral.place - numeral.significant.length) := by
  obtain ⟨back, value, length⟩ := value_eq_significant numeral
  have scale : numeral.place - numeral.significant.length =
      back + (numeral.exponent - numeral.fraction.length) := by
    rw [place]
    omega
  rw [decimalExact, value, scale, zpow_add₀ (by norm_num), zpow_natCast]
  push_cast
  ring

/-- The significant digits of a decimal numeral behind a point, moved to `place`. -/
def atPlace (numeral : Numeral) (place : ℤ) : ℚ :=
  Digits.value 10 numeral.significant * 10 ^ (place - numeral.significant.length)

theorem ten_zpow_pos (k : ℤ) : (0 : ℚ) < 10 ^ k := zpow_pos (by norm_num) k

theorem atPlace_nonneg (numeral : Numeral) (place : ℤ) : 0 ≤ numeral.atPlace place :=
  mul_nonneg (Nat.cast_nonneg _) (ten_zpow_pos _).le

theorem isDigit_significant {text : List Char} {numeral : Numeral}
    (spelled : Spelled .decimal text numeral) :
    ∀ c ∈ numeral.significant, Radix.decimal.isDigit c = true := by
  intro c member
  exact spelled.digits c (Digits.mem_of_mem_significant member)

theorem atPlace_le {text : List Char} {numeral : Numeral} (spelled : Spelled .decimal text numeral)
    (place : ℤ) : numeral.atPlace place ≤ 10 ^ place := by
  have small : Digits.value 10 numeral.significant < 10 ^ numeral.significant.length :=
    Digits.value_lt 10 fun c member =>
      (Digits.digitValue_spec (isDigit_significant spelled c member)).1
  calc numeral.atPlace place
      ≤ 10 ^ (numeral.significant.length : ℤ) * 10 ^ (place - numeral.significant.length) := by
        refine mul_le_mul_of_nonneg_right ?_ (ten_zpow_pos _).le
        exact_mod_cast small.le
    _ = 10 ^ place := by
        rw [← zpow_add₀ (by norm_num), add_sub_cancel]

theorem head?_significant_ne (numeral : Numeral) : numeral.significant.head? ≠ some '0' :=
  Digits.head?_significant_ne _

theorem le_atPlace {text : List Char} {numeral : Numeral} (spelled : Spelled .decimal text numeral)
    (nonzero : numeral.significant ≠ []) (place : ℤ) : 10 ^ (place - 1) ≤ numeral.atPlace place := by
  have digits := isDigit_significant spelled
  have start := head?_significant_ne numeral
  rw [atPlace]
  generalize numeral.significant = word at nonzero digits start ⊢
  obtain ⟨c, rest, rfl⟩ := List.exists_cons_of_ne_nil nonzero
  -- the first significant digit is not zero, and the others only add to it
  have leading : Digits.digitValue c ≠ 0 := by
    intro zero
    apply start
    rw [(Digits.digitValue_spec (digits c List.mem_cons_self)).2 zero]
    rfl
  calc (10 : ℚ) ^ (place - 1)
      = 10 ^ (rest.length : ℤ) * 10 ^ (place - (c :: rest).length) := by
        rw [← zpow_add₀ (by norm_num), List.length_cons]
        congr 1
        push_cast
        ring
    _ ≤ Digits.value 10 (c :: rest) * 10 ^ (place - (c :: rest).length) := by
        refine mul_le_mul_of_nonneg_right ?_ (ten_zpow_pos _).le
        exact_mod_cast Digits.le_value_cons 10 leading rest

/-! ### Rounding decimal numerals -/

theorem decimalMagnitude_isOddRounding (format : Format) (numeral : Numeral) :
    (numeral.decimalMagnitude format).IsOddRounding 60
      (numeral.atPlace (format.cutPlace numeral.place)) := by
  rw [atPlace, decimalMagnitude]
  generalize format.cutPlace numeral.place - numeral.significant.length = scale
  -- of the two powers one is one
  have powers : (10 : ℚ) ^ scale = 10 ^ scale.toNat / 10 ^ (-scale).toNat := by
    rw [← zpow_natCast, ← zpow_natCast, ← zpow_sub₀ (by norm_num)]
    congr 1
    omega
  have odd := Scaled.ofRatio_isOddRounding
    (Digits.evaluate 10 numeral.significant * Nat.pow 10 scale.toNat)
    (Nat.pow_pos (by norm_num) : 0 < Nat.pow 10 (-scale).toNat)
  rw [Digits.evaluate_eq_value] at odd ⊢
  rw [powers, ← mul_div_assoc]
  simpa only [Nat.pow_eq, Nat.cast_mul, Nat.cast_pow, Nat.cast_ofNat] using odd

/-- From the upper cut on every number is too large. -/
theorem bound_le_nearest_atPlace {format : Format} (regular : format.Regular) {text : List Char}
    {numeral : Numeral} (spelled : Spelled .decimal text numeral)
    (nonzero : numeral.significant ≠ []) {place : ℤ} (high : format.maxExponent + 2 ≤ place) :
    format.bound ≤ format.nearest (numeral.atPlace place) := by
  have some_bit := regular.precision_pos
  have some_normal := regular.maxExponent_pos
  have order := regular.minExponent_eq
  apply Format.le_nearest regular
  · calc (2 : ℚ) ^ (format.maxExponent + 1)
        ≤ 10 ^ (format.maxExponent + 1) :=
          zpow_le_zpow_left₀ (by omega) (by norm_num) (by norm_num)
      _ ≤ 10 ^ (place - 1) := zpow_le_zpow_right₀ (by norm_num) (by omega)
      _ ≤ numeral.atPlace place := le_atPlace spelled nonzero place
  · rw [Format.least_eq]
    omega

theorem ten_zpow_neg_le (n : ℕ) : (10 : ℚ) ^ (-(n : ℤ)) ≤ 2 ^ (-(n : ℤ)) := by
  rw [zpow_neg, zpow_neg, zpow_natCast, zpow_natCast]
  exact inv_anti₀ (by positivity) (pow_le_pow_left₀ (by norm_num) (by norm_num) n)

/-- Up to the lower cut every number leaves nothing. -/
theorem nearest_atPlace_eq_zero {format : Format} (regular : format.Regular) {text : List Char}
    {numeral : Numeral} (spelled : Spelled .decimal text numeral) {place : ℤ}
    (low : place ≤ format.minExponent - format.precision) :
    format.nearest (numeral.atPlace place) = 0 := by
  have some_bit := regular.precision_pos
  have some_normal := regular.maxExponent_pos
  have order := regular.minExponent_eq
  have border : format.least - 1 = format.minExponent - format.precision := by
    rw [Format.least_eq]
    ring
  apply Format.nearest_eq_zero regular (atPlace_nonneg numeral place)
  calc numeral.atPlace place ≤ 10 ^ place := atPlace_le spelled place
    _ ≤ 10 ^ (format.least - 1) := zpow_le_zpow_right₀ (by norm_num) (by omega)
    _ ≤ 2 ^ (format.least - 1) := by
      obtain ⟨n, equal⟩ : ∃ n : ℕ, format.least - 1 = -(n : ℤ) :=
        ⟨(-(format.least - 1)).toNat, by omega⟩
      rw [equal]
      exact ten_zpow_neg_le n

/-- A decimal numeral of any length gives the nearest number of the format. -/
theorem decimalMagnitude_isNearest {format : Format} (regular : format.Regular)
    (spare : format.precision + 1 ≤ 60) {text : List Char} {numeral : Numeral}
    (spelled : Spelled .decimal text numeral) :
    format.IsNearest numeral.decimalExact (format.round? (numeral.decimalMagnitude format)) := by
  have odd := (decimalMagnitude_isOddRounding format numeral).isRoundedToOdd
  have near := (Format.round?_isNearest regular (numeral.decimalMagnitude format)).congr
    (Format.nearest_eq_of_odd odd spare).symm
  have exact : numeral.decimalExact = numeral.atPlace numeral.place := decimalExact_eq numeral
  rw [exact]
  by_cases zero : numeral.significant = []
  · -- zero stays zero at every place
    refine near.congr ?_
    simp [atPlace, zero]
  · rcases lt_or_ge (format.maxExponent + 2) numeral.place with high | inside
    · -- too large at its own place and at the cut
      refine near.of_large ?_ (bound_le_nearest_atPlace regular spelled zero high.le)
      apply bound_le_nearest_atPlace regular spelled zero
      rw [Format.cutPlace]
      omega
    · rcases lt_or_ge numeral.place (format.minExponent - format.precision) with low | inside'
      · -- nothing left at its own place and at the cut
        refine near.congr ?_
        rw [nearest_atPlace_eq_zero regular spelled low.le]
        apply nearest_atPlace_eq_zero regular spelled
        have some_bit := regular.precision_pos
        have some_normal := regular.maxExponent_pos
        have order := regular.minExponent_eq
        rw [Format.cutPlace]
        omega
      · have whole : format.cutPlace numeral.place = numeral.place := by
          rw [Format.cutPlace]
          omega
        rwa [whole] at near

/-- The limit for exponents leaves every place on the side of the cut where it was. -/
theorem decimalMagnitude_cutExponent {format : Format}
    (supported : format = binary64 ∨ format = binary32) (numeral : Numeral) {limit : ℕ}
    (room : exponentLimit + (numeral.integer.length + numeral.fraction.length) ≤ limit) :
    decimalMagnitude format { numeral with exponent := cutExponent limit numeral.exponent } =
      numeral.decimalMagnitude format := by
  have zeros : numeral.leadingZeros ≤ numeral.integer.length + numeral.fraction.length := by
    obtain ⟨back, -, length⟩ := value_eq_significant numeral
    omega
  have cut : format.cutPlace (place { numeral with
      exponent := cutExponent limit numeral.exponent }) = format.cutPlace numeral.place := by
    -- the digits move the place by no more than the limit has grown with them
    have borders : -exponentLimit ≤ format.minExponent - format.precision ∧
        format.maxExponent + 2 ≤ exponentLimit := by
      rcases supported with rfl | rfl <;> decide
    have same : leadingZeros { numeral with exponent := cutExponent limit numeral.exponent } =
        numeral.leadingZeros := rfl
    rw [Format.cutPlace, Format.cutPlace, place, place, same]
    dsimp only
    unfold cutExponent
    omega
  rw [decimalMagnitude, cut]
  rfl

end DeclScan.Numeral
