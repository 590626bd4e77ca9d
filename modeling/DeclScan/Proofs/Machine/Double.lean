import DeclScan.Proofs.Machine.Numeral
import DeclScan.Proofs.Rounding.Numeral

/-!
Rounding in words of 64 bits.

`toDouble` rounds a mantissa of 64 bits by one shift and moves it to its place by products with powers
of two; exponents saturate. It has no fault and gives what `Scaled.toDouble?` gives
(`toDouble_eq`): a number that would be shifted by more than 64 bits is rounded to zero before, and
what saturates is so far out that it makes no difference (`toDouble?_congr`).
-/

namespace DeclScan

namespace Machine

open Binary

/-! ### Shifts -/

/-- A mantissa without its last `shift` bits, rounded to nearest, ties to even. -/
def shiftNearestEven (mantissa shift : ℕ) : Checked ℕ :=
  if 1 ≤ shift ∧ shift ≤ 64 then
    let kept := mantissa >>> shift
    let rest := mantissa &&& ((1 <<< shift) - 1)
    let half := 1 <<< (shift - 1)
    word (if half < rest ∨ (rest = half ∧ kept % 2 = 1) then kept + 1 else kept)
  else .error .shift

theorem shiftNearestEven_eq {mantissa shift : ℕ} (fits : mantissa < 2 ^ 64) (some_bit : 1 ≤ shift)
    (most : shift ≤ 64) :
    shiftNearestEven mantissa shift = .ok (divNearestEven mantissa (1 <<< shift)) := by
  obtain ⟨n, rfl⟩ : ∃ n, shift = n + 1 := ⟨shift - 1, by omega⟩
  have double : 2 ^ (n + 1) = 2 * 2 ^ n := by ring
  have positive : 0 < 2 ^ n := Nat.two_pow_pos n
  have kept : mantissa / (2 * 2 ^ n) ≤ mantissa / 2 := Nat.div_le_div_left (by omega) (by norm_num)
  rw [shiftNearestEven, if_pos ⟨some_bit, most⟩, divNearestEven, Nat.shiftRight_eq_div_pow,
    Nat.one_shiftLeft, Nat.and_two_pow_sub_one_eq_mod, Nat.add_sub_cancel, Nat.one_shiftLeft, double]
  generalize mantissa / (2 * 2 ^ n) = quotient at kept ⊢
  generalize mantissa % (2 * 2 ^ n) = rest
  dsimp only
  rw [word_of_lt (by split <;> omega)]
  congr 1
  split <;> split <;> omega

/-! ### Powers of two -/

/-- The product of a double and `2 ^ places`; a double that is none is too large. -/
def product (double : Option Scaled) (places : ℤ) : Checked (Option Scaled) :=
  if binary64.minExponent ≤ places ∧ places ≤ binary64.maxExponent then
    .ok (double.bind fun number => binary64.product? number places)
  else .error .power

/-- A double times `2 ^ places`, by products of at most `Format.stride` places. -/
def scale (double : Option Scaled) (places : ℤ) : Checked (Option Scaled) := do
  if Format.stride < places then
    let moved ← product double Format.stride
    scale moved (places - Format.stride)
  else if places < -Format.stride then
    let moved ← product double (-Format.stride)
    scale moved (places + Format.stride)
  else product double places
termination_by places.natAbs
decreasing_by all_goals simp only [Format.stride] at *; omega

theorem product_eq (double : Option Scaled) {places : ℤ} (low : -Format.stride ≤ places)
    (high : places ≤ Format.stride) :
    product double places = .ok (double.bind fun number => binary64.product? number places) := by
  have bounds : binary64.minExponent = -1022 ∧ binary64.maxExponent = 1023 ∧
      Format.stride = 1000 := ⟨rfl, rfl, rfl⟩
  exact if_pos (by omega)

theorem scale_eq (double : Option Scaled) (places : ℤ) :
    scale double places = .ok (double.bind fun number => binary64.scale? number places) := by
  have stride : Format.stride = 1000 := rfl
  fun_induction scale double places with
  | case1 double places far ih =>
    rw [product_eq double (by omega) le_rfl, ok_bind, ih]
    cases double with
    | none => rfl
    | some number => rw [Option.bind_some, Option.bind_some, Format.scale?, if_pos far]
  | case2 double places near far ih =>
    rw [product_eq double le_rfl (by omega), ok_bind, ih]
    cases double with
    | none => rfl
    | some number =>
      rw [Option.bind_some, Option.bind_some, Format.scale?, if_neg near, if_pos far]
  | case3 double places near near' =>
    rw [product_eq double (by omega) (by omega)]
    cases double with
    | none => rfl
    | some number =>
      rw [Option.bind_some, Option.bind_some, Format.scale?, if_neg near, if_neg near']

theorem scale?_of_mantissa_zero {number : Scaled} (zero : number.mantissa = 0) (places : ℤ) :
    binary64.scale? number places = some ⟨0, binary64.least⟩ := by
  have product {number : Scaled} (zero : number.mantissa = 0) (places : ℤ) :
      binary64.product? number places = some ⟨0, binary64.least⟩ := by
    rw [Format.product?, Format.round?, if_pos zero]
    rfl
  fun_induction binary64.scale? number places with
  | case1 number places far ih =>
    rw [product zero, Option.bind_some]
    exact ih _ rfl
  | case2 number places near far ih =>
    rw [product zero, Option.bind_some]
    exact ih _ rfl
  | case3 number places near near' => exact product zero places

/-! ### Rounding -/

/-- A number rounded to at most `precision` bits. -/
def roundTo (number : Scaled) (precision : ℤ) : Checked Scaled := do
  let excess := saturate (bitLength number.mantissa - precision)
  if excess ≤ 0 then return number
  if 64 < excess then return ⟨0, 0⟩
  let mantissa ← shiftNearestEven number.mantissa excess.toNat
  return ⟨mantissa, saturate (number.exponent + excess)⟩

/-- The number of bits that a double has at the magnitude of `number`. -/
def precisionOf (number : Scaled) : ℤ :=
  let top := saturate (number.exponent + (bitLength number.mantissa - 1))
  if binary64.minExponent ≤ top then binary64.precision
  else saturate (binary64.precision - saturate (binary64.minExponent - top))

/-- The double nearest to a number. -/
def toDouble (number : Scaled) : Checked (Option Scaled) := do
  if number.mantissa = 0 then return some ⟨0, binary64.least⟩
  let rounded ← roundTo number (precisionOf number)
  scale (some ⟨rounded.mantissa, 0⟩)
    (max (-Scaled.reach) (min rounded.exponent Scaled.reach))

/-- How many bits a number has more than a double at its magnitude. -/
def excess (number : Scaled) : ℤ := max number.top (-1022) - 52 - number.exponent

theorem toDouble?_eq (number : Scaled) :
    number.toDouble? =
      if excess number ≤ 0 then
        binary64.scale? ⟨number.mantissa, 0⟩
          (max (-Scaled.reach) (min number.exponent Scaled.reach))
      else
        binary64.scale? ⟨divNearestEven number.mantissa (1 <<< (excess number).toNat), 0⟩
          (max (-Scaled.reach) (min (number.exponent + excess number) Scaled.reach)) := by
  have same : (bitLength number.mantissa : ℤ) - binary64.bitsAt number.top = excess number := by
    have constants : binary64.minExponent = -1022 ∧ binary64.precision = 53 := ⟨rfl, rfl⟩
    rw [Format.bitsAt, Format.lastExponent, excess, constants.1, constants.2, Scaled.top]
    omega
  rw [Scaled.toDouble?, Scaled.roundTo, same]
  split <;> rfl

theorem divNearestEven_of_lt {dividend divisor : ℕ} (small : 2 * dividend < divisor) :
    divNearestEven dividend divisor = 0 := by
  have less : dividend < divisor := by omega
  rw [divNearestEven, Nat.div_eq_of_lt less, Nat.mod_eq_of_lt less]
  exact if_pos (.inl small)

theorem divNearestEven_shiftLeft_of_far {mantissa shift : ℕ} (fits : mantissa < 2 ^ 64)
    (far : 64 < shift) : divNearestEven mantissa (1 <<< shift) = 0 := by
  apply divNearestEven_of_lt
  calc 2 * mantissa < 2 ^ 65 := by omega
    _ ≤ 2 ^ shift := Nat.pow_le_pow_right (by norm_num) far
    _ = 1 <<< shift := (Nat.one_shiftLeft _).symm

theorem toDouble?_of_mantissa_zero {number : Scaled} (zero : number.mantissa = 0) :
    number.toDouble? = some ⟨0, binary64.least⟩ := by
  rw [toDouble?_eq, zero]
  split
  next => exact scale?_of_mantissa_zero rfl _
  next =>
    rw [divNearestEven_of_lt (by simp [Nat.one_shiftLeft])]
    exact scale?_of_mantissa_zero rfl _

theorem bitLength_le {mantissa : ℕ} (fits : mantissa < 2 ^ 64) : bitLength mantissa ≤ 64 := by
  rw [bitLength]
  split
  next => norm_num
  next nonzero => exact (Nat.log2_lt nonzero).mpr fits

section

variable (number : Scaled) (fits : number.mantissa < 2 ^ 64)
include fits

/-- Of a number that has more than 64 bits too many nothing is left. -/
theorem toDouble?_of_excess (long : 64 < excess number) :
    number.toDouble? = some ⟨0, binary64.least⟩ := by
  rw [toDouble?_eq, if_neg (by omega), divNearestEven_shiftLeft_of_far fits (by omega)]
  exact scale?_of_mantissa_zero rfl _

theorem saturate_excess (low : -2 ^ 63 ≤ number.exponent) (high : number.exponent < 2 ^ 63)
    (nonzero : number.mantissa ≠ 0) :
    (excess number ≤ 64 →
        saturate (bitLength number.mantissa - precisionOf number) = excess number) ∧
      (64 < excess number → 64 < saturate (bitLength number.mantissa - precisionOf number)) := by
  have most := bitLength_le fits
  have least : 1 ≤ bitLength number.mantissa := by
    rw [bitLength, if_neg nonzero]
    omega
  have constants : binary64.minExponent = -1022 ∧ binary64.precision = 53 := ⟨rfl, rfl⟩
  simp only [precisionOf, excess, Scaled.top, saturate, constants.1, constants.2]
  generalize bitLength number.mantissa = bits at most least ⊢
  constructor
  · intro _
    split <;> omega
  · intro _
    split <;> omega

/-- A mantissa of 64 bits and an exponent of 64 bits are rounded without a fault. -/
theorem toDouble_eq (low : -2 ^ 63 ≤ number.exponent) (high : number.exponent < 2 ^ 63) :
    toDouble number = .ok number.toDouble? := by
  rw [toDouble]
  by_cases zero : number.mantissa = 0
  · rw [if_pos zero, toDouble?_of_mantissa_zero zero]
    rfl
  · obtain ⟨same, long⟩ := saturate_excess number fits low high zero
    rw [if_neg zero, roundTo]
    rcases le_or_gt (excess number) 64 with near | far
    · rw [same near, if_neg (by omega : ¬64 < excess number), toDouble?_eq]
      split
      next => exact scale_eq _ _
      next positive =>
        have places : max (-Scaled.reach)
            (min (saturate (number.exponent + excess number)) Scaled.reach) =
            max (-Scaled.reach) (min (number.exponent + excess number) Scaled.reach) := by
          have reach : Scaled.reach = 4000 := rfl
          unfold saturate
          omega
        rw [shiftNearestEven_eq fits (by omega) (by omega), ok_bind, ← places]
        exact scale_eq _ _
    · have positive := long far
      rw [toDouble?_of_excess number fits far, if_neg (by omega), if_pos positive]
      exact (scale_eq _ _).trans (congrArg _ (scale?_of_mantissa_zero rfl _))

end

/-! ### Hexadecimal numerals -/

/-- Exponents that are equal, or so large or so small that no double has them, do not make a
difference. -/
theorem toDouble?_congr {mantissa : ℕ} (fits : mantissa < 2 ^ 64) {e e' : ℤ}
    (alike : e = e' ∨ (4000 ≤ e ∧ 4000 ≤ e') ∨ (e < -1138 ∧ e' < -1138)) :
    Scaled.toDouble? ⟨mantissa, e⟩ = Scaled.toDouble? ⟨mantissa, e'⟩ := by
  have most := bitLength_le fits
  have reach : Scaled.reach = 4000 := rfl
  rcases alike with rfl | ⟨high, high'⟩ | ⟨low, low'⟩
  · rfl
  · have same : excess ⟨mantissa, e⟩ = excess ⟨mantissa, e'⟩ := by
      simp only [excess, Scaled.top]
      omega
    have capped {places : ℤ} (far : 4000 ≤ places) :
        max (-Scaled.reach) (min places Scaled.reach) = 4000 := by
      omega
    rw [toDouble?_eq, toDouble?_eq, same]
    split
    next => rw [capped high, capped high']
    next => rw [capped (by dsimp only; omega), capped (by dsimp only; omega)]
  · by_cases zero : mantissa = 0
    · rw [toDouble?_of_mantissa_zero zero, toDouble?_of_mantissa_zero zero]
    · rw [toDouble?_of_excess ⟨mantissa, e⟩ fits, toDouble?_of_excess ⟨mantissa, e'⟩ fits]
      all_goals
        simp only [excess, Scaled.top]
        omega

theorem jam_lt {n bound : ℕ} (below : n < bound) (even : bound % 2 = 0) (leftOver : Bool) :
    jam n leftOver < bound := by
  rw [jam]
  split <;> omega

theorem ofHexDigits_mantissa_lt {integer fraction : List Char}
    (digits : ∀ c ∈ integer ++ fraction, Radix.hexadecimal.isDigit c = true) (exponent : ℤ) :
    (Scaled.ofHexDigits integer fraction exponent).mantissa < 2 ^ 64 := by
  have members := Digits.isDigit_dropWhile digits
  refine jam_lt ?_ (by norm_num) _
  generalize (integer ++ fraction).dropWhile (· == '0') = word at members ⊢
  have below : ∀ c ∈ word.take Scaled.keptDigits, Digits.digitValue c < 16 := fun c member =>
    (Digits.digitValue_spec (members c (List.mem_of_mem_take member))).1
  calc Digits.value 16 (word.take Scaled.keptDigits)
      < 16 ^ (word.take Scaled.keptDigits).length := Digits.value_lt 16 below
    _ ≤ 16 ^ 16 := Nat.pow_le_pow_right (by norm_num) (List.length_take_le _ _)
    _ = 2 ^ 64 := by norm_num

/-- Narrowing counts the exponent up once for each bit beyond 53, at most. -/
theorem narrow_eq {mantissa bits : ℕ} (fits : mantissa < 2 ^ 53 * 2 ^ bits) :
    ∃ narrowed count : ℕ, narrowed < 2 ^ 53 ∧ count ≤ bits ∧
      ∀ e, Scaled.narrow ⟨mantissa, e⟩ = ⟨narrowed, e + count⟩ := by
  have bound : 1 <<< binary64.precision = 2 ^ 53 := rfl
  induction bits generalizing mantissa with
  | zero =>
    refine ⟨mantissa, 0, by omega, le_rfl, ?_⟩
    intro e
    rw [Scaled.narrow, bound, if_pos (by dsimp only; omega), Nat.cast_zero, add_zero]
  | succ bits ih =>
    by_cases short : mantissa < 2 ^ 53
    · refine ⟨mantissa, 0, short, Nat.zero_le _, ?_⟩
      intro e
      rw [Scaled.narrow, bound, if_pos short, Nat.cast_zero, add_zero]
    · have halved : jam (mantissa / 2) (mantissa % 2 == 1) < 2 ^ 53 * 2 ^ bits :=
        jam_lt (by rw [pow_succ] at fits; omega) (by omega) _
      obtain ⟨narrowed, count, small, few, narrows⟩ := ih halved
      refine ⟨narrowed, count + 1, small, by omega, ?_⟩
      intro e
      rw [Scaled.narrow, bound, if_neg short, narrows, Nat.cast_succ]
      congr 1
      ring

theorem toDouble_saturate {mantissa : ℕ} (fits : mantissa < 2 ^ 64) {e e' : ℤ}
    (alike : saturate e = e' ∨ (4000 ≤ e ∧ 4000 ≤ e') ∨ (e < -1138 ∧ e' < -1138)) :
    toDouble ⟨mantissa, saturate e⟩ = .ok (Scaled.toDouble? ⟨mantissa, e'⟩) := by
  have low : -2 ^ 63 ≤ saturate e := le_max_left _ _
  have high : saturate e < 2 ^ 63 := by
    unfold saturate
    omega
  rw [toDouble_eq ⟨mantissa, saturate e⟩ fits low high, toDouble?_congr fits]
  unfold saturate at alike ⊢
  omega

/-- The magnitude of a hexadecimal numeral, rounded to a format by way of a double. -/
def hexNumber (format : Format) (numeral : Numeral) : Checked (Option Scaled) := do
  let magnitude : Scaled :=
    ⟨numeral.hexMagnitude.mantissa, saturate numeral.hexMagnitude.exponent⟩
  if format = binary64 then toDouble magnitude
  else
    let double ← toDouble ⟨magnitude.narrow.mantissa, saturate magnitude.narrow.exponent⟩
    return double.bind format.round?

theorem hexNumber_eq (format : Format) {text : List Char} {numeral : Numeral}
    (spelled : Numeral.Spelled .hexadecimal text numeral) :
    hexNumber format numeral = .ok (numeral.hexMagnitude.toFormat? format) := by
  have fits : numeral.hexMagnitude.mantissa < 2 ^ 64 := ofHexDigits_mantissa_lt spelled.digits _
  rw [hexNumber, Scaled.toFormat?]
  generalize numeral.hexMagnitude = magnitude at fits ⊢
  obtain ⟨mantissa, exponent⟩ := magnitude
  dsimp only
  split
  next =>
    apply toDouble_saturate fits
    unfold saturate
    omega
  next =>
    obtain ⟨narrowed, count, small, few, narrows⟩ :=
      narrow_eq (fits.trans_eq (by norm_num : _ = 2 ^ 53 * 2 ^ 11))
    have alike : saturate (saturate exponent + count) = exponent + count ∨
        (4000 ≤ saturate exponent + count ∧ 4000 ≤ exponent + count) ∨
        (saturate exponent + count < -1138 ∧ exponent + count < -1138) := by
      unfold saturate
      omega
    rw [narrows, narrows, toDouble_saturate (small.trans (by norm_num)) alike]
    rfl

end Machine

end DeclScan
