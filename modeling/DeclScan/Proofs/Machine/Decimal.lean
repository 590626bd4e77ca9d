import DeclScan.Proofs.DecimalScan
import DeclScan.Proofs.Machine.Numeral

/-!
Exact decimals, built in words.

`newDecimal` divides the zeros off a mantissa of 128 bits, one after the other, and counts the digits
that are left; `decimalOf` trims digits as a text and adds them up afterwards. Both fill in the fields of
a decimal as they come out (`Parts`), and nothing in these fields says that they are those of a number's
one form. That they are follows from what the two compute (`newDecimal_eq`, `decimalOf_computes`).

The exponent of a scanned decimal is a sum in 64 bits. It stays there because the exponent of a numeral
is cut behind its digits, and all digits together are first copied to a buffer, which is never granted
when they are too many.
-/

namespace DeclScan.Machine

open Text

/-- The fields of a decimal, whatever number they make up. -/
structure Parts where
  mantissa : ℕ
  exponent : ℤ
  negative : Bool
deriving DecidableEq

namespace Parts

def zero : Parts := ⟨0, 0, false⟩

def ofDecimal (decimal : Decimal) : Parts :=
  ⟨decimal.mantissa, decimal.exponent, decimal.negative⟩

/-- The decimal that has these fields, if there is one. -/
def decimal? (parts : Parts) : Option Decimal :=
  if holds : parts.mantissa < Decimal.mantissaBound ∧
      (-128 ≤ parts.exponent ∧ parts.exponent ≤ 127) ∧
      (parts.mantissa % 10 = 0 →
        parts.mantissa = 0 ∧ parts.exponent = 0 ∧ parts.negative = false) then
    some ⟨parts.mantissa, parts.exponent, parts.negative, holds.1, holds.2.1, holds.2.2⟩
  else none

@[simp] theorem decimal?_ofDecimal (decimal : Decimal) :
    (ofDecimal decimal).decimal? = some decimal :=
  dif_pos ⟨decimal.mantissa_lt, decimal.exponent_range, decimal.canonical⟩

end Parts

/-- Fields with an exponent that has to fit a signed byte. -/
def fields (mantissa : ℕ) (exponent : ℤ) (negative : Bool) : Option Parts :=
  if -128 ≤ exponent ∧ exponent ≤ 127 then some ⟨mantissa, exponent, negative⟩ else none

/-! ### From a mantissa -/

/-- Divides the zeros at the end of a mantissa off, and counts the exponent up for each. -/
def divideZeros (mantissa : ℕ) (exponent : ℤ) : Checked (ℕ × ℤ) :=
  if mantissa = 0 then .error .endless
  else if mantissa % 10 = 0 then do
    let exponent ← signed 64 (exponent + 1)
    divideZeros (mantissa / 10) exponent
  else return (mantissa, exponent)

/-- The number of digits of a number; zero has one. -/
def digitCount (n : ℕ) : ℕ := if 10 ≤ n then digitCount (n / 10) + 1 else 1

/-- The decimal `± mantissa · 10 ^ exponent`. -/
def newDecimal (mantissa : ℕ) (exponent : ℤ) (negative : Bool) : Checked (Option Parts) := do
  if mantissa = 0 then return some .zero
  let stripped ← divideZeros mantissa exponent
  if Decimal.maxDigits < digitCount stripped.1 then return none
  return fields stripped.1 stripped.2 negative

theorem digitCount_le_iff (n k : ℕ) : digitCount n ≤ k + 1 ↔ n < 10 ^ (k + 1) := by
  fun_induction digitCount n generalizing k with
  | case1 n large ih =>
    cases k with
    | zero =>
      have some_digit : 1 ≤ digitCount (n / 10) := by
        rw [digitCount]
        split <;> omega
      rw [zero_add, pow_one]
      omega
    | succ k => rw [Nat.add_le_add_iff_right, ih, Nat.div_lt_iff_lt_mul (by norm_num), ← pow_succ]
  | case2 n small =>
    have least : 10 ≤ 10 ^ (k + 1) := Nat.le_self_pow (Nat.succ_ne_zero k) 10
    omega

/-- A mantissa of so many digits does not push the exponent further than that. -/
theorem divideZeros_eq {mantissa digits : ℕ} {exponent : ℤ} (nonzero : mantissa ≠ 0)
    (below : mantissa < 10 ^ digits) (low : -2 ^ 63 ≤ exponent)
    (high : exponent + digits < 2 ^ 63) :
    divideZeros mantissa exponent = .ok (Decimal.strip mantissa exponent) := by
  induction digits generalizing mantissa exponent with
  | zero => omega
  | succ digits ih =>
    rw [pow_succ] at below
    rw [divideZeros, if_neg nonzero, Decimal.strip]
    by_cases ends : mantissa % 10 = 0
    · rw [if_pos ends, if_pos ⟨nonzero, ends⟩, signed_of_mem (by norm_num; omega)
        (by norm_num; omega), ok_bind]
      exact ih (by omega) (by omega) (by omega) (by omega)
    · rw [if_neg ends, if_neg (mt And.right ends)]
      rfl

/-- Every mantissa of 128 bits and every exponent of 32 bits come to the decimal of their number. -/
theorem newDecimal_eq {mantissa : ℕ} {exponent : ℤ} (negative : Bool) (fits : mantissa < 2 ^ 128)
    (low : -2 ^ 31 ≤ exponent) (high : exponent < 2 ^ 31) :
    newDecimal mantissa exponent negative =
      .ok ((Decimal.ofParts? mantissa exponent negative).map Parts.ofDecimal) := by
  rw [newDecimal, Decimal.ofParts?]
  by_cases zero : mantissa = 0
  · rw [if_pos zero, dif_neg (not_not.mpr zero)]
    rfl
  · have digits : mantissa < 10 ^ 39 := fits.trans (by norm_num)
    rw [if_neg zero, dif_pos zero, divideZeros_eq zero digits (by omega) (by omega), ok_bind]
    dsimp only [fields]
    have few : ¬Decimal.maxDigits < digitCount (Decimal.strip mantissa exponent).1 ↔
        (Decimal.strip mantissa exponent).1 < Decimal.mantissaBound :=
      not_lt.trans (digitCount_le_iff _ 37)
    by_cases small : (Decimal.strip mantissa exponent).1 < Decimal.mantissaBound
    · rw [if_neg (few.mpr small)]
      by_cases range : -128 ≤ (Decimal.strip mantissa exponent).2 ∧
          (Decimal.strip mantissa exponent).2 ≤ 127
      · rw [if_pos range, dif_pos ⟨small, range⟩]
        rfl
      · rw [if_neg range, dif_neg (mt And.right range)]
        rfl
    · rw [if_pos (not_not.mp (mt few.mp small)), dif_neg (mt And.left small)]
      rfl

/-! ### From digits -/

/-- The value of a decimal word that follows on digits with the value `total`, if it fits 128 bits. -/
def wideValue : List Char → (total : ℕ) → Checked (Option ℕ)
  | [], total => return some total
  | c :: rest, total => do
    if 2 ^ 128 ≤ total * 10 then return none
    let digit ← digitOf c
    if 2 ^ 128 ≤ total * 10 + digit then return none
    wideValue rest (total * 10 + digit)

/-- The decimal that a numeral denotes. Its digits are copied to one buffer, and its exponent is summed
up in 64 bits. -/
def decimalOf [Allocator] (numeral : Numeral) : Checked (Option Parts) := do
  let capacity ← word (numeral.integer.length + numeral.fraction.length)
  allocate capacity
  let digits := numeral.integer ++ numeral.fraction
  let trimmed := Digits.significant digits
  if trimmed = [] then return some .zero
  if Decimal.maxDigits < trimmed.length then return none
  let zeros ← difference (digits.dropWhile (· == '0')).length trimmed.length
  if 2 ^ 63 ≤ zeros ∨ 2 ^ 63 ≤ numeral.fraction.length then return none
  let shifted ← signed 64 (numeral.exponent - numeral.fraction.length)
  let exponent ← signed 64 (shifted + zeros)
  match ← wideValue trimmed 0 with
  | none => return none
  | some mantissa => return fields mantissa exponent numeral.negative

theorem wideValue_eq {digits : List Char}
    (members : ∀ c ∈ digits, Radix.decimal.isDigit c = true) {total : ℕ}
    (fits : total * 10 ^ digits.length + Digits.value 10 digits < 2 ^ 128) :
    wideValue digits total =
      .ok (some (total * 10 ^ digits.length + Digits.value 10 digits)) := by
  induction digits generalizing total with
  | nil =>
    rw [List.length_nil, pow_zero, mul_one, Digits.value_nil, add_zero]
    rfl
  | cons c rest ih =>
    have value : total * 10 ^ (c :: rest).length + Digits.value 10 (c :: rest) =
        (total * 10 + Digits.digitValue c) * 10 ^ rest.length + Digits.value 10 rest := by
      rw [List.length_cons, Digits.value_cons]
      ring
    rw [value] at fits ⊢
    -- the digits so far are worth no more than the whole word
    have less : total * 10 + Digits.digitValue c ≤
        (total * 10 + Digits.digitValue c) * 10 ^ rest.length :=
      Nat.le_mul_of_pos_right _ (by positivity)
    rw [wideValue, if_neg (by omega), digitOf_eq (members c List.mem_cons_self), ok_bind,
      if_neg (by omega)]
    exact ih (fun d member => members d (List.mem_cons_of_mem c member)) fits

theorem wideValue_of_lt {digits : List Char}
    (members : ∀ c ∈ digits, Radix.decimal.isDigit c = true)
    (small : Digits.value 10 digits < Decimal.mantissaBound) :
    wideValue digits 0 = .ok (some (Digits.value 10 digits)) := by
  have fits : Digits.value 10 digits < 2 ^ 128 := small.trans (by decide)
  have whole : 0 * 10 ^ digits.length + Digits.value 10 digits = Digits.value 10 digits := by
    rw [zero_mul, zero_add]
  rw [← whole] at fits
  rw [wideValue_eq members fits, whole]

/-- A numeral that is lexed comes to the decimal that it denotes, unless there is no room for its
digits. -/
theorem decimalOf_computes [Allocator] {text : List Char} {numeral read : Numeral} {size : ℕ}
    (lexed : capped? .decimal text = some numeral)
    (found : Numeral.read? .decimal text = some read)
    (within : numeral.integer.length + numeral.fraction.length ≤ size) (short : size < 2 ^ 64) :
    Computes (Refuses size) (decimalOf numeral) ((Decimal.ofNumeral? read).map Parts.ofDecimal) := by
  rw [decimalOf, word_of_lt (within.trans_lt short), ok_bind]
  refine computes_allocate within fun room => .of_ok ?_
  obtain rfl := eq_of_capped? lexed found room
  have spelled := Numeral.spelled_of_readWith? lexed
  have members (c : Char) (member : c ∈ Digits.significant (numeral.integer ++ numeral.fraction)) :
      Radix.decimal.isDigit c = true := spelled.digits c (Digits.mem_of_mem_significant member)
  rw [Decimal.ofNumeral?_eq_ofDigits? spelled, Decimal.ofDigits?]
  by_cases zeros : Digits.significant (numeral.integer ++ numeral.fraction) = []
  · rw [if_pos zeros, dif_neg (not_not.mpr zeros)]
    rfl
  · rw [if_neg zeros, dif_pos zeros]
    by_cases few : (Digits.significant (numeral.integer ++ numeral.fraction)).length ≤
        Decimal.maxDigits
    · -- the digits fit a buffer, so the exponent cannot be far out
      have limit := natAbs_exponent_le_of_capped? lexed
      have million : Numeral.exponentLimit = 1000000 := rfl
      have order := numeral.place_sub_length.1
      have all := ((numeral.integer ++ numeral.fraction).dropWhile_suffix (· == '0')).length_le
      rw [List.length_append] at all
      rw [Numeral.significant] at order
      rw [if_neg few.not_gt, dif_pos few, difference_of_le order, ok_bind, if_neg (by omega),
        signed_of_mem (by norm_num; omega) (by norm_num; omega), ok_bind,
        signed_of_mem (by norm_num; omega) (by norm_num; omega), ok_bind,
        wideValue_of_lt members (Decimal.value_significant_lt spelled.digits few), ok_bind]
      dsimp only [fields]
      split <;> rfl
    · rw [if_pos (not_le.mp few), dif_neg few]
      rfl

end DeclScan.Machine
