import DeclScan.Numeral

/-!
Exact base-ten numbers with up to 38 significant digits. A number has one representation: the
mantissa does not end in a zero, and zero itself is positive with exponent zero, so two decimals are
equal exactly when they denote the same number.

There are two ways to make one: from a mantissa, of which the zeros at the end are divided off
(`ofParts?`), and from digits, of which they are cut off (`ofDigits?`).
-/

namespace DeclScan

/-- The largest number of significant digits of a decimal. -/
def Decimal.maxDigits : Nat := 38

/-- The least mantissa that has too many digits. -/
def Decimal.mantissaBound : Nat := Nat.pow 10 maxDigits

/-- The number `± mantissa · 10 ^ exponent`. -/
structure Decimal where
  mantissa : Nat
  exponent : Int
  negative : Bool
  mantissa_lt : mantissa < Decimal.mantissaBound
  exponent_range : -128 ≤ exponent ∧ exponent ≤ 127
  canonical : mantissa % 10 = 0 → mantissa = 0 ∧ exponent = 0 ∧ negative = false
deriving DecidableEq

namespace Decimal

def zero : Decimal where
  mantissa := 0
  exponent := 0
  negative := false
  mantissa_lt := by decide
  exponent_range := by decide
  canonical := by decide

instance : Inhabited Decimal := ⟨zero⟩

def isZero (decimal : Decimal) : Bool := decimal.mantissa == 0

/-- Moves the zeros at the end of a mantissa into the exponent. -/
def strip (mantissa : Nat) (exponent : Int) : Nat × Int :=
  if mantissa ≠ 0 ∧ mantissa % 10 = 0 then strip (mantissa / 10) (exponent + 1)
  else (mantissa, exponent)
termination_by mantissa
decreasing_by omega

theorem strip_mod (mantissa : Nat) (exponent : Int) (nonzero : mantissa ≠ 0) :
    (strip mantissa exponent).1 % 10 ≠ 0 := by
  fun_induction strip mantissa exponent with
  | case1 mantissa exponent ends ih => exact ih (by omega)
  | case2 mantissa exponent done => exact fun ends => done ⟨nonzero, ends⟩

/-- The decimal `± mantissa · 10 ^ exponent`; none when, without the zeros at its end, the mantissa
has more than 38 digits or the exponent does not fit a signed byte. -/
def ofParts? (mantissa : Nat) (exponent : Int) (negative : Bool) : Option Decimal :=
  if nonzero : mantissa ≠ 0 then
    let stripped := strip mantissa exponent
    if fits : stripped.1 < mantissaBound ∧ -128 ≤ stripped.2 ∧ stripped.2 ≤ 127 then
      some {
        mantissa := stripped.1
        exponent := stripped.2
        negative
        mantissa_lt := fits.1
        exponent_range := fits.2
        canonical := fun ends => absurd ends (strip_mod mantissa exponent nonzero) }
    else none
  else some zero

theorem value_significant_lt {word : List Char}
    (digits : ∀ c ∈ word, Radix.decimal.isDigit c = true)
    (few : (Digits.significant word).length ≤ maxDigits) :
    Digits.value 10 (Digits.significant word) < mantissaBound := by
  have members (c : Char) (member : c ∈ Digits.significant word) : Digits.digitValue c < 10 :=
    (Digits.digitValue_decimal (digits c (Digits.mem_of_mem_significant member))).1
  exact Nat.lt_of_lt_of_le (Digits.value_lt_pow members) (Nat.pow_le_pow_right (by decide) few)

/-- The decimal that digits around a point denote, times `10 ^ exponent`. The zeros at both ends of the
digits are left out; none when more than 38 digits remain or the exponent does not fit a signed
byte. -/
def ofDigits? (negative : Bool) (integer fraction : List Char) (exponent : Int)
    (digits : ∀ c ∈ integer ++ fraction, Radix.decimal.isDigit c = true) : Option Decimal :=
  let word := Digits.significant (integer ++ fraction)
  if nonempty : word ≠ [] then
    if few : word.length ≤ maxDigits then
      let zeros := ((integer ++ fraction).dropWhile (· == '0')).length - word.length
      let place := exponent - fraction.length + (zeros : Nat)
      if range : -128 ≤ place ∧ place ≤ 127 then
        some {
          mantissa := Digits.value 10 word
          exponent := place
          negative
          mantissa_lt := value_significant_lt digits few
          exponent_range := range
          canonical := fun ends => absurd ends (Digits.value_significant_mod digits nonempty) }
      else none
    else none
  else some zero

/-- The decimal that a numeral denotes, exactly; none when it has too many significant digits or
is out of range. What is not made of decimal digits denotes no decimal. -/
def ofNumeral? (numeral : Numeral) : Option Decimal :=
  if digits : (numeral.integer ++ numeral.fraction).all Radix.decimal.isDigit then
    ofDigits? numeral.negative numeral.integer numeral.fraction numeral.exponent
      (List.all_eq_true.mp digits)
  else none

end Decimal

end DeclScan
