import DeclScan.Digits

/-!
Numbers `mantissa · 2 ^ exponent`, and rounding to the nearest of them, ties to even.

A number that needs more bits than are kept is rounded to odd: cut off, and the lowest kept bit set
if anything but zeros was cut. Such a number lies on the same side of every shorter number and of
every midpoint between two of them, so a later rounding to at least two bits fewer is not misled.
-/

namespace DeclScan.Binary

/-- The number of bits of `n`; zero has none. -/
def bitLength (n : Nat) : Nat := if n = 0 then 0 else n.log2 + 1

/-- The integer nearest to `dividend / divisor`, the even one of two. -/
def divNearestEven (dividend divisor : Nat) : Nat :=
  let quotient := dividend / divisor
  let remainder := dividend % divisor
  if 2 * remainder < divisor ∨ (2 * remainder = divisor ∧ quotient % 2 = 0) then quotient
  else quotient + 1

/-- `n`, with its lowest bit set if something is left over. -/
def jam (n : Nat) (leftOver : Bool) : Nat := if leftOver then n / 2 * 2 + 1 else n

/-- The number `mantissa · 2 ^ exponent`. -/
structure Scaled where
  mantissa : Nat
  exponent : Int
deriving DecidableEq

namespace Scaled

/-- The exponent of the highest power of two in the number. -/
def top (number : Scaled) : Int := number.exponent + bitLength number.mantissa - 1

/-- The number rounded to at most `precision` significant bits. Of a number below half the last
kept bit nothing is left, so the precision may be zero or less. -/
def roundTo (number : Scaled) (precision : Int) : Scaled :=
  let excess := (bitLength number.mantissa : Int) - precision
  if excess ≤ 0 then number
  else ⟨divNearestEven number.mantissa (1 <<< excess.toNat), number.exponent + excess⟩

/-- How many significant hexadecimal digits fill 64 bits. -/
def keptDigits : Nat := 16

/-- The number that hexadecimal digits around a point denote, times `2 ^ exponent`, rounded to odd
at the sixteenth significant digit. -/
def ofHexDigits (integer fraction : List Char) (exponent : Int) : Scaled :=
  let significant := (integer ++ fraction).dropWhile (· == '0')
  let dropped := significant.drop keptDigits
  ⟨jam (Digits.value 16 (significant.take keptDigits)) (dropped.any (· != '0')),
    exponent + 4 * ((dropped.length : Int) - fraction.length)⟩

/-- The number `numerator / denominator`, rounded to odd at 63 or 64 bits. -/
def ofRatio (numerator denominator : Nat) : Scaled :=
  if numerator = 0 then ⟨0, 0⟩
  else
    let exponent := (numerator.log2 : Int) - denominator.log2 - 63
    let dividend := numerator <<< (-exponent).toNat
    let divisor := denominator <<< exponent.toNat
    ⟨jam (dividend / divisor) (dividend % divisor != 0), exponent⟩

end Scaled

end DeclScan.Binary
