import DeclScan.Binary.Scaled

/-!
Binary floating-point formats: which numbers they hold, rounding onto them, and their bit patterns.
-/

namespace DeclScan.Binary

/-- A format with `precision` significant bits for numbers from `2 ^ minExponent` up to, but not
including, `2 ^ (maxExponent + 1)`; smaller numbers are multiples of the format's least number. A
number takes `width` bits, sign first. -/
structure Format where
  width : Nat
  precision : Nat
  minExponent : Int
  maxExponent : Int
deriving DecidableEq

/-- Double precision. -/
def binary64 : Format where
  width := 64
  precision := 53
  minExponent := -1022
  maxExponent := 1023

/-- Single precision. -/
def binary32 : Format where
  width := 32
  precision := 24
  minExponent := -126
  maxExponent := 127

/-- A finite number of a format. The sign of zero counts. -/
structure Number where
  negative : Bool
  magnitude : Scaled
deriving DecidableEq

namespace Format

/-- The exponent of the last bit that the format keeps of a number with highest power `2 ^ top`. -/
def lastExponent (format : Format) (top : Int) : Int :=
  max top format.minExponent - (format.precision - 1)

/-- The number of the format nearest to `number`, the even one of two, in units of its last bit;
none when that is too large for the format. -/
def round? (format : Format) (number : Scaled) : Option Scaled :=
  if number.mantissa = 0 then some ⟨0, format.lastExponent format.minExponent⟩
  else
    let last := format.lastExponent number.top
    let rounded := number.roundTo (number.top - last + 1)
    let aligned : Scaled := ⟨rounded.mantissa <<< (rounded.exponent - last).toNat, last⟩
    if format.maxExponent < aligned.top then none else some aligned

/-- Cuts the decimal place of a number's first digit to the range in which the format tells numbers
apart: above it every number is too large, below it every number is nearest to zero. -/
def cutPlace (format : Format) (place : Int) : Int :=
  max (format.minExponent - format.precision) (min place (format.maxExponent + 2))

/-- The bit pattern of a number of the format: sign, biased exponent, and the bits after the
leading one. A mantissa that fills the precision adds its leading bit to the exponent field. -/
def bits (format : Format) (number : Number) : Nat :=
  let sign := if number.negative then 1 <<< (format.width - 1) else 0
  let steps := number.magnitude.exponent - format.lastExponent format.minExponent
  sign + (steps.toNat <<< (format.precision - 1)) + number.magnitude.mantissa

end Format

end DeclScan.Binary
