import DeclScan.Binary.Double
import DeclScan.Numeral

/-!
Numerals as numbers of a binary floating-point format.
-/

namespace DeclScan.Numeral

open Binary

/-- The digits of a numeral from the first to the last that is not zero. -/
def significant (numeral : Numeral) : List Char :=
  Digits.significant (numeral.integer ++ numeral.fraction)

/-- How many digits of a numeral stand before the first that is not zero. -/
def leadingZeros (numeral : Numeral) : Nat :=
  ((numeral.integer ++ numeral.fraction).takeWhile (· == '0')).length

/-- The decimal place of the first significant digit: a decimal numeral is `0.significant` times ten
to this power. -/
def place (numeral : Numeral) : Int :=
  numeral.integer.length - numeral.leadingZeros + numeral.exponent

/-- The magnitude of a decimal numeral, as it counts for rounding to `format`: exact or rounded to
odd. A numeral far outside the format is moved to its border, so no power of ten is out of proportion
to the numeral. -/
def decimalMagnitude (format : Format) (numeral : Numeral) : Scaled :=
  let word := numeral.significant
  let scale := format.cutPlace numeral.place - word.length
  Scaled.ofRatio (Digits.evaluate 10 word * Nat.pow 10 scale.toNat) (Nat.pow 10 (-scale).toNat)

/-- The magnitude of a hexadecimal numeral, exact or rounded to odd. -/
def hexMagnitude (numeral : Numeral) : Scaled :=
  Scaled.ofHexDigits numeral.integer numeral.fraction numeral.exponent

/-- The number of `format` nearest to a numeral; none when it is too large. -/
def toNumber? (format : Format) (numeral : Numeral) : Option Number :=
  let magnitude :=
    match numeral.radix with
    | .decimal => format.round? (numeral.decimalMagnitude format)
    | .hexadecimal => numeral.hexMagnitude.toFormat? format
  magnitude.map fun magnitude => ⟨numeral.negative, magnitude⟩

end DeclScan.Numeral
