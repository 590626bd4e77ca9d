import DeclScan.Binary.Format

/-!
Numbers in double precision, and by way of it in single precision.

A number is rounded once, to the bits that double precision has at its magnitude, and then moved to
its place by products with powers of two. For single precision it first loses the bits that double
precision cannot hold, rounded to odd, so that the one rounding is the last step.
-/

namespace DeclScan.Binary

namespace Format

/-- The product of a number of the format and `2 ^ places`, in the format; none when it is too
large. -/
def product? (format : Format) (number : Scaled) (places : Int) : Option Scaled :=
  format.round? ⟨number.mantissa, number.exponent + places⟩

/-- How many places one product moves a number at most. -/
def stride : Int := 1000

/-- `number · 2 ^ places` in the format, by products of at most `stride` places. A product that is
too large stays so. -/
def scale? (format : Format) (number : Scaled) (places : Int) : Option Scaled :=
  if stride < places then
    (format.product? number stride).bind fun moved => format.scale? moved (places - stride)
  else if places < -stride then
    (format.product? number (-stride)).bind fun moved => format.scale? moved (places + stride)
  else format.product? number places
termination_by places.natAbs
decreasing_by all_goals simp only [stride] at *; omega

/-- The number of bits that the format has for a number with highest power `2 ^ top`. -/
def bitsAt (format : Format) (top : Int) : Int := top - format.lastExponent top + 1

end Format

namespace Scaled

/-- How many places a number is moved at most: double precision has none so far from one. -/
def reach : Int := 4 * Format.stride

/-- The double nearest to `number`; none when it is too large. -/
def toDouble? (number : Scaled) : Option Scaled :=
  let rounded := number.roundTo (binary64.bitsAt number.top)
  binary64.scale? ⟨rounded.mantissa, 0⟩ (max (-reach) (min rounded.exponent reach))

/-- The number cut, one bit after the other, to the bits that double precision holds; a bit that is
lost stays visible in the last one. -/
def narrow (number : Scaled) : Scaled :=
  if number.mantissa < 1 <<< binary64.precision then number
  else narrow ⟨jam (number.mantissa / 2) (number.mantissa % 2 == 1), number.exponent + 1⟩
termination_by number.mantissa
decreasing_by
  have large : 1 <<< binary64.precision = 9007199254740992 := rfl
  simp only [jam]
  split <;> omega

/-- The number of `format` nearest to `number`; none when it is too large. Formats other than double
precision are reached through it. -/
def toFormat? (format : Format) (number : Scaled) : Option Scaled :=
  if format = binary64 then number.toDouble? else number.narrow.toDouble?.bind format.round?

end Scaled

end DeclScan.Binary
