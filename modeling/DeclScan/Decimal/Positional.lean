import DeclScan.Decimal.Basic

/-!
Decimals in positional form, never with an exponent: `-12.5`, `1200`, `0.003`.
-/

namespace DeclScan.Decimal

/-- The digits of the mantissa. -/
def digits (decimal : Decimal) : List Char := Nat.toDigits 10 decimal.mantissa

/-- The digits with the point put in, padded with zeros on the side that needs them. -/
def renderMagnitude (decimal : Decimal) : List Char :=
  let word := decimal.digits
  let places := (-decimal.exponent).toNat
  if places = 0 then word ++ List.replicate decimal.exponent.toNat '0'
  else if places < word.length then
    word.take (word.length - places) ++ '.' :: word.drop (word.length - places)
  else '0' :: '.' :: (List.replicate (places - word.length) '0' ++ word)

/-- The positional form of a decimal. -/
def render (decimal : Decimal) : List Char :=
  if decimal.negative then '-' :: decimal.renderMagnitude else decimal.renderMagnitude

end DeclScan.Decimal
