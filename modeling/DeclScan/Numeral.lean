import DeclScan.Digits
import DeclScan.Reading

/-!
Numerals with a point and an exponent, as written. A decimal numeral scales by powers of ten and
has the exponent mark `e`; a hexadecimal one scales by powers of two and has the mark `p`. A mark
that no digits follow is left alone.
-/

namespace DeclScan

/-- The pieces of a numeral: its sign, the digits on either side of the point, the exponent, and
the number of characters of the whole. -/
structure Numeral where
  radix : Radix
  negative : Bool
  integer : List Char
  fraction : List Char
  exponent : Int
  width : Nat
deriving DecidableEq

namespace Numeral

/-- An exponent counts up to this magnitude plus the number of characters before its mark. -/
def exponentLimit : Nat := 1000000

def isExponentMark : Radix → Char → Bool
  | .decimal, c => c == 'e' || c == 'E'
  | .hexadecimal, c => c == 'p' || c == 'P'

/-- The number of characters of the mark `0x` or `0X` of a hexadecimal numeral. The mark counts
only before a digit, or before a point and a digit. -/
def markWidth : Radix → List Char → Nat
  | .decimal, _ => 0
  | .hexadecimal, '0' :: mark :: '.' :: next :: _ =>
    if (mark = 'x' ∨ mark = 'X') ∧ Radix.hexadecimal.isDigit next then 2 else 0
  | .hexadecimal, '0' :: mark :: next :: _ =>
    if (mark = 'x' ∨ mark = 'X') ∧ Radix.hexadecimal.isDigit next then 2 else 0
  | .hexadecimal, _ => 0

/-- The digits behind a point in front of `text`. -/
def fractionOf (radix : Radix) : List Char → List Char
  | '.' :: rest => rest.takeWhile radix.isDigit
  | _ => []

/-- The number of characters of a point in front of `text`. -/
def pointWidth : List Char → Nat
  | '.' :: _ => 1
  | _ => 0

/-- The exponent part in front of `text`, the value of its digits as `magnitude` gives it; zero of no
width when there is none. -/
def readExponent (radix : Radix) (magnitude : List Char → Nat) : List Char → Reading Int
  | [] => ⟨0, 0⟩
  | mark :: rest =>
    let sign := signWidth rest
    let word := (rest.drop sign).takeWhile Radix.decimal.isDigit
    if isExponentMark radix mark ∧ word ≠ [] then
      let magnitude : Int := magnitude word
      ⟨if startsNegative rest then -magnitude else magnitude, 1 + sign + word.length⟩
    else ⟨0, 0⟩

/-- The longest numeral without an exponent part in front of `text`. -/
def body? (radix : Radix) (text : List Char) : Option Numeral :=
  let sign := signWidth text
  let start := sign + markWidth radix (text.drop sign)
  let integer := (text.drop start).takeWhile radix.isDigit
  let afterInteger := text.drop (start + integer.length)
  let fraction := fractionOf radix afterInteger
  if integer.isEmpty ∧ fraction.isEmpty then none
  else
    some {
      radix, negative := startsNegative text, integer, fraction, exponent := 0
      width := start + integer.length + pointWidth afterInteger + fraction.length }

/-- The longest numeral in front of `text`, the digits of its exponent as `magnitude` counts them
behind so many characters. -/
def readWith? (magnitude : Nat → List Char → Nat) (radix : Radix) (text : List Char) :
    Option Numeral :=
  (body? radix text).map fun body =>
    let exponent := readExponent radix (magnitude body.width) (text.drop body.width)
    { body with exponent := exponent.value, width := body.width + exponent.width }

/-- The longest numeral in front of `text`, the magnitude of its exponent cut at the limit. -/
def read? : Radix → List Char → Option Numeral :=
  readWith? fun width => Digits.valueUpTo (exponentLimit + width)

end Numeral

end DeclScan
