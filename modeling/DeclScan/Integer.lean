import DeclScan.Digits
import DeclScan.Reading

/-!
Integers at the front of a text. Each reader takes the longest word of digits and refuses a value
that does not fit the given number of bits; it never cuts a value short.
-/

namespace DeclScan.Integer

/-- `[+-]? digit+` with a value in two's complement of `bits` bits. -/
def readSigned? (bits : Nat) (text : List Char) : Option (Reading Int) :=
  let sign := signWidth text
  let word := (text.drop sign).takeWhile Radix.decimal.isDigit
  if word.isEmpty then none
  else if startsNegative text then
    (Digits.valueBelow? 10 ((1 <<< (bits - 1)) + 1) word).map fun magnitude =>
      ⟨-(magnitude : Int), sign + word.length⟩
  else
    (Digits.valueBelow? 10 (1 <<< (bits - 1)) word).map fun magnitude =>
      ⟨(magnitude : Int), sign + word.length⟩

/-- `+? digit+` with a value of at most `bits` bits. -/
def readUnsigned? (bits : Nat) (text : List Char) : Option (Reading Nat) :=
  let sign := if startsNegative text then 0 else signWidth text
  let word := (text.drop sign).takeWhile Radix.decimal.isDigit
  if word.isEmpty then none
  else
    (Digits.valueBelow? 10 (1 <<< bits) word).map fun magnitude =>
      ⟨magnitude, sign + word.length⟩

/-- The number of characters of the mark `0x` or `0X`, which counts only before a digit. -/
def hexMarkWidth : List Char → Nat
  | '0' :: mark :: next :: _ =>
    if (mark = 'x' ∨ mark = 'X') ∧ Radix.hexadecimal.isDigit next then 2 else 0
  | _ => 0

/-- `(0[xX])? hexdigit+` with a value of at most `bits` bits. -/
def readHex? (bits : Nat) (text : List Char) : Option (Reading Nat) :=
  let mark := hexMarkWidth text
  let word := (text.drop mark).takeWhile Radix.hexadecimal.isDigit
  if word.isEmpty then none
  else
    (Digits.valueBelow? 16 (1 <<< bits) word).map fun magnitude =>
      ⟨magnitude, mark + word.length⟩

end DeclScan.Integer
