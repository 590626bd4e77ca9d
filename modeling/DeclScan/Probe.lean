import DeclScan.Binary.OfNumeral
import DeclScan.CharSet.Basic
import DeclScan.Decimal.Basic
import DeclScan.Integer
import DeclScan.Literal.Search

/-!
Probes: what can be asked of the front of a text. A probe either reads something, or finds nothing
that it accepts.
-/

namespace DeclScan

/-- A question to the front of a text, whose answer is of the given type. -/
inductive Probe : Type → Type where
  /-- The longest run of members, which must not be empty. -/
  | characters (set : CharSet) : Probe (List Char)
  /-- All before the first member, or to the end. -/
  | upToCharacters (set : CharSet) : Probe (List Char)
  /-- The literal, as the text spells it. -/
  | literal (text : List Char) : Probe (List Char)
  /-- All before the first match of the literal, or to the end. -/
  | upTo (text : List Char) : Probe (List Char)
  /-- A signed integer of so many bits. -/
  | signed (bits : Nat) : Probe Int
  /-- An integer without a minus sign, of so many bits. -/
  | unsigned (bits : Nat) : Probe Nat
  /-- An integer in hexadecimal digits, of so many bits. -/
  | hexadecimal (bits : Nat) : Probe Nat
  /-- A numeral as an exact decimal. -/
  | decimal : Probe Decimal
  /-- A numeral rounded once to a floating-point format. -/
  | number (radix : Radix) (format : Binary.Format) : Probe Binary.Number

namespace Probe

/-- Asks a probe of a text. -/
def read? {α : Type} (caseSensitive : Bool) (probe : Probe α) (text : List Char) :
    Option (Reading α) :=
  match probe with
  | characters set =>
    let run := set.leading text
    if run.isEmpty then none else some ⟨run, run.length⟩
  | upToCharacters set =>
    let run := set.before text
    if text.isEmpty then none else some ⟨run, run.length⟩
  | literal wanted =>
    if text.isEmpty then none
    else if Literal.matchesAt caseSensitive wanted text then
      some ⟨text.take wanted.length, wanted.length⟩
    else none
  | upTo wanted =>
    let run := Literal.search caseSensitive wanted text
    if text.isEmpty then none else some ⟨run, run.length⟩
  | signed bits => Integer.readSigned? bits text
  | unsigned bits => Integer.readUnsigned? bits text
  | hexadecimal bits => Integer.readHex? bits text
  | decimal =>
    (Numeral.read? .decimal text).bind fun numeral =>
      (Decimal.ofNumeral? numeral).map fun value => ⟨value, numeral.width⟩
  | number radix format =>
    (Numeral.read? radix text).bind fun numeral =>
      (numeral.toNumber? format).map fun value => ⟨value, numeral.width⟩

end Probe

end DeclScan
