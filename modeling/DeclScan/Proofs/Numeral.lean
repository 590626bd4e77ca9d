import DeclScan.Numeral
import DeclScan.Proofs.Digits
import DeclScan.Proofs.Utf8

/-!
What a numeral is made of, and how its exponent is cut.

A numeral takes as many bytes as characters and has no more digits than characters
(`Numeral.spelled_of_readWith?`). The exponent that is read is the one that is written, cut at a limit
that grows with the characters before it (`Numeral.read?_of_written?`).
-/

namespace DeclScan

namespace Text

/-- The first `count` characters of `text` are there, and each takes one byte. -/
def Narrow (text : List Char) (count : ℕ) : Prop := byteLength (text.take count) = count

theorem narrow_zero (text : List Char) : Narrow text 0 := rfl

theorem narrow_cons {c : Char} (ascii : c.toNat < 128) {text : List Char} {count : ℕ}
    (rest : Narrow text count) : Narrow (c :: text) (count + 1) := by
  have size : c.utf8Size = 1 := by
    rw [Char.utf8Size_eq_one_iff, UInt32.le_iff_toNat_le]
    exact Nat.le_of_lt_succ ascii
  rw [Narrow, List.take_succ_cons, byteLength_cons, size, rest, add_comm]

theorem Narrow.add {text : List Char} {m n : ℕ} (front : Narrow text m)
    (back : Narrow (text.drop m) n) : Narrow text (m + n) := by
  rw [Narrow, List.take_add, byteLength_append, front, back]

theorem narrow_takeWhile {p : Char → Bool} (ascii : ∀ c, p c = true → c.toNat < 128)
    (text : List Char) : Narrow text (text.takeWhile p).length := by
  induction text with
  | nil => exact narrow_zero []
  | cons c rest ih =>
    rw [List.takeWhile_cons]
    split
    next member => exact narrow_cons (ascii c member) ih
    next => exact narrow_zero _

end Text

open Text

theorem Radix.toNat_lt_of_isDigit (radix : Radix) (c : Char) (digit : radix.isDigit c = true) :
    c.toNat < 128 := by
  rcases (Radix.isDigit_iff radix c).mp digit with low | ⟨-, high⟩
  · omega
  · omega

theorem narrow_signWidth (text : List Char) : Narrow text (signWidth text) := by
  unfold signWidth
  split
  · exact narrow_cons (by decide) (narrow_zero _)
  · exact narrow_cons (by decide) (narrow_zero _)
  · exact narrow_zero _

namespace Numeral

/-! ### The characters of a numeral -/

theorem narrow_markWidth (radix : Radix) (text : List Char) :
    Narrow text (markWidth radix text) := by
  have letter {mark : Char} {digit : Prop} (spelled : (mark = 'x' ∨ mark = 'X') ∧ digit) :
      mark.toNat < 128 := by
    rcases spelled with ⟨rfl | rfl, -⟩ <;> decide
  unfold markWidth
  split
  · exact narrow_zero _
  · split
    next spelled => exact narrow_cons (by decide) (narrow_cons (letter spelled) (narrow_zero _))
    next => exact narrow_zero _
  · split
    next spelled => exact narrow_cons (by decide) (narrow_cons (letter spelled) (narrow_zero _))
    next => exact narrow_zero _
  · exact narrow_zero _

theorem narrow_fraction (radix : Radix) (text : List Char) :
    Narrow text (pointWidth text + (fractionOf radix text).length) := by
  unfold pointWidth fractionOf
  split
  next rest =>
    rw [add_comm]
    exact narrow_cons (by decide) (narrow_takeWhile radix.toNat_lt_of_isDigit rest)
  next => exact narrow_zero _

theorem toNat_lt_of_isExponentMark (radix : Radix) (mark : Char)
    (spelled : isExponentMark radix mark = true) : mark.toNat < 128 := by
  cases radix with
  | decimal =>
    rcases (by simpa [isExponentMark] using spelled : mark = 'e' ∨ mark = 'E') with rfl | rfl <;>
      decide
  | hexadecimal =>
    rcases (by simpa [isExponentMark] using spelled : mark = 'p' ∨ mark = 'P') with rfl | rfl <;>
      decide

theorem narrow_readExponent (radix : Radix) (magnitude : List Char → ℕ) (text : List Char) :
    Narrow text (readExponent radix magnitude text).width := by
  unfold readExponent
  split
  · exact narrow_zero _
  next mark rest =>
    dsimp only
    split
    next spelled =>
      rw [add_assoc, add_comm]
      exact narrow_cons (toNat_lt_of_isExponentMark radix mark spelled.1)
        ((narrow_signWidth rest).add (narrow_takeWhile Radix.decimal.toNat_lt_of_isDigit _))
    next => exact narrow_zero _

/-- The digits of `numeral` are in the base, and its characters stand in front of `text`. -/
structure Spelled (radix : Radix) (text : List Char) (numeral : Numeral) : Prop where
  radix_eq : numeral.radix = radix
  digits : ∀ c ∈ numeral.integer ++ numeral.fraction, radix.isDigit c = true
  length_le : numeral.integer.length + numeral.fraction.length ≤ numeral.width
  narrow : Narrow text numeral.width

theorem Spelled.withExponent {radix : Radix} {text : List Char} {numeral : Numeral}
    (spelled : Spelled radix text numeral) (exponent : ℤ) :
    Spelled radix text { numeral with exponent } :=
  ⟨spelled.radix_eq, spelled.digits, spelled.length_le, spelled.narrow⟩

theorem isDigit_fractionOf {radix : Radix} {text : List Char} {c : Char}
    (member : c ∈ fractionOf radix text) : radix.isDigit c = true := by
  unfold fractionOf at member
  split at member
  · exact List.mem_takeWhile_imp member
  · cases member

theorem spelled_of_body? {radix : Radix} {text : List Char} {body : Numeral}
    (lexed : body? radix text = some body) : Spelled radix text body := by
  simp only [body?, Option.ite_none_left_eq_some, Option.some.injEq] at lexed
  obtain ⟨-, rfl⟩ := lexed
  constructor
  · rfl
  · intro c member
    rcases List.mem_append.mp member with integer | fraction
    · exact List.mem_takeWhile_imp integer
    · exact isDigit_fractionOf fraction
  · dsimp only
    omega
  · -- piece by piece, each at the end of the one before
    have start := (narrow_signWidth text).add (narrow_markWidth radix _)
    have integer := start.add (narrow_takeWhile radix.toNat_lt_of_isDigit _)
    have fraction := integer.add (narrow_fraction radix _)
    rwa [← add_assoc] at fraction

theorem spelled_of_readWith? {magnitude : ℕ → List Char → ℕ} {radix : Radix} {text : List Char}
    {numeral : Numeral} (found : readWith? magnitude radix text = some numeral) :
    Spelled radix text numeral := by
  obtain ⟨body, lexed, rfl⟩ := Option.map_eq_some_iff.mp found
  have spelled := spelled_of_body? lexed
  refine ⟨spelled.radix_eq, spelled.digits, ?_, ?_⟩
  · exact spelled.length_le.trans (Nat.le_add_right _ _)
  · exact spelled.narrow.add (narrow_readExponent radix _ _)

/-! ### Numerals below one -/

section

variable {radix : Radix} (lead : List Char) {fraction rest : List Char}
  (unsigned : signWidth (lead ++ '0' :: '.' :: (fraction ++ rest)) = 0)
  (positive : startsNegative (lead ++ '0' :: '.' :: (fraction ++ rest)) = false)
  (marked : markWidth radix (lead ++ '0' :: '.' :: (fraction ++ rest)) = lead.length)
  (digits : ∀ c ∈ fraction, radix.isDigit c = true) (ends : rest.takeWhile radix.isDigit = [])
include unsigned positive marked digits ends

/-- A zero, a point and digits, behind the mark of the base. -/
theorem body?_of_fraction :
    body? radix (lead ++ '0' :: '.' :: (fraction ++ rest)) =
      some ⟨radix, false, ['0'], fraction, 0, lead.length + 2 + fraction.length⟩ := by
  have run : (fraction ++ rest).takeWhile radix.isDigit = fraction := by
    rw [List.takeWhile_append_of_pos digits, ends, List.append_nil]
  have point : fractionOf radix ('.' :: (fraction ++ rest)) = fraction := run
  generalize fraction ++ rest = text at unsigned positive marked point ⊢
  have integer : ('0' :: '.' :: text).takeWhile radix.isDigit = ['0'] := by
    cases radix <;> rfl
  have behind : (lead ++ '0' :: '.' :: text).drop (lead.length + 1) = '.' :: text := by
    rw [← List.drop_drop, List.drop_left]
    rfl
  simp only [body?, unsigned, positive, List.drop_zero, Nat.zero_add, marked, List.drop_left,
    integer, List.length_singleton, behind, point]
  rfl

theorem readWith?_of_fraction (magnitude : ℕ → List Char → ℕ) {exponent : Reading ℤ}
    (scaled : readExponent radix (magnitude (lead.length + 2 + fraction.length)) rest = exponent) :
    readWith? magnitude radix (lead ++ '0' :: '.' :: (fraction ++ rest)) =
      some ⟨radix, false, ['0'], fraction, exponent.value,
        lead.length + 2 + fraction.length + exponent.width⟩ := by
  have behind : (lead ++ '0' :: '.' :: (fraction ++ rest)).drop
      (lead.length + 2 + fraction.length) = rest := by
    rw [Nat.add_assoc, ← List.drop_drop, List.drop_left, ← List.drop_drop]
    exact List.drop_left
  rw [readWith?, body?_of_fraction lead unsigned positive marked digits ends, Option.map_some]
  dsimp only
  rw [behind, scaled]

end

/-! ### The exponent as written -/

/-- The longest numeral in front of `text`, with its exponent as it is written. -/
def written? : Radix → List Char → Option Numeral := readWith? fun _ => Digits.value 10

/-- `exponent`, or the limit that is nearer to zero. -/
def cutExponent (limit : ℕ) (exponent : ℤ) : ℤ := max (-limit) (min exponent limit)

theorem cutExponent_of_le {limit : ℕ} {exponent : ℤ} (small : exponent.natAbs ≤ limit) :
    cutExponent limit exponent = exponent := by
  unfold cutExponent
  omega

theorem readExponent_valueUpTo (radix : Radix) (limit : ℕ) (text : List Char) :
    readExponent radix (Digits.valueUpTo limit) text =
      ⟨cutExponent limit (readExponent radix (Digits.value 10) text).value,
        (readExponent radix (Digits.value 10) text).width⟩ := by
  unfold readExponent
  split
  · simp [cutExponent]
  next mark rest =>
    dsimp only
    split
    next =>
      -- cutting the magnitude cuts the signed exponent on both sides
      rw [Digits.valueUpTo_eq]
      congr 1
      unfold cutExponent
      dsimp only
      split <;> omega
    next => simp [cutExponent]

/-- The exponent that is read is the written one, cut. -/
theorem read?_of_written? {radix : Radix} {text : List Char} {body numeral : Numeral}
    (lexed : body? radix text = some body) (found : written? radix text = some numeral) :
    read? radix text =
      some { numeral with exponent := cutExponent (exponentLimit + body.width) numeral.exponent } := by
  rw [written?, readWith?, lexed, Option.map_some, Option.some.injEq] at found
  subst found
  rw [read?, readWith?, lexed, Option.map_some, readExponent_valueUpTo]

theorem length_le_of_body? {radix : Radix} {text : List Char} {body numeral : Numeral}
    (lexed : body? radix text = some body) (found : written? radix text = some numeral) :
    numeral.integer.length + numeral.fraction.length ≤ body.width := by
  rw [written?, readWith?, lexed, Option.map_some, Option.some.injEq] at found
  subst found
  exact (spelled_of_body? lexed).length_le

end Numeral

end DeclScan
