import DeclScan.Decimal.Positional
import DeclScan.Proofs.DecimalScan
import DeclScan.Proofs.KeywordScan
import DeclScan.Proofs.NumeralGrammar

/-!
Decimals as text.

## Main result

`Decimal.scan_render`: the positional form of a decimal, behind blanks and in front of anything that
does not go on with a numeral, is scanned to that decimal, and what is behind it is left. So
different decimals have different forms; and no form has an exponent.

## Proof strategy

Each layout is a numeral without an exponent part whose digits denote the number of the decimal,
wherever the zeros and the point are put (`Decimal.writes_renderMagnitude`). Such a numeral is read
as it is, if what follows keeps off its end (`Numeral.read?_of_isBody`), and it gives the one decimal
that denotes its number. Nothing has to be said about which zeros are trimmed.
-/

namespace DeclScan

/-! ### Numerals without an exponent part -/

namespace Numeral

/-- Neither a digit, a point nor an exponent mark of a decimal numeral stands in front of `rest`. -/
def Ends (rest : List Char) : Prop :=
  ∀ c, rest.head? = some c → c.isDigit = false ∧ c ≠ '.' ∧ c ≠ 'e' ∧ c ≠ 'E'

theorem Ends.readExponent {rest : List Char} (ends : Ends rest) (magnitude : List Char → ℕ) :
    readExponent .decimal magnitude rest = ⟨0, 0⟩ := by
  cases rest with
  | nil => rfl
  | cons c rest =>
    obtain ⟨-, -, lower, upper⟩ := ends c rfl
    have unmarked : isExponentMark .decimal c = false := by simp [isExponentMark, lower, upper]
    simp [Numeral.readExponent, unmarked]

theorem Ends.not_extends {rest : List Char} (ends : Ends rest) : ¬Extends .decimal rest := by
  rintro ⟨c, first, goes⟩
  obtain ⟨other, point, -⟩ := ends c first
  rcases goes with digit | rfl
  · exact Bool.eq_false_iff.mp other digit
  · exact point rfl

theorem read?_of_isBody {sign body rest integer fraction : List Char} {negative : Bool}
    (signed : IsSign sign negative) (digits : IsBody .decimal body integer fraction)
    (ends : Ends rest) :
    read? .decimal (sign ++ body ++ rest) =
      some ⟨.decimal, negative, integer, fraction, 0, sign.length + body.length⟩ := by
  have behind : (sign ++ body ++ rest).drop (sign.length + body.length) = rest := by
    rw [← List.length_append, List.drop_left]
  rw [read?, readWith?, body?_of_isBody signed digits ends.not_extends, Option.map_some]
  dsimp only
  rw [behind, ends.readExponent]
  rfl

/-- `body` consists of digits, with a point or without one, that denote `x`. -/
def Writes (body : List Char) (x : ℚ) : Prop :=
  ∃ integer fraction, IsBody .decimal body integer fraction ∧
    (Digits.value 10 (integer ++ fraction) : ℚ) * 10 ^ (-(fraction.length : ℤ)) = x

theorem isDigit_replicate (count : ℕ) :
    ∀ c ∈ List.replicate count '0', Radix.decimal.isDigit c = true := by
  intro c member
  rw [List.eq_of_mem_replicate member]
  rfl

theorem value_replicate (count : ℕ) : Digits.value 10 (List.replicate count '0') = 0 :=
  Digits.value_of_zeros 10 fun _ => List.eq_of_mem_replicate

section

variable {word : List Char} (digits : IsWord .decimal word)
include digits

/-- Zeros behind a word multiply it. -/
theorem writes_padded (count : ℕ) :
    Writes (word ++ List.replicate count '0') (Digits.value 10 word * 10 ^ (count : ℤ)) := by
  have padded : IsWord .decimal (word ++ List.replicate count '0') :=
    ⟨by simp [digits.1], List.forall_mem_append.mpr ⟨digits.2, isDigit_replicate count⟩⟩
  refine ⟨_, [], .whole padded, ?_⟩
  simp [Digits.value_append, value_replicate]

/-- A point inside of a word divides it. -/
theorem writes_pointed {places : ℕ} (inside : places < word.length) :
    Writes (word.take (word.length - places) ++ '.' :: word.drop (word.length - places))
      (Digits.value 10 word * 10 ^ (-(places : ℤ))) := by
  have nonempty : word.take (word.length - places) ≠ [] :=
    List.ne_nil_of_length_pos (by rw [List.length_take]; omega)
  refine ⟨_, _, .pointed ⟨nonempty, fun c member => digits.2 c (List.mem_of_mem_take member)⟩
    fun c member => digits.2 c (List.mem_of_mem_drop member), ?_⟩
  rw [List.take_append_drop, List.length_drop, Nat.sub_sub_self inside.le]

/-- A point in front of a word divides it, with zeros between them if need be. -/
theorem writes_leading {places : ℕ} (outside : word.length ≤ places) :
    Writes ('0' :: '.' :: (List.replicate (places - word.length) '0' ++ word))
      (Digits.value 10 word * 10 ^ (-(places : ℤ))) := by
  have fraction := List.forall_mem_append.mpr
    ⟨isDigit_replicate (places - word.length), digits.2⟩
  refine ⟨['0'], _, .pointed ⟨by simp, isDigit_replicate 1⟩ fraction, ?_⟩
  rw [List.length_append, List.length_replicate, Nat.sub_add_cancel outside, Digits.value_append,
    Digits.value_append, value_replicate, show Digits.value 10 ['0'] = 0 from value_replicate 1]
  simp

end

end Numeral

/-! ### The positional form -/

namespace Decimal

open Numeral (signText Writes Ends)

theorem writes_renderMagnitude (decimal : Decimal) :
    Writes decimal.renderMagnitude (decimal.mantissa * 10 ^ decimal.exponent) := by
  have word := Numeral.isWord_toDigits decimal.mantissa
  rw [← Digits.value_toDigits decimal.mantissa, renderMagnitude, digits]
  split
  next whole =>
    -- without places behind the point the exponent counts zeros
    have exponent : decimal.exponent = decimal.exponent.toNat := by omega
    rw [exponent]
    exact Numeral.writes_padded word _
  next fractional =>
    -- the point falls among the digits or in front of all of them
    have exponent : decimal.exponent = -((-decimal.exponent).toNat : ℤ) := by omega
    split
    next inside =>
      have pointed := Numeral.writes_pointed word inside
      rwa [← exponent] at pointed
    next outside =>
      have leading := Numeral.writes_leading word (Nat.le_of_not_lt outside)
      rwa [← exponent] at leading

theorem render_eq (decimal : Decimal) :
    decimal.render = signText decimal.negative ++ decimal.renderMagnitude := by
  unfold render signText
  split <;> rfl

theorem mem_render (decimal : Decimal) :
    ∀ c ∈ decimal.render, c.isDigit = true ∨ c = '.' ∨ c = '-' := by
  intro c member
  rw [render_eq, List.mem_append] at member
  rcases member with sign | body
  · have minus : c = '-' := by
      unfold signText at sign
      split at sign
      · exact List.mem_singleton.mp sign
      · cases sign
    exact .inr (.inr minus)
  · obtain ⟨integer, fraction, digits, -⟩ := writes_renderMagnitude decimal
    rcases digits.chars c body with digit | point
    · exact .inl digit
    · exact .inr (.inl point)

/-- A numeral has no blank in it. -/
theorem not_blank_of_mem_render (decimal : Decimal) {c : Char} (member : c ∈ decimal.render) :
    CharSet.whitespaceAndNewlines.contains c = false := by
  have order (a b : Char) : a ≤ b ↔ a.toNat ≤ b.toNat := UInt32.le_iff_toNat_le
  rcases mem_render decimal c member with digit | rfl | rfl
  · have range : 48 ≤ c.toNat ∧ c.toNat ≤ 57 := Char.isDigit_iff_toNat.mp digit
    simp only [CharSet.contains, isBlank, isNewline, Bool.or_eq_false_iff, beq_eq_false_iff_ne,
      ne_eq, ← Char.toNat_inj, order, Char.reduceToNat, Bool.and_eq_false_imp, decide_eq_true_eq,
      decide_eq_false_iff_not]
    omega
  · decide
  · decide

theorem isSolid_render (decimal : Decimal) : IsSolid decimal.render := by
  obtain ⟨integer, fraction, digits, -⟩ := writes_renderMagnitude decimal
  have nonempty : decimal.render ≠ [] := by
    rw [render_eq]
    intro empty
    rw [(List.append_eq_nil_iff.mp empty).2] at digits
    exact absurd (digits.hasDigits []) (by simp [Numeral.HasDigits, Numeral.fractionOf])
  obtain ⟨c, rest, same⟩ := List.exists_cons_of_ne_nil nonempty
  exact ⟨c, by simp [same], not_blank_of_mem_render decimal (by simp [same])⟩

/-- The positional form in front of anything that ends it is read as the decimal. -/
theorem read?_render (decimal : Decimal) {tail : List Char} (ends : Ends tail) :
    Probe.decimal.read? true (decimal.render ++ tail) =
      some ⟨decimal, decimal.render.length⟩ := by
  obtain ⟨integer, fraction, digits, number⟩ := writes_renderMagnitude decimal
  have found := Numeral.read?_of_isBody (Numeral.isSign_signText decimal.negative) digits ends
  rw [← render_eq, ← List.length_append, ← render_eq] at found
  -- the numeral denotes the number of the decimal, so it gives that decimal
  have same : decimal.toRat = Numeral.toRat
      ⟨.decimal, decimal.negative, integer, fraction, 0, decimal.render.length⟩ := by
    rw [toRat, ← number, Numeral.toRat, Numeral.decimalExact, zero_sub]
  have spelled := Numeral.spelled_of_readWith? found
  rw [Probe.read?, found, Option.bind_some, (Decimal.ofNumeral?_eq_some_iff spelled).mpr same,
    Option.map_some]

/-- The positional form of a decimal, behind blanks and in front of anything that ends it, is
scanned to that decimal. -/
theorem scan_render_some (decimal : Decimal) (blanks tail : List Char) (blank : IsBlanks blanks)
    (ends : Ends tail) :
    ((Scanner.ofText (blanks ++ decimal.render ++ tail)).scan .decimal).1 = some decimal ∧
      ((Scanner.ofText (blanks ++ decimal.render ++ tail)).scan .decimal).2.remaining = tail := by
  have stands := Scanner.at_ofText (blanks ++ decimal.render ++ tail)
  rw [List.append_assoc] at stands ⊢
  obtain ⟨next, scanned, front, -, rfl⟩ := stands.scan_some blank
    (.inr ((isSolid_render decimal).append tail)) (read?_render decimal ends)
  rw [scanned]
  exact ⟨rfl, List.drop_left⟩

/-- Scanning gives back the decimal whose positional form it meets, and leaves what stands behind
it; different decimals have different forms; and no form has an exponent. -/
theorem scan_render :
    (∀ (decimal : Decimal) (blanks tail : List Char), IsBlanks blanks →
      (∀ c, tail.head? = some c → c.isDigit = false ∧ c ≠ '.' ∧ c ≠ 'e' ∧ c ≠ 'E') →
        let result := (Scanner.ofText (blanks ++ decimal.render ++ tail)).scan .decimal
        result.1 = some decimal ∧ result.2.remaining = tail) ∧
      Function.Injective render ∧
      ∀ decimal : Decimal, ∀ c ∈ decimal.render, c.isDigit = true ∨ c = '.' ∨ c = '-' := by
  refine ⟨scan_render_some, ?_, mem_render⟩
  intro left right same
  -- one text is scanned to one decimal
  have first := (scan_render_some left [] [] nofun nofun).1
  have second := (scan_render_some right [] [] nofun nofun).1
  rw [same] at first
  exact Option.some.inj (first.symm.trans second)

/-- A point in front of the digits, and a sign behind them that belongs to what follows. -/
theorem scan_render_thousandths :
    let decimal : Decimal := ⟨3, -3, true, by decide, by decide, by decide⟩
    decimal.render = "-0.003".toList ∧
      ((Scanner.ofText " \t-0.003-1".toList).scan .decimal).1 = some decimal ∧
      ((Scanner.ofText " \t-0.003-1".toList).scan .decimal).2.remaining = "-1".toList := by
  intro decimal
  have form : decimal.render = "-0.003".toList := by decide
  have blank : IsBlanks " \t".toList := List.all_eq_true.mp (by decide)
  have back := scan_render.1 decimal " \t".toList "-1".toList blank (by rintro c ⟨⟩; decide)
  rw [form] at back
  exact ⟨form, back⟩

end Decimal

end DeclScan
