import DeclScan.Proofs.Machine.Scanner

/-!
The one form of a decimal.

## Main result

`Decimal.canonical_form`: however the fields of a decimal are come by (`Machine.Obtainable`), the
mantissa has at most 38 digits and no zero at its end, zero has one form, and the fields are equal
exactly when they denote the same number. A mantissa with an exponent gives a decimal exactly when
its form without zeros at the end is in range, and the digits of a numeral give what their mantissa
gives.

## Proof strategy

A number other than zero has one normal form (`Decimal.NormalForm.unique`), which the stripping of
zeros finds. The digits of a numeral are trimmed as a text, not as a number, and the two ways share
no code; yet either gives the decimal that denotes the number at hand, if there is one, so they
agree. The fields carry no proofs: that they are those of a decimal is what `newDecimal_eq` and
`State.scanParts_computes` say.
-/

namespace DeclScan

open Machine Text

namespace Machine.Parts

/-- The number that the fields make up. -/
def toRat (parts : Parts) : ℚ :=
  Decimal.signFactor parts.negative * (parts.mantissa * 10 ^ parts.exponent)

theorem ofDecimal_injective : Function.Injective ofDecimal := by
  intro left right same
  rw [ofDecimal, ofDecimal, Parts.mk.injEq] at same
  exact Decimal.eq_iff_parts.mpr ⟨same.2.2, same.1, same.2.1⟩

end Machine.Parts

namespace Decimal

/-- The mantissa `m` does not end in zero, and with the exponent `k` it makes the number that
`mantissa` makes with `exponent`. -/
def NormalForm (mantissa : ℕ) (exponent : ℤ) (m : ℕ) (k : ℤ) : Prop :=
  ¬10 ∣ m ∧ (m : ℚ) * 10 ^ k = mantissa * 10 ^ exponent

theorem NormalForm.unique {mantissa m n : ℕ} {exponent k l : ℤ}
    (left : NormalForm mantissa exponent m k) (right : NormalForm mantissa exponent n l) :
    m = n ∧ k = l := by
  have ends := left.1
  have ends' := right.1
  rw [Nat.dvd_iff_mod_eq_zero] at ends ends'
  exact scaled_inj ends ends' (left.2.trans right.2.symm)

theorem normalForm_strip {mantissa : ℕ} (nonzero : mantissa ≠ 0) (exponent : ℤ) :
    NormalForm mantissa exponent (strip mantissa exponent).1 (strip mantissa exponent).2 := by
  refine ⟨?_, strip_value mantissa exponent⟩
  rw [Nat.dvd_iff_mod_eq_zero]
  exact strip_mod mantissa exponent nonzero

/-- What comes of building a decimal from `mantissa`, `exponent` and a sign. -/
structure PartsLaw (mantissa : ℕ) (exponent : ℤ) (negative : Bool) (result : Option Parts) :
    Prop where
  -- every number but zero has one normal form
  normal : mantissa ≠ 0 → ∃ m k, NormalForm mantissa exponent m k ∧
    ∀ n l, NormalForm mantissa exponent n l → n = m ∧ l = k
  -- there is a decimal for zero, and for a normal form in range
  returns_iff : result.isSome ↔
    mantissa = 0 ∨ ∃ m k, NormalForm mantissa exponent m k ∧
      m < 10 ^ 38 ∧ -128 ≤ k ∧ k ≤ 127
  -- zero is built as the default
  zero : mantissa = 0 → result = some .zero
  -- any other number is built from its sign and its normal form
  parts : ∀ parts, result = some parts → mantissa ≠ 0 →
    NormalForm mantissa exponent parts.mantissa parts.exponent ∧ parts.negative = negative
  -- what is built denotes the number at hand
  denotes : ∀ parts, result = some parts →
    parts.toRat = signFactor negative * (mantissa * 10 ^ exponent)

theorem parts_of_ofParts? {mantissa : ℕ} {exponent : ℤ} {negative : Bool} {decimal : Decimal}
    (built : ofParts? mantissa exponent negative = some decimal) (nonzero : mantissa ≠ 0) :
    NormalForm mantissa exponent decimal.mantissa decimal.exponent ∧
      decimal.negative = negative := by
  have denotes := ofParts?_eq_some_iff.mp built
  rw [← strip_value, toRat_eq_iff (strip_mod mantissa exponent nonzero)] at denotes
  obtain ⟨sign, m, k⟩ := denotes
  rw [m, k]
  exact ⟨normalForm_strip nonzero exponent, sign⟩

theorem ofParts?_zero (exponent : ℤ) (negative : Bool) :
    ofParts? 0 exponent negative = some default := rfl

theorem isSome_ofParts?_iff (mantissa : ℕ) (exponent : ℤ) (negative : Bool) :
    (ofParts? mantissa exponent negative).isSome ↔
      mantissa = 0 ∨ ∃ m k, NormalForm mantissa exponent m k ∧
        m < 10 ^ 38 ∧ -128 ≤ k ∧ k ≤ 127 := by
  constructor
  · intro returns
    obtain ⟨decimal, built⟩ := Option.isSome_iff_exists.mp returns
    by_cases zero : mantissa = 0
    · exact .inl zero
    · exact .inr ⟨decimal.mantissa, decimal.exponent, (parts_of_ofParts? built zero).1,
        decimal.mantissa_lt, decimal.exponent_range⟩
  · rintro (rfl | ⟨m, k, normal, small, range⟩)
    · rw [ofParts?_zero]
      rfl
    · -- the normal form makes up a decimal, and only one decimal denotes its number
      have ends : ¬m % 10 = 0 := Nat.dvd_iff_mod_eq_zero.not.mp normal.1
      let decimal : Decimal := ⟨m, k, negative, small, range, fun zero => absurd zero ends⟩
      have denotes : decimal.toRat = signFactor negative * (mantissa * 10 ^ exponent) :=
        congrArg _ normal.2
      rw [ofParts?_eq_some_iff.mpr denotes]
      rfl

theorem partsLaw (mantissa : ℕ) (exponent : ℤ) (negative : Bool) :
    PartsLaw mantissa exponent negative
      ((ofParts? mantissa exponent negative).map Parts.ofDecimal) where
  normal nonzero := ⟨_, _, normalForm_strip nonzero exponent,
    fun _ _ other => other.unique (normalForm_strip nonzero exponent)⟩
  returns_iff := by
    rw [Option.isSome_map]
    exact isSome_ofParts?_iff mantissa exponent negative
  zero nothing := by
    rw [nothing, ofParts?_zero]
    rfl
  parts _ built nonzero := by
    obtain ⟨decimal, made, rfl⟩ := Option.map_eq_some_iff.mp built
    exact parts_of_ofParts? made nonzero
  denotes _ built := by
    obtain ⟨decimal, made, rfl⟩ := Option.map_eq_some_iff.mp built
    exact ofParts?_eq_some_iff.mp made

end Decimal

/-- The digits of a numeral, trimmed as a text, give what the whole mantissa gives. -/
theorem Decimal.ofNumeral?_eq_ofParts? {text : List Char} {numeral : Numeral}
    (spelled : Numeral.Spelled .decimal text numeral) :
    Decimal.ofNumeral? numeral =
      Decimal.ofParts? (Digits.value 10 (numeral.integer ++ numeral.fraction))
        (numeral.exponent - numeral.fraction.length) numeral.negative := by
  ext decimal
  rw [ofNumeral?_eq_some_iff spelled, ofParts?_eq_some_iff]
  rfl

theorem Scanner.scan_decimal_fst (scanner : Scanner) :
    (scanner.scan .decimal).1 =
      (Numeral.read? .decimal scanner.start.after).bind fun numeral =>
        Decimal.ofParts? (Digits.value 10 (numeral.integer ++ numeral.fraction))
          (numeral.exponent - numeral.fraction.length) numeral.negative := by
  rw [scan, Probe.read?]
  cases found : Numeral.read? .decimal scanner.start.after with
  | none => rfl
  | some numeral =>
    have spelled := Numeral.spelled_of_readWith? found
    rw [Option.bind_some, Option.bind_some, ← Decimal.ofNumeral?_eq_ofParts? spelled]
    cases Decimal.ofNumeral? numeral <;> rfl

/-! ### The two ways to a decimal -/

namespace Machine

/-- Scans for a decimal numeral, and fills in the fields of a decimal. -/
def State.scanParts [Allocator] (state : State) : Checked (Option Parts × State) :=
  state.ask (·.takeNumeral .decimal decimalOf)

/-- The fields of a decimal as there are ways to come by them: from a mantissa of 128 bits, as the
default, or from a text that is scanned. -/
inductive Obtainable : Parts → Prop where
  | new {mantissa : ℕ} {exponent : ℤ} {negative : Bool} {parts : Parts}
      (fits : mantissa < 2 ^ 128) (low : -2 ^ 31 ≤ exponent) (high : exponent < 2 ^ 31)
      (built : newDecimal mantissa exponent negative = .ok (some parts)) : Obtainable parts
  | default : Obtainable .zero
  | scanned [Allocator] {scanner : Scanner} {parts : Parts} {next : State}
      (short : byteLength scanner.source < 2 ^ 63)
      (found : (State.ofScanner scanner).scanParts = .ok (some parts, next)) : Obtainable parts

theorem State.scanParts_computes [Allocator] {scanner : Scanner}
    (short : byteLength scanner.source < 2 ^ 63) :
    Computes (Refuses (byteLength scanner.source)) (State.ofScanner scanner).scanParts
      ((scanner.scan .decimal).1.map Parts.ofDecimal, .ofScanner (scanner.scan .decimal).2) := by
  have asked := askDecimal_computes short fun _ _ lexed found _ => decimalOf_computes lexed found
  rw [← settle_eq_scan, Probe.read?]
  cases found : Numeral.read? .decimal scanner.start.after with
  | none =>
    rw [found] at asked
    exact asked
  | some read =>
    rw [found, Option.bind_some] at asked
    rw [Option.bind_some]
    cases decimal : Decimal.ofNumeral? read with
    | none =>
      rw [decimal] at asked
      exact asked
    | some decimal' =>
      rw [decimal] at asked
      exact asked

theorem Obtainable.exists_decimal {parts : Parts} (obtainable : Obtainable parts) :
    ∃ decimal, parts = Parts.ofDecimal decimal := by
  cases obtainable with
  | new fits low high built =>
    rw [newDecimal_eq _ fits low high, Except.ok.injEq] at built
    obtain ⟨decimal, -, rfl⟩ := Option.map_eq_some_iff.mp built
    exact ⟨decimal, rfl⟩
  | default => exact ⟨.zero, rfl⟩
  | scanned short found =>
    have same := (State.scanParts_computes short).eq_of_ok found
    obtain ⟨decimal, -, rfl⟩ := Option.map_eq_some_iff.mp (congrArg Prod.fst same).symm
    exact ⟨decimal, rfl⟩

end Machine

/-- Decimals have one form for each number, whether they are built from parts or scanned. The
fields that come of either are those of the form, though neither way asks for it, and agree exactly
if they denote the same number. Building from parts finds the form whenever it is in range, and
scanning gives what the parts that the digits make would give. -/
theorem Decimal.canonical_form :
    (∀ parts, Obtainable parts → parts.mantissa < 10 ^ 38 ∧
      (10 ∣ parts.mantissa → parts.mantissa = 0) ∧
      (parts.mantissa = 0 → parts.exponent = 0 ∧ parts.negative = false)) ∧
    (∀ left right, Obtainable left → Obtainable right →
      (left = right ↔ left.toRat = right.toRat)) ∧
    (∀ mantissa exponent negative, mantissa < 2 ^ 128 → -2 ^ 31 ≤ exponent → exponent < 2 ^ 31 →
      ∃ result, newDecimal mantissa exponent negative = .ok result ∧
        PartsLaw mantissa exponent negative result) ∧
    (∀ mantissa exponent negative, PartsLaw mantissa exponent negative
      ((ofParts? mantissa exponent negative).map Parts.ofDecimal)) ∧
    (∀ scanner : Scanner, (scanner.scan .decimal).1 =
      (Numeral.read? .decimal scanner.start.after).bind fun numeral =>
        ofParts? (Digits.value 10 (numeral.integer ++ numeral.fraction))
          (numeral.exponent - numeral.fraction.length) numeral.negative) ∧
    ∀ left right : Decimal, left = right ↔ left.toRat = right.toRat := by
  refine ⟨?_, ?_, ?_, partsLaw, Scanner.scan_decimal_fst, fun _ _ => toRat_inj.symm⟩
  · intro parts obtainable
    obtain ⟨decimal, rfl⟩ := obtainable.exists_decimal
    refine ⟨decimal.mantissa_lt, ?_, ?_⟩
    · intro ends
      exact (decimal.canonical (Nat.dvd_iff_mod_eq_zero.mp ends)).1
    · intro zero
      exact (decimal.canonical (congrArg (· % 10) zero)).2
  · intro left right builds builds'
    obtain ⟨decimal, rfl⟩ := builds.exists_decimal
    obtain ⟨decimal', rfl⟩ := builds'.exists_decimal
    exact (Parts.ofDecimal_injective.eq_iff).trans toRat_inj.symm
  · intro mantissa exponent negative fits low high
    exact ⟨_, newDecimal_eq negative fits low high, partsLaw mantissa exponent negative⟩

end DeclScan
