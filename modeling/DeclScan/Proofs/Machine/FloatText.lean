import DeclScan.Proofs.IntegerScan
import DeclScan.Proofs.Machine.Double
import DeclScan.Proofs.NumberScan

/-!
Decimal numerals as texts for a parser of floating-point numbers.

A decimal numeral is not rounded where it stands. It is written again as `[-]0.DeS`, where `D` has no
zeros at its ends and all zeros count in the scale `S`, and that text is parsed (`decimalNumber`). Of the
parser no more is known than that it rounds such a text as long as the scale has a moderate size, and
takes the number for infinite or for zero beyond (`Parses`).

## Main results

`Parses.rounds_textOf`: with every such parser a numeral comes to the nearest number of the format,
however large its scale.
`parses_parse`: reading the text as a numeral and rounding that is such a parser.

## Proof strategy

The scale is the place of the first digit that counts, since all the digits fit a buffer and so nothing
saturates (`decimalText_computes`). Where the parser does not round, the place lies so far out that every
number there is too large, or nearest to zero.
-/

namespace DeclScan.Machine

open Binary

/-! ### The text of a numeral -/

/-- The text `[-]0`. -/
def zeroText (negative : Bool) : List Char := Numeral.signText negative ++ ['0']

/-- The text `[-]0.DeS`. -/
def scaledText (negative : Bool) (digits : List Char) (scale : ℤ) : List Char :=
  Numeral.signText negative ++ ('0' :: '.' :: digits) ++ 'e' :: scale.repr.toList

/-- The text that stands for a decimal numeral. Its digits are copied to one buffer, and its scale is
counted in 64 bits. -/
def decimalText [Allocator] (numeral : Numeral) : Checked (List Char) := do
  let capacity ← word (numeral.integer.length + numeral.fraction.length)
  allocate capacity
  let digits := numeral.integer ++ numeral.fraction
  let leading ← difference digits.length (digits.dropWhile (· == '0')).length
  let significant := Digits.significant digits
  if significant = [] then return zeroText numeral.negative
  let start := saturate (saturate numeral.integer.length - saturate leading)
  return scaledText numeral.negative significant (saturate (start + numeral.exponent))

/-- The text of a numeral whose scale is its place, whatever its size. -/
def textOf (numeral : Numeral) : List Char :=
  if numeral.significant = [] then zeroText numeral.negative
  else scaledText numeral.negative numeral.significant numeral.place

/-- The scale of a numeral that is lexed is its place, unless there is no room for its digits. -/
theorem decimalText_computes [Allocator] {text : List Char} {numeral read : Numeral} {size : ℕ}
    (lexed : capped? .decimal text = some numeral)
    (found : Numeral.read? .decimal text = some read)
    (within : numeral.integer.length + numeral.fraction.length ≤ size) (short : size < 2 ^ 64) :
    Computes (Refuses size) (decimalText numeral) (textOf read) := by
  rw [decimalText, word_of_lt (within.trans_lt short), ok_bind]
  refine computes_allocate within fun room => .of_ok ?_
  obtain rfl := eq_of_capped? lexed found room
  have split : (numeral.integer ++ numeral.fraction).length = numeral.leadingZeros +
      ((numeral.integer ++ numeral.fraction).dropWhile (· == '0')).length := by
    rw [Numeral.leadingZeros, ← List.length_append, List.takeWhile_append_dropWhile]
  have zeros : (numeral.integer ++ numeral.fraction).length -
      ((numeral.integer ++ numeral.fraction).dropWhile (· == '0')).length = numeral.leadingZeros := by
    omega
  dsimp only
  rw [difference_of_le (by omega), ok_bind, zeros, textOf, Numeral.significant]
  split
  next => rfl
  next =>
    have limit := natAbs_exponent_le_of_capped? lexed
    have million : Numeral.exponentLimit = 1000000 := rfl
    have place : saturate (saturate (saturate numeral.integer.length -
        saturate numeral.leadingZeros) + numeral.exponent) = numeral.place := by
      rw [List.length_append] at split
      unfold Numeral.place saturate
      omega
    rw [place]
    rfl

/-! ### Parsers -/

/-- What a text is parsed to. -/
inductive Parsed where
  | finite (number : Number)
  | infinite (negative : Bool)

def Parsed.finite? : Parsed → Option Number
  | finite number => some number
  | infinite _ => none

/-- The number that a parser gives for a decimal numeral, if it is finite. -/
def decimalNumber [Allocator] (parse : List Char → Option Parsed) (numeral : Numeral) :
    Checked (Option Number) := do
  let text ← decimalText numeral
  return (parse text).bind Parsed.finite?

/-- `result` is `x` rounded to a format, with a sign. -/
def Rounds (format : Format) (negative : Bool) (x : ℚ) : (result : Option Parsed) → Prop
  | none => False
  | some (.finite number) =>
    number.negative = negative ∧ format.IsNearest x (some number.magnitude)
  | some (.infinite sign) => sign = negative ∧ format.IsNearest x none

/-- What is known of a parser: that it rounds a text `[-]0.DeS` without zeros in front of its digits if
the scale has fewer than 17 bits, and that a larger scale makes the number infinite and a smaller one
zero. -/
structure Parses (format : Format) (parse : List Char → Option Parsed) : Prop where
  zero : ∀ negative, Rounds format negative 0 (parse (zeroText negative))
  rounds : ∀ negative digits (scale : ℤ), Numeral.IsWord .decimal digits → digits.head? ≠ some '0' →
    -65536 < scale → scale < 65536 →
      Rounds format negative (Digits.value 10 digits * 10 ^ (scale - digits.length))
        (parse (scaledText negative digits scale))
  infinite : ∀ negative digits (scale : ℤ), Numeral.IsWord .decimal digits → digits.head? ≠ some '0' →
    65536 ≤ scale → parse (scaledText negative digits scale) = some (.infinite negative)
  vanishing : ∀ negative digits (scale : ℤ), Numeral.IsWord .decimal digits → digits.head? ≠ some '0' →
    scale ≤ -65536 → Rounds format negative 0 (parse (scaledText negative digits scale))

/-- Numbers with a scale of 17 bits or more are beyond the range of either format. -/
theorem scale_borders {format : Format} (supported : format = binary64 ∨ format = binary32) :
    -65536 ≤ format.minExponent - format.precision ∧ format.maxExponent + 2 ≤ 65536 := by
  rcases supported with rfl | rfl <;> decide

section

variable {format : Format} {negative : Bool} {x y : ℚ} {result : Option Parsed}

theorem Rounds.isNearest (rounds : Rounds format negative x result) :
    ∃ magnitude, result.bind Parsed.finite? = magnitude.map (⟨negative, ·⟩) ∧
      format.IsNearest x magnitude := by
  match result, rounds with
  | some (.finite number), ⟨sign, near⟩ =>
    refine ⟨some number.magnitude, ?_, near⟩
    subst sign
    rfl
  | some (.infinite _), ⟨_, large⟩ => exact ⟨none, rfl, large⟩

theorem Rounds.congr (rounds : Rounds format negative x result)
    (same : format.nearest x = format.nearest y) : Rounds format negative y result := by
  match result, rounds with
  | some (.finite _), ⟨sign, near⟩ => exact ⟨sign, near.congr same⟩
  | some (.infinite _), ⟨sign, near⟩ => exact ⟨sign, near.congr same⟩

theorem rounds_infinite (large : format.bound ≤ format.nearest x) :
    Rounds format negative x result ↔ result = some (.infinite negative) := by
  constructor
  · intro rounds
    match result, rounds with
    | some (.finite _), ⟨_, holds, value⟩ =>
      exact absurd holds.lt_bound (large.trans_eq value.symm).not_gt
    | some (.infinite _), ⟨sign, _⟩ => rw [sign]
  · rintro rfl
    exact ⟨rfl, large⟩

/-- Whatever the scale of a numeral, a parser gives the number nearest to it. -/
theorem Parses.rounds_textOf {parse : List Char → Option Parsed} (parses : Parses format parse)
    (supported : format = binary64 ∨ format = binary32) {text : List Char} {numeral : Numeral}
    (spelled : Numeral.Spelled .decimal text numeral) :
    Rounds format numeral.negative numeral.decimalExact (parse (textOf numeral)) := by
  have regular := Format.regular_of_supported supported
  have borders := scale_borders supported
  have exact : numeral.decimalExact = numeral.atPlace numeral.place := numeral.decimalExact_eq
  rw [exact, textOf]
  split
  next zero => simpa [Numeral.atPlace, zero] using parses.zero numeral.negative
  next nonzero =>
    have word : Numeral.IsWord .decimal numeral.significant :=
      ⟨nonzero, Numeral.isDigit_significant spelled⟩
    have first := Numeral.head?_significant_ne numeral
    rcases lt_or_ge numeral.place 65536 with below | high
    · rcases lt_or_ge (-65536) numeral.place with above | low
      · exact parses.rounds _ _ _ word first above below
      · -- nothing is left so far behind the point
        refine (parses.vanishing _ _ _ word first low).congr ?_
        rw [Format.nearest_zero,
          Numeral.nearest_atPlace_eq_zero regular spelled (low.trans borders.1)]
    · rw [rounds_infinite
        (Numeral.bound_le_nearest_atPlace regular spelled nonzero (borders.2.trans high))]
      exact parses.infinite _ _ _ word first high

end

/-! ### A parser -/

/-- A numeral rounded to a format. -/
def rounded (format : Format) (numeral : Numeral) : Parsed :=
  (numeral.toNumber? format).elim (.infinite numeral.negative) .finite

/-- Reads a text as one decimal numeral, and rounds it. -/
def parse (format : Format) (text : List Char) : Option Parsed :=
  match Numeral.written? .decimal text with
  | some numeral => if numeral.width = text.length then some (rounded format numeral) else none
  | none => none

theorem readExponent_repr (scale : ℤ) :
    Numeral.readExponent .decimal (Digits.value 10) ('e' :: scale.repr.toList) =
      ⟨scale, 1 + scale.repr.toList.length⟩ := by
  have word := Numeral.isWord_toDigits scale.natAbs
  have follow : ∀ c, (Nat.toDigits 10 scale.natAbs).head? = some c → c ≠ '+' ∧ c ≠ '-' := by
    intro c first
    rw [← List.append_nil (Nat.toDigits 10 scale.natAbs)] at first
    exact Numeral.ne_sign_of_isDigit (word.head? first)
  obtain ⟨width, minus⟩ := (Numeral.isSign_signText (scale < 0)).read follow
  have run : (Nat.toDigits 10 scale.natAbs).takeWhile Radix.decimal.isDigit =
      Nat.toDigits 10 scale.natAbs := List.takeWhile_eq_self_iff.mpr word.2
  have sign : scale.repr.toList = Numeral.signText (scale < 0) ++ Nat.toDigits 10 scale.natAbs := by
    simp [Integer.toList_repr, Numeral.signText]
  rw [sign, Numeral.readExponent]
  dsimp only
  rw [width, minus, List.drop_left, run, if_pos ⟨rfl, word.1⟩, Digits.value_toDigits,
    List.length_append, Nat.add_assoc]
  congr 1
  simp only [decide_eq_true_eq]
  split <;> omega

/-- The numeral that the text `[-]0.DeS` is. -/
def scaledNumeral (negative : Bool) (digits : List Char) (scale : ℤ) : Numeral :=
  ⟨.decimal, negative, ['0'], digits, scale, (scaledText negative digits scale).length⟩

theorem written?_scaledText (negative : Bool) {digits : List Char}
    (members : ∀ c ∈ digits, Radix.decimal.isDigit c = true) (scale : ℤ) :
    Numeral.written? .decimal (scaledText negative digits scale) =
      some (scaledNumeral negative digits scale) := by
  have zero : Numeral.IsWord .decimal ['0'] := ⟨by decide, List.forall_mem_singleton.mpr rfl⟩
  have ends : ¬Numeral.Extends .decimal ('e' :: scale.repr.toList) := by
    rintro ⟨c, first, goes⟩
    cases first
    exact absurd goes (by decide)
  have body : Numeral.body? .decimal (scaledText negative digits scale) =
      some ⟨.decimal, negative, ['0'], digits, 0,
        (Numeral.signText negative).length + ('0' :: '.' :: digits).length⟩ :=
    Numeral.body?_of_isBody (Numeral.isSign_signText negative) (.pointed zero members) ends
  have behind : (scaledText negative digits scale).drop
      ((Numeral.signText negative).length + ('0' :: '.' :: digits).length) =
        'e' :: scale.repr.toList := by
    rw [← List.length_append]
    exact List.drop_left
  have length : (scaledText negative digits scale).length =
      (Numeral.signText negative).length + ('0' :: '.' :: digits).length +
        (1 + scale.repr.toList.length) := by
    simp only [scaledText, List.length_append, List.length_cons]
    omega
  rw [Numeral.written?, Numeral.readWith?, body, Option.map_some, scaledNumeral, length]
  dsimp only
  rw [behind, readExponent_repr]

theorem written?_zeroText (negative : Bool) :
    Numeral.written? .decimal (zeroText negative) =
      some ⟨.decimal, negative, ['0'], [], 0, (zeroText negative).length⟩ := by
  cases negative <;> rfl

section

variable {digits : List Char} (first : digits.head? ≠ some '0')
include first

theorem place_scaledNumeral (negative : Bool) (scale : ℤ) :
    (scaledNumeral negative digits scale).place = scale := by
  have zeros : (['0'] ++ digits).takeWhile (· == '0') = ['0'] := by
    cases digits with
    | nil => rfl
    | cons c rest =>
      have other : (c == '0') = false := by simpa using first
      simp [other]
  rw [scaledNumeral, Numeral.place, Numeral.leadingZeros, zeros]
  simp

theorem significant_scaledNumeral_ne (negative : Bool) (scale : ℤ) (nonempty : digits ≠ []) :
    (scaledNumeral negative digits scale).significant ≠ [] := by
  have same : (scaledNumeral negative digits scale).significant = Digits.significant digits :=
    Digits.significant_cons_zero digits
  rw [same]
  exact Digits.significant_ne_nil nonempty first

end

variable {format : Format}

theorem parse_of_written {text : List Char} {numeral : Numeral}
    (written : Numeral.written? .decimal text = some numeral)
    (whole : numeral.width = text.length) : parse format text = some (rounded format numeral) := by
  rw [parse, written]
  exact if_pos whole

theorem parse_scaledText (negative : Bool) {digits : List Char}
    (members : ∀ c ∈ digits, Radix.decimal.isDigit c = true) (scale : ℤ) :
    parse format (scaledText negative digits scale) =
      some (rounded format (scaledNumeral negative digits scale)) :=
  parse_of_written (written?_scaledText negative members scale) rfl

section

variable (supported : format = binary64 ∨ format = binary32)
include supported

theorem rounds_rounded {text : List Char} {numeral : Numeral}
    (spelled : Numeral.Spelled .decimal text numeral) :
    Rounds format numeral.negative numeral.decimalExact (some (rounded format numeral)) := by
  have spare : format.precision + 1 ≤ 60 := by
    rcases supported with rfl | rfl <;> decide
  have near := Numeral.decimalMagnitude_isNearest (Format.regular_of_supported supported) spare spelled
  rw [rounded, Numeral.toNumber?_of_decimal spelled.radix_eq]
  cases rounded : format.round? (numeral.decimalMagnitude format) with
  | none => exact ⟨rfl, rounded ▸ near⟩
  | some magnitude => exact ⟨rfl, rounded ▸ near⟩

theorem rounds_scaledText (negative : Bool) {digits : List Char}
    (members : ∀ c ∈ digits, Radix.decimal.isDigit c = true) (scale : ℤ) :
    Rounds format negative (scaledNumeral negative digits scale).decimalExact
      (parse format (scaledText negative digits scale)) := by
  have written := written?_scaledText negative members scale
  rw [parse_scaledText negative members]
  exact rounds_rounded supported (Numeral.spelled_of_readWith? written)

/-- Reading a text as a numeral and rounding it is a parser as it has to be. -/
theorem parses_parse : Parses format (parse format) where
  zero negative := by
    have written := written?_zeroText negative
    have rounds := rounds_rounded supported (Numeral.spelled_of_readWith? written)
    rw [parse_of_written written rfl]
    simpa [Numeral.decimalExact, Digits.value_cons] using rounds
  rounds negative digits scale word _ _ _ := by
    have rounds := rounds_scaledText supported negative word.2 scale
    simpa [Numeral.decimalExact, scaledNumeral, Digits.value_cons] using rounds
  infinite negative digits scale word first high := by
    have rounds := rounds_scaledText supported negative word.2 scale
    have spelled := Numeral.spelled_of_readWith? (written?_scaledText negative word.2 scale)
    have border := (scale_borders supported).2
    refine (rounds_infinite ?_).mp rounds
    rw [Numeral.decimalExact_eq, place_scaledNumeral first]
    exact Numeral.bound_le_nearest_atPlace (Format.regular_of_supported supported) spelled
      (significant_scaledNumeral_ne first negative scale word.1) (border.trans high)
  vanishing negative digits scale word first low := by
    have rounds := rounds_scaledText supported negative word.2 scale
    have spelled := Numeral.spelled_of_readWith? (written?_scaledText negative word.2 scale)
    have border := (scale_borders supported).1
    refine rounds.congr ?_
    rw [Numeral.decimalExact_eq, place_scaledNumeral first, Format.nearest_zero]
    exact Numeral.nearest_atPlace_eq_zero (Format.regular_of_supported supported) spelled
      (low.trans border)

end

theorem decimalMagnitude_of_zeros {numeral : Numeral} (zeros : numeral.significant = []) :
    numeral.decimalMagnitude format = ⟨0, 0⟩ := by
  simp [Numeral.decimalMagnitude, zeros, Digits.evaluate_eq_value, Scaled.ofRatio]

/-- What is parsed is the numeral that was written. -/
theorem parse_textOf {text : List Char} {numeral : Numeral}
    (spelled : Numeral.Spelled .decimal text numeral) :
    (parse format (textOf numeral)).bind Parsed.finite? = numeral.toNumber? format := by
  have magnitude (other : Numeral) (radix : other.radix = .decimal)
      (negative : other.negative = numeral.negative)
      (same : other.decimalMagnitude format = numeral.decimalMagnitude format) :
      (rounded format other).finite? = numeral.toNumber? format := by
    rw [rounded, Numeral.toNumber?_of_decimal radix,
      Numeral.toNumber?_of_decimal spelled.radix_eq, same, negative]
    cases format.round? (numeral.decimalMagnitude format) <;> rfl
  rw [textOf]
  split
  next zeros =>
    rw [parse_of_written (written?_zeroText numeral.negative) rfl, Option.bind_some]
    refine magnitude _ rfl rfl ?_
    rw [decimalMagnitude_of_zeros zeros, decimalMagnitude_of_zeros rfl]
  next nonzero =>
    rw [parse_scaledText _ (Numeral.isDigit_significant spelled), Option.bind_some]
    refine magnitude _ rfl rfl ?_
    have digits : (scaledNumeral numeral.negative numeral.significant numeral.place).significant =
        numeral.significant :=
      (Digits.significant_cons_zero _).trans (Digits.significant_significant _)
    rw [Numeral.decimalMagnitude, digits, place_scaledNumeral (Numeral.head?_significant_ne numeral)]
    rfl

/-! ### Numbers -/

/-- With every parser a decimal numeral comes to what is parsed of its text, unless there is no room for
its digits. -/
theorem decimalNumber_computes [Allocator] (parse : List Char → Option Parsed) {text : List Char}
    {numeral read : Numeral} {size : ℕ} (lexed : capped? .decimal text = some numeral)
    (found : Numeral.read? .decimal text = some read)
    (within : numeral.integer.length + numeral.fraction.length ≤ size) (short : size < 2 ^ 64) :
    Computes (Refuses size) (decimalNumber parse numeral)
      ((parse (textOf read)).bind Parsed.finite?) :=
  (decimalText_computes lexed found within short).bind (.of_ok rfl)

/-- The magnitude of a hexadecimal numeral rounded to a format, with its sign. -/
def hexadecimalNumber (format : Format) (numeral : Numeral) : Checked (Option Number) := do
  return (← hexNumber format numeral).map (⟨numeral.negative, ·⟩)

theorem hexadecimalNumber_eq {text : List Char} {numeral : Numeral}
    (spelled : Numeral.Spelled .hexadecimal text numeral) :
    hexadecimalNumber format numeral = .ok (numeral.toNumber? format) := by
  rw [hexadecimalNumber, hexNumber_eq format spelled, Numeral.toNumber?_of_hexadecimal spelled.radix_eq]
  rfl

end DeclScan.Machine
