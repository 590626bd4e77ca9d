import DeclScan.Proofs.Machine.Double

/-!
Hexadecimal digits read into a word of 64 bits.

## Main result

`Scaled.ofHexDigits_rounds_to_odd`: the digits around a point come to the exact number, or to an odd
mantissa of more than sixty bits with the exact number strictly between its neighbours. Reading the
digits one after the other into a word of 64 bits gives the same mantissa, and no digit that the word
takes in pushes a bit out at its upper end. The exponent is the same as long as 64 bits hold it.

## Proof strategy

A word has room for a digit as long as fewer than sixteen significant digits are in it
(`Window.Keeps.hasRoom_iff`). So it holds exactly the first sixteen of them, and what is passed over
afterwards is the rest (`Window.Keeps.push`). The exponent moves down while digits behind the point are
taken in, or up while digits before the point are passed over, never both, so saturating it at each
digit is saturating it once (`Window.Holds`).
-/

namespace DeclScan

namespace Machine

open Binary

/-- Digits read into a word: the bits that are kept, the exponent of the last of them, and whether
anything but zeros was passed over. -/
structure Window where
  mantissa : UInt64
  exponent : ℤ
  leftOver : Bool

namespace Window

/-- Whether the four leading bits are free for another digit. -/
def hasRoom (window : Window) : Bool := window.mantissa >>> 60 == 0

/-- Reads a digit. The exponent moves by `kept` if there is room for the digit, by `passed` if not. -/
def push (kept passed : ℤ) (window : Window) (c : Char) : Window :=
  if window.hasRoom then
    { window with
      mantissa := window.mantissa <<< 4 ||| UInt64.ofNat (Digits.digitValue c)
      exponent := saturate (window.exponent + kept) }
  else
    { window with
      exponent := saturate (window.exponent + passed)
      leftOver := window.leftOver || Digits.digitValue c != 0 }

/-- Reads the digits on either side of a point. A digit before the point is worth its place in the
word, or sixteen times more for each digit passed over; a digit behind it moves the point. -/
def ofDigits (integer fraction : List Char) (exponent : ℤ) : Window :=
  fraction.foldl (push (-4) 0) (integer.foldl (push 0 4) ⟨0, exponent, false⟩)

/-- The number in the window. What was passed over shows in the last bit. -/
def number (window : Window) : Scaled :=
  ⟨(if window.leftOver then window.mantissa ||| 1 else window.mantissa).toNat, window.exponent⟩

/-! ### Bits -/

theorem hasRoom_iff (window : Window) :
    window.hasRoom = true ↔ window.mantissa.toNat < 2 ^ 60 := by
  rw [hasRoom, beq_iff_eq, ← UInt64.toNat_inj, UInt64.toNat_shiftRight, Nat.shiftRight_eq_div_pow]
  simp

/-- Where there is room, four more places lose no bit. -/
theorem toNat_shiftLeft {window : Window} (room : window.hasRoom = true) :
    (window.mantissa <<< 4).toNat = window.mantissa.toNat * 16 := by
  have small := (hasRoom_iff window).mp room
  rw [UInt64.toNat_shiftLeft, Nat.shiftLeft_eq]
  simp
  omega

theorem toNat_shiftLeft_or {window : Window} (room : window.hasRoom = true) {digit : ℕ}
    (small : digit < 16) :
    (window.mantissa <<< 4 ||| UInt64.ofNat digit).toNat = window.mantissa.toNat * 16 + digit := by
  have value : (UInt64.ofNat digit).toNat = digit := UInt64.toNat_ofNat_of_lt' (small.trans (by decide))
  have places : window.mantissa.toNat * 16 = window.mantissa.toNat <<< 4 := by
    rw [Nat.shiftLeft_eq]
  -- the digit fills the four bits that the shift has cleared
  rw [UInt64.toNat_or, toNat_shiftLeft room, value, places,
    Nat.shiftLeft_add_eq_or_of_lt (by omega : digit < 2 ^ 4)]

theorem toNat_or_one (mantissa : UInt64) :
    (mantissa ||| 1).toNat = mantissa.toNat / 2 * 2 + 1 := by
  have half : (mantissa.toNat ||| 1) / 2 = mantissa.toNat / 2 := by simp [Nat.or_div_two]
  have odd : (mantissa.toNat ||| 1) % 2 = 1 := Nat.or_mod_two_eq_one.mpr (Or.inr rfl)
  rw [UInt64.toNat_or]
  change mantissa.toNat ||| 1 = _
  omega

/-! ### Digits -/

/-- The digits of a word behind the zeros in front of it. -/
def afterZeros (word : List Char) : List Char := word.dropWhile (· == '0')

/-- The window has the first sixteen significant digits of a word, and knows of the others. -/
structure Keeps (window : Window) (word : List Char) : Prop where
  mantissa : window.mantissa.toNat = Digits.value 16 ((afterZeros word).take Scaled.keptDigits)
  leftOver : window.leftOver = ((afterZeros word).drop Scaled.keptDigits).any (· != '0')

theorem keeps_nil (exponent : ℤ) : Keeps ⟨0, exponent, false⟩ [] := ⟨rfl, rfl⟩

theorem afterZeros_append {word : List Char} (some_digit : afterZeros word ≠ []) (c : Char) :
    afterZeros (word ++ [c]) = afterZeros word ++ [c] := by
  rw [afterZeros, List.dropWhile_append, ← afterZeros, if_neg (mt List.isEmpty_iff.mp some_digit)]

theorem length_afterZeros_append_le (word : List Char) (c : Char) :
    (afterZeros (word ++ [c])).length ≤ (afterZeros word).length + 1 := by
  by_cases empty : afterZeros word = []
  · rw [afterZeros, List.dropWhile_append, ← afterZeros, if_pos (List.isEmpty_iff.mpr empty)]
    exact ((List.dropWhile_suffix _).length_le).trans (Nat.le_add_left _ _)
  · simp [afterZeros_append empty]

theorem value_afterZeros (word : List Char) :
    Digits.value 16 (afterZeros word) = Digits.value 16 word := Digits.value_dropWhile 16 word

variable {window : Window} {word : List Char}

/-- There is room until sixteen significant digits are in the window. -/
theorem Keeps.hasRoom_iff (keeps : window.Keeps word)
    (digits : ∀ c ∈ word, Radix.hexadecimal.isDigit c = true) :
    window.hasRoom = true ↔ (afterZeros word).length < Scaled.keptDigits := by
  have members : ∀ c ∈ afterZeros word, Radix.hexadecimal.isDigit c = true :=
    Digits.isDigit_dropWhile digits
  have start : (afterZeros word).head? ≠ some '0' := Digits.head?_dropWhile_ne word
  rw [Window.hasRoom_iff, keeps.mantissa]
  constructor
  · intro room
    by_contra full
    have large : 16 ^ 15 ≤ Digits.value 16 ((afterZeros word).take (15 + 1)) :=
      Digits.le_value_take members start (not_lt.mp full)
    exact absurd (room.trans_le (by norm_num : 2 ^ 60 ≤ 16 ^ 15)) large.not_gt
  · intro short
    rw [List.take_of_length_le short.le]
    calc Digits.value 16 (afterZeros word) < 16 ^ (afterZeros word).length :=
          Digits.value_lt 16 fun c member => (Digits.digitValue_spec (members c member)).1
      _ ≤ 16 ^ 15 := Nat.pow_le_pow_right (by norm_num) (Nat.le_of_lt_succ short)
      _ = 2 ^ 60 := by norm_num

section

variable {c : Char}

theorem drop_afterZeros_of_short (short : (afterZeros word).length < Scaled.keptDigits) :
    (afterZeros word).drop Scaled.keptDigits = [] ∧
      (afterZeros (word ++ [c])).drop Scaled.keptDigits = [] := by
  have length := length_afterZeros_append_le word c
  constructor
  · exact List.drop_eq_nil_of_le short.le
  · exact List.drop_eq_nil_of_le (by omega)

theorem afterZeros_append_of_full (full : Scaled.keptDigits ≤ (afterZeros word).length) :
    (afterZeros (word ++ [c])).take Scaled.keptDigits =
        (afterZeros word).take Scaled.keptDigits ∧
      (afterZeros (word ++ [c])).drop Scaled.keptDigits =
        (afterZeros word).drop Scaled.keptDigits ++ [c] := by
  have some_digit : afterZeros word ≠ [] := by
    intro empty
    rw [empty] at full
    exact absurd full (by decide)
  rw [afterZeros_append some_digit]
  exact ⟨List.take_append_of_le_length full, List.drop_append_of_le_length full⟩

theorem digitValue_bne_zero (digit : Radix.hexadecimal.isDigit c = true) :
    (Digits.digitValue c != 0) = (c != '0') := by
  rw [Bool.eq_iff_iff, bne_iff_ne, bne_iff_ne]
  constructor
  · rintro nonzero rfl
    exact nonzero Digits.digitValue_zero
  · exact mt (Digits.digitValue_spec digit).2

/-- Reading a digit keeps it if there is room, and otherwise knows of it. -/
theorem Keeps.push (keeps : window.Keeps word)
    (digits : ∀ d ∈ word ++ [c], Radix.hexadecimal.isDigit d = true) (kept passed : ℤ) :
    (window.push kept passed c).Keeps (word ++ [c]) := by
  have digit : Radix.hexadecimal.isDigit c = true := digits c (by simp)
  have room_iff := keeps.hasRoom_iff fun d member => digits d (List.mem_append_left _ member)
  rw [Window.push]
  split
  next room =>
    have short := room_iff.mp room
    have nothing := drop_afterZeros_of_short (c := c) short
    have length := length_afterZeros_append_le word c
    constructor
    · -- the word so far is all in the window, and so is the longer one
      have before := keeps.mantissa
      rw [List.take_of_length_le short.le, value_afterZeros] at before
      rw [List.take_of_length_le (by omega), value_afterZeros, Digits.value_append,
        toNat_shiftLeft_or room (Digits.digitValue_spec digit).1, before, Digits.value_cons]
      simp
    · rw [nothing.2, keeps.leftOver, nothing.1]
  next full =>
    obtain ⟨same, more⟩ := afterZeros_append_of_full (c := c) (not_lt.mp (mt room_iff.mpr full))
    constructor
    · rw [same]
      exact keeps.mantissa
    · rw [more, List.any_append, ← keeps.leftOver, digitValue_bne_zero digit]
      simp

end

/-! ### Exponents -/

theorem exponent_push (kept passed : ℤ) (window : Window) (c : Char) :
    (window.push kept passed c).exponent =
      saturate (window.exponent + if window.hasRoom then kept else passed) := by
  rw [push]
  split
  · rfl
  · rfl

theorem saturate_idem (n : ℤ) : saturate (saturate n + 0) = saturate n := by
  unfold saturate
  omega

/-- Saturating on the way up makes no difference at its end. -/
theorem saturate_up {n step : ℤ} (low : -2 ^ 63 ≤ n) (up : 0 ≤ step) :
    saturate (saturate n + step) = saturate (n + step) := by
  unfold saturate
  omega

theorem saturate_down {n step : ℤ} (high : n < 2 ^ 63) (down : step ≤ 0) :
    saturate (saturate n + step) = saturate (n + step) := by
  unfold saturate
  omega

/-- The window has read `word`, of which `places` digits stand behind the point, from an exponent
`start` on. -/
structure Holds (start : ℤ) (places : ℕ) (window : Window) (word : List Char) : Prop where
  keeps : window.Keeps word
  exponent : window.exponent =
    saturate (start + 4 * (((afterZeros word).drop Scaled.keptDigits).length - places : ℤ))

section

variable {start : ℤ} {places : ℕ} {c : Char}

/-- A digit before the point moves the exponent up, if at all. -/
theorem Holds.push_before (low : -2 ^ 63 ≤ start) (holds : Holds start 0 window word)
    (digits : ∀ d ∈ word ++ [c], Radix.hexadecimal.isDigit d = true) :
    Holds start 0 (window.push 0 4 c) (word ++ [c]) := by
  refine ⟨holds.keeps.push digits 0 4, ?_⟩
  have room_iff := holds.keeps.hasRoom_iff fun d member => digits d (List.mem_append_left _ member)
  rw [exponent_push, holds.exponent]
  split
  next room =>
    obtain ⟨nothing, nothing'⟩ := drop_afterZeros_of_short (c := c) (room_iff.mp room)
    rw [nothing, nothing', saturate_idem]
  next full =>
    have more := (afterZeros_append_of_full (c := c) (not_lt.mp (mt room_iff.mpr full))).2
    rw [more, saturate_up (by omega) (by norm_num), List.length_append, List.length_singleton]
    congr 1
    push_cast
    ring

/-- A digit behind the point moves the exponent down, if at all. -/
theorem Holds.push_behind (high : start < 2 ^ 63) (holds : Holds start places window word)
    (digits : ∀ d ∈ word ++ [c], Radix.hexadecimal.isDigit d = true) :
    Holds start (places + 1) (window.push (-4) 0 c) (word ++ [c]) := by
  refine ⟨holds.keeps.push digits (-4) 0, ?_⟩
  have room_iff := holds.keeps.hasRoom_iff fun d member => digits d (List.mem_append_left _ member)
  rw [exponent_push, holds.exponent]
  split
  next room =>
    obtain ⟨nothing, nothing'⟩ := drop_afterZeros_of_short (c := c) (room_iff.mp room)
    rw [nothing, nothing', saturate_down (by simp; omega) (by norm_num)]
    congr 1
    push_cast
    ring
  next full =>
    have more := (afterZeros_append_of_full (c := c) (not_lt.mp (mt room_iff.mpr full))).2
    rw [more, saturate_idem, List.length_append, List.length_singleton]
    congr 1
    push_cast
    ring

theorem Holds.before (low : -2 ^ 63 ≤ start) {integer : List Char}
    (holds : Holds start 0 window word)
    (digits : ∀ d ∈ word ++ integer, Radix.hexadecimal.isDigit d = true) :
    Holds start 0 (integer.foldl (push 0 4) window) (word ++ integer) := by
  induction integer generalizing window word with
  | nil => simpa using holds
  | cons c rest ih =>
    rw [List.append_cons] at digits ⊢
    exact ih (holds.push_before low fun d member => digits d (List.mem_append_left _ member)) digits

theorem Holds.behind (high : start < 2 ^ 63) {fraction : List Char}
    (holds : Holds start places window word)
    (digits : ∀ d ∈ word ++ fraction, Radix.hexadecimal.isDigit d = true) :
    Holds start (places + fraction.length) (fraction.foldl (push (-4) 0) window)
      (word ++ fraction) := by
  induction fraction generalizing window word places with
  | nil => simpa using holds
  | cons c rest ih =>
    rw [List.append_cons] at digits ⊢
    rw [List.length_cons, Nat.add_comm rest.length, ← Nat.add_assoc]
    exact ih (holds.push_behind high fun d member => digits d (List.mem_append_left _ member)) digits

/-- The window behind all digits has read them, as far as they go. -/
theorem holds_ofDigits {integer fraction : List Char} {exponent : ℤ} (low : -2 ^ 63 ≤ exponent)
    (high : exponent < 2 ^ 63)
    (digits : ∀ c ∈ integer ++ fraction, Radix.hexadecimal.isDigit c = true) :
    Holds exponent fraction.length (ofDigits integer fraction exponent) (integer ++ fraction) := by
  have start : Holds exponent 0 ⟨0, exponent, false⟩ [] := by
    refine ⟨keeps_nil exponent, ?_⟩
    unfold saturate
    simp [afterZeros]
    omega
  have whole := start.before low fun d member => digits d (List.mem_append_left _ member)
  have ended := whole.behind high digits
  rwa [List.nil_append, Nat.zero_add] at ended

end

theorem number_ofDigits {integer fraction : List Char} {exponent : ℤ} (low : -2 ^ 63 ≤ exponent)
    (high : exponent < 2 ^ 63)
    (digits : ∀ c ∈ integer ++ fraction, Radix.hexadecimal.isDigit c = true) :
    (ofDigits integer fraction exponent).number =
      ⟨(Scaled.ofHexDigits integer fraction exponent).mantissa,
        saturate (Scaled.ofHexDigits integer fraction exponent).exponent⟩ := by
  obtain ⟨⟨mantissa, leftOver⟩, places⟩ := holds_ofDigits low high digits
  unfold Scaled.ofHexDigits
  rw [← afterZeros, number, places, leftOver]
  dsimp only
  rw [jam, ← mantissa]
  congr 1
  split
  · rw [toNat_or_one]
  · rfl

end Window

end Machine

namespace Binary.Scaled

open Machine

variable {integer fraction : List Char}

theorem natAbs_ofHexDigits_exponent_le (integer fraction : List Char) (exponent : ℤ) :
    (ofHexDigits integer fraction exponent).exponent.natAbs ≤
      exponent.natAbs + 4 * (integer.length + fraction.length) := by
  have length := ((integer ++ fraction).dropWhile_suffix (· == '0')).length_le
  rw [List.length_append] at length
  unfold ofHexDigits
  dsimp only
  rw [List.length_drop]
  omega

/-- The mantissa is zero only if all digits are. -/
theorem ofHexDigits_mantissa_eq_zero_iff
    (digits : ∀ c ∈ integer ++ fraction, Radix.hexadecimal.isDigit c = true) (exponent : ℤ) :
    (ofHexDigits integer fraction exponent).mantissa = 0 ↔
      ∀ c ∈ integer ++ fraction, c = '0' := by
  have odd := ofHexDigits_isOddRounding exponent digits
  have unit := two_zpow_pos (ofHexDigits integer fraction exponent).exponent
  have step := two_zpow_pos (exponent - 4 * fraction.length)
  rw [← Digits.value_eq_zero_iff (by norm_num : 0 < 16) digits]
  constructor
  · intro empty
    rcases odd with exact | ⟨large, -⟩
    · rw [toRat, empty, Nat.cast_zero, zero_mul, mul_eq_zero_iff_right step.ne'] at exact
      exact_mod_cast exact
    · omega
  · intro zero
    rw [zero, Nat.cast_zero, zero_mul] at odd
    rcases odd with exact | ⟨large, -, low, -⟩
    · have product := mul_eq_zero.mp exact.symm
      exact_mod_cast product.resolve_right unit.ne'
    · -- zero has no odd number above it that is as large
      have small := lt_of_mul_lt_mul_right (low.trans_eq (zero_mul _).symm) unit.le
      have large : (2 : ℚ) ^ 60 ≤ (ofHexDigits integer fraction exponent).mantissa := by
        exact_mod_cast large
      linarith

/-- Hexadecimal digits around a point are exactly the number that is made of them, or that number has
an odd mantissa of more than sixty bits and the digits denote something strictly between its
neighbours. A word of 64 bits that reads the digits one after the other comes to the same mantissa and
loses no bit on the way, and its exponent is the same if it fits 64 bits. -/
theorem ofHexDigits_rounds_to_odd
    (digits : ∀ c ∈ integer ++ fraction, Radix.hexadecimal.isDigit c = true) (exponent : ℤ) :
    let exact : ℚ := Digits.value 16 (integer ++ fraction) * 2 ^ (exponent - 4 * fraction.length)
    let number := ofHexDigits integer fraction exponent
    let window := Window.ofDigits integer fraction exponent
    (exact = number.mantissa * 2 ^ number.exponent ∨
        2 ^ 60 ≤ number.mantissa ∧ number.mantissa % 2 = 1 ∧
          exact ≠ number.mantissa * 2 ^ number.exponent ∧
          ((number.mantissa : ℚ) - 1) * 2 ^ number.exponent < exact ∧
          exact < ((number.mantissa : ℚ) + 1) * 2 ^ number.exponent) ∧
      number.mantissa < 2 ^ 64 ∧
      (number.mantissa = 0 ↔ ∀ c ∈ integer ++ fraction, c = '0') ∧
      (-2 ^ 63 ≤ exponent → exponent < 2 ^ 63 →
        window.number = ⟨number.mantissa, saturate number.exponent⟩ ∧
          (exponent.natAbs + 4 * (integer.length + fraction.length) < 2 ^ 63 →
            window.number = number) ∧
          window.mantissa.toNat =
            Digits.value 16 (((integer ++ fraction).dropWhile (· == '0')).take 16) ∧
          (window.hasRoom = true →
            (window.mantissa <<< 4).toNat = window.mantissa.toNat * 16)) := by
  intro exact number window
  refine ⟨?_, ofHexDigits_mantissa_lt digits exponent,
    ofHexDigits_mantissa_eq_zero_iff digits exponent, ?_⟩
  · by_cases same : exact = number.mantissa * 2 ^ number.exponent
    · exact Or.inl same
    · rcases ofHexDigits_isOddRounding exponent digits with whole | ⟨large, parity, between⟩
      · exact absurd whole same
      · exact Or.inr ⟨large, parity, same, between⟩
  · intro low high
    have word := Window.number_ofDigits low high digits
    refine ⟨word, ?_, (Window.holds_ofDigits low high digits).keeps.mantissa,
      Window.toNat_shiftLeft⟩
    intro room
    have near : number.exponent.natAbs ≤
        exponent.natAbs + 4 * (integer.length + fraction.length) :=
      natAbs_ofHexDigits_exponent_le integer fraction exponent
    have fits : saturate number.exponent = number.exponent := by
      unfold saturate
      omega
    rw [word, fits]

/-- A little more than an even number of 64 bits is rounded to the odd number above it. -/
theorem ofHexDigits_past_even :
    let integer := '8' :: List.replicate 15 '0'
    let fraction := ['0', '1']
    let exact : ℚ := Digits.value 16 (integer ++ fraction) * 2 ^ (3 - 4 * (fraction.length : ℤ))
    (∀ c ∈ integer ++ fraction, Radix.hexadecimal.isDigit c = true) ∧
      ofHexDigits integer fraction 3 = ⟨2 ^ 63 + 1, 3⟩ ∧
      (2 ^ 63 : ℚ) * 2 ^ (3 : ℤ) < exact ∧ exact < (2 ^ 63 + 2 : ℚ) * 2 ^ (3 : ℤ) ∧
      (Window.ofDigits integer fraction 3).number = ⟨2 ^ 63 + 1, 3⟩ := by
  intro integer fraction exact
  have digits : ∀ c ∈ integer ++ fraction, Radix.hexadecimal.isDigit c = true :=
    List.all_eq_true.mp (by decide)
  have result : ofHexDigits integer fraction 3 = ⟨2 ^ 63 + 1, 3⟩ := by decide
  have value : Digits.value 16 (integer ++ fraction) = 2 ^ 71 + 1 := by decide
  have exact_eq : exact = (2 ^ 71 + 1) * 2 ^ (-5 : ℤ) := by
    dsimp only [exact]
    rw [value]
    norm_num [fraction]
  obtain ⟨rounded, -, -, word⟩ := ofHexDigits_rounds_to_odd digits 3
  obtain ⟨-, same, -⟩ := word (by norm_num) (by norm_num)
  rw [result] at rounded same
  rcases rounded with whole | ⟨-, -, -, low, high⟩
  · -- the last digit is below the last bit
    have apart : ((2 ^ 71 + 1 : ℚ)) * 2 ^ (-5 : ℤ) ≠ ((2 ^ 63 + 1 : ℕ) : ℚ) * 2 ^ (3 : ℤ) := by
      norm_num
    exact absurd (exact_eq.symm.trans whole) apart
  · refine ⟨digits, result, ?_, ?_, same (by decide)⟩
    · refine lt_of_eq_of_lt ?_ low
      push_cast
      ring
    · refine high.trans_eq ?_
      push_cast
      ring

end Binary.Scaled

end DeclScan
