import DeclScan.Proofs.Machine.Basic

/-!
Numerals, lexed byte by byte.

`lex`, `readSigned` and `readNatural` look at single bytes, keep byte offsets in words and cut their
pieces out of the text. On a text of fewer than `2 ^ 63` bytes they have no fault and give what the
readers of characters give (`lex_eq`, `readSigned_eq`, `readNatural_eq`): whatever a numeral consists
of takes one byte a character, so its pieces end between two characters.
-/

namespace DeclScan

theorem Integer.narrow_hexMarkWidth (text : List Char) :
    Text.Narrow text (Integer.hexMarkWidth text) := by
  unfold Integer.hexMarkWidth
  split
  next mark next rest =>
    split
    next spelled =>
      have letter : mark.toNat < 128 := by
        rcases spelled with ⟨rfl | rfl, -⟩ <;> decide
      exact Text.narrow_cons (by decide) (Text.narrow_cons letter (Text.narrow_zero _))
    next => exact Text.narrow_zero _
  next => exact Text.narrow_zero _

theorem Integer.narrow_of_readSigned? {bits : ℕ} {text : List Char}
    {reading : Reading ℤ} (found : Integer.readSigned? bits text = some reading) :
    Text.Narrow text reading.width := by
  have whole := (narrow_signWidth text).add
    (Text.narrow_takeWhile Radix.decimal.toNat_lt_of_isDigit (text.drop (signWidth text)))
  simp only [Integer.readSigned?, Option.ite_none_left_eq_some] at found
  obtain ⟨-, found⟩ := found
  split at found
  all_goals
    obtain ⟨magnitude, -, rfl⟩ := Option.map_eq_some_iff.mp found
    exact whole

namespace Machine

open Text

/-! ### Signs and marks -/

namespace Alike

variable {left right : List Char}

theorem symm (alike : Alike left right) : Alike right left := by
  induction alike with
  | nil => exact .nil
  | ascii small _ ih => exact .ascii small ih
  | wide first second => exact .wide second first

theorem uncons {c : Char} (ascii : c.toNat < 128) (alike : Alike (c :: left) right) :
    ∃ rest, right = c :: rest ∧ Alike left rest := by
  cases alike with
  | ascii _ alike => exact ⟨_, rfl, alike⟩
  | wide first _ => omega

theorem signWidth_le (alike : Alike left right) : signWidth left ≤ signWidth right := by
  unfold signWidth
  split
  next rest =>
    obtain ⟨more, rfl, -⟩ := alike.uncons (by decide)
    exact le_rfl
  next rest =>
    obtain ⟨more, rfl, -⟩ := alike.uncons (by decide)
    exact le_rfl
  next => exact Nat.zero_le _

theorem startsNegative_imp (alike : Alike left right) (negative : startsNegative left = true) :
    startsNegative right = true := by
  unfold startsNegative at negative
  split at negative
  next rest =>
    obtain ⟨more, rfl, -⟩ := alike.uncons (by decide)
    rfl
  next => cases negative

theorem hexMarkWidth_le (alike : Alike left right) :
    Integer.hexMarkWidth left ≤ Integer.hexMarkWidth right := by
  unfold Integer.hexMarkWidth
  split
  next mark next rest =>
    split
    next spelled =>
      have letter : mark.toNat < 128 := by
        rcases spelled with ⟨rfl | rfl, -⟩ <;> decide
      obtain ⟨_, rfl, first⟩ := alike.uncons (by decide)
      obtain ⟨_, rfl, second⟩ := first.uncons letter
      obtain ⟨_, rfl, -⟩ := second.uncons (Radix.toNat_lt_of_isDigit _ _ spelled.2)
      simp [spelled]
    next => exact Nat.zero_le _
  next => exact Nat.zero_le _

theorem markWidth_le (radix : Radix) (alike : Alike left right) :
    Numeral.markWidth radix left ≤ Numeral.markWidth radix right := by
  have letter {mark : Char} {digit : Prop} (spelled : (mark = 'x' ∨ mark = 'X') ∧ digit) :
      mark.toNat < 128 := by
    rcases spelled with ⟨rfl | rfl, -⟩ <;> decide
  unfold Numeral.markWidth
  split
  next => exact Nat.zero_le _
  next mark next rest =>
    split
    next spelled =>
      obtain ⟨_, rfl, first⟩ := alike.uncons (by decide)
      obtain ⟨_, rfl, second⟩ := first.uncons (letter spelled)
      obtain ⟨_, rfl, third⟩ := second.uncons (by decide)
      obtain ⟨_, rfl, -⟩ := third.uncons (Radix.toNat_lt_of_isDigit _ _ spelled.2)
      simp [spelled]
    next => exact Nat.zero_le _
  next mark next rest _ =>
    split
    next spelled =>
      have plain : next ≠ '.' := by
        rintro rfl
        exact absurd spelled.2 (by decide)
      obtain ⟨_, rfl, first⟩ := alike.uncons (by decide)
      obtain ⟨_, rfl, second⟩ := first.uncons (letter spelled)
      obtain ⟨_, rfl, -⟩ := second.uncons (Radix.toNat_lt_of_isDigit _ _ spelled.2)
      simp [spelled, plain]
    next => exact Nat.zero_le _
  next => exact Nat.zero_le _

theorem signWidth_eq (alike : Alike left right) : signWidth left = signWidth right :=
  le_antisymm alike.signWidth_le alike.symm.signWidth_le

theorem startsNegative_eq (alike : Alike left right) :
    startsNegative left = startsNegative right :=
  Bool.eq_iff_iff.mpr ⟨alike.startsNegative_imp, alike.symm.startsNegative_imp⟩

theorem hexMarkWidth_eq (alike : Alike left right) :
    Integer.hexMarkWidth left = Integer.hexMarkWidth right :=
  le_antisymm alike.hexMarkWidth_le alike.symm.hexMarkWidth_le

theorem markWidth_eq (radix : Radix) (alike : Alike left right) :
    Numeral.markWidth radix left = Numeral.markWidth radix right :=
  le_antisymm (alike.markWidth_le radix) (alike.symm.markWidth_le radix)

end Alike

/-! ### Digits -/

/-- The longest word of digits from a byte offset on. -/
def digitsAt (radix : Radix) (text : List Char) (start : ℕ) : Checked (List Char) := do
  let ahead ← tail text start
  let stop ← word (start + ((glyphs ahead).takeWhile radix.isDigit).length)
  cut text start stop

section

variable {text : List Char} (short : byteLength text < 2 ^ 63)
include short

theorem word_of_narrow {count : ℕ} (narrow : Narrow text count) : word count = .ok count :=
  word_of_lt ((le_of_narrow narrow).trans_lt (short.trans (by norm_num)))

theorem digitsAt_eq (radix : Radix) {start : ℕ} (narrow : Narrow text start) :
    digitsAt radix text start = .ok ((text.drop start).takeWhile radix.isDigit) := by
  have run := narrow_takeWhile radix.toNat_lt_of_isDigit (text.drop start)
  rw [digitsAt, tail_of_narrow narrow, ok_bind,
    (alike_glyphs _).takeWhile_eq radix.toNat_lt_of_isDigit,
    word_of_narrow short (narrow.add run), ok_bind, cut_of_narrow narrow run,
    ← List.prefix_iff_eq_take.mp (List.takeWhile_prefix _)]

end

/-! ### Integers -/

/-- A signed integer of so many bits. Its magnitude is a word without a sign, negated in 128 bits. -/
def readSigned (bits : ℕ) (text : List Char) : Checked (Option (Reading ℤ)) := do
  let sign := signWidth (glyphs text)
  let digits ← digitsAt .decimal text sign
  let stop ← word (sign + digits.length)
  if digits.isEmpty then return none
  match Digits.valueBelow? 10 (2 ^ 64) digits with
  | none => return none
  | some magnitude =>
    let value ← signed 128 (if startsNegative (glyphs text) then -magnitude else magnitude)
    return if -2 ^ (bits - 1) ≤ value ∧ value < 2 ^ (bits - 1) then some ⟨value, stop⟩ else none

/-- An integer without a sign, of so many bits, whose digits start at a byte offset. -/
def readNatural (radix : Radix) (start bits : ℕ) (text : List Char) :
    Checked (Option (Reading ℕ)) := do
  let digits ← digitsAt radix text start
  let stop ← word (start + digits.length)
  if digits.isEmpty then return none
  match Digits.valueBelow? radix.base (2 ^ 64) digits with
  | none => return none
  | some magnitude => return if magnitude < 2 ^ bits then some ⟨magnitude, stop⟩ else none

section

variable {text : List Char} (short : byteLength text < 2 ^ 63) {bits : ℕ} (fits : bits ≤ 64)
include short fits

theorem readSigned_eq : readSigned bits text = .ok (Integer.readSigned? bits text) := by
  have sign := narrow_signWidth text
  have run := narrow_takeWhile Radix.decimal.toNat_lt_of_isDigit (text.drop (signWidth text))
  have half : 2 ^ (bits - 1) ≤ 2 ^ 63 := Nat.pow_le_pow_right (by norm_num) (by omega)
  have positive : 0 < 2 ^ (bits - 1) := Nat.two_pow_pos _
  have cast : (2 : ℤ) ^ (bits - 1) = (2 ^ (bits - 1) : ℕ) := by norm_num
  rw [readSigned, Integer.readSigned?]
  simp only [(alike_glyphs text).signWidth_eq, (alike_glyphs text).startsNegative_eq,
    Nat.one_shiftLeft, cast]
  rw [digitsAt_eq short .decimal sign, ok_bind, word_of_narrow short (sign.add run), ok_bind]
  generalize (text.drop (signWidth text)).takeWhile Radix.decimal.isDigit = digits
  generalize 2 ^ (bits - 1) = bound at half positive
  split
  next => rfl
  next =>
    rw [Digits.valueBelow?_eq 10 _ (by norm_num) (by norm_num),
      Digits.valueBelow?_eq 10 _ (by norm_num) (Nat.succ_pos bound),
      Digits.valueBelow?_eq 10 _ (by norm_num) positive]
    generalize Digits.value 10 digits = magnitude
    by_cases word : magnitude < 2 ^ 64
    · rw [if_pos word]
      dsimp only
      rw [signed_ite _ (word.trans (by norm_num)), ok_bind]
      cases startsNegative text with
      | true =>
        by_cases small : magnitude < bound + 1
        · simp only [if_true, if_pos small]
          rw [if_pos (by omega)]
          rfl
        · simp only [if_true, if_neg small]
          rw [if_neg (by omega)]
          rfl
      | false =>
        by_cases small : magnitude < bound
        · simp only [Bool.false_eq_true, if_false, if_pos small]
          rw [if_pos (by omega)]
          rfl
        · simp only [Bool.false_eq_true, if_false, if_neg small]
          rw [if_neg (by omega)]
          rfl
    · have outside : ¬magnitude < bound + 1 ∧ ¬magnitude < bound := by omega
      rw [if_neg word, if_neg outside.1, if_neg outside.2]
      cases startsNegative text <;> rfl

theorem readNatural_eq (radix : Radix) {start : ℕ} (narrow : Narrow text start) :
    readNatural radix start bits text =
      .ok (let digits := (text.drop start).takeWhile radix.isDigit
        if digits.isEmpty then none
        else (Digits.valueBelow? radix.base (1 <<< bits) digits).map fun magnitude =>
          ⟨magnitude, start + digits.length⟩) := by
  have run := narrow_takeWhile radix.toNat_lt_of_isDigit (text.drop start)
  have whole : 2 ^ bits ≤ 2 ^ 64 := pow_le_pow_right₀ (by norm_num) fits
  have base : 0 < radix.base := by cases radix <;> decide
  rw [readNatural, digitsAt_eq short radix narrow, ok_bind, word_of_narrow short (narrow.add run),
    ok_bind]
  dsimp only
  generalize (text.drop start).takeWhile radix.isDigit = digits
  split
  next => rfl
  next =>
    rw [Nat.one_shiftLeft, Digits.valueBelow?_eq _ _ base (by norm_num),
      Digits.valueBelow?_eq _ _ base (Nat.two_pow_pos bits)]
    generalize Digits.value radix.base digits = magnitude
    by_cases large : 2 ^ 64 ≤ magnitude
    · rw [if_neg (by omega), if_neg (by omega)]
      rfl
    · rw [if_pos (by omega)]
      by_cases small : magnitude < 2 ^ bits
      · simp only [if_pos small]
        rfl
      · simp only [if_neg small]
        rfl

end

/-! ### Numerals with a point and an exponent -/

/-- Where the digits of a numeral start. -/
def lexStart (radix : Radix) (text : List Char) : Checked ℕ := do
  let sign := signWidth (glyphs text)
  let ahead ← tail text sign
  word (sign + Numeral.markWidth radix (glyphs ahead))

/-- The digits behind a point at `place`, and where they end. A point without digits is left alone if
the numeral is `bare` of digits before it. -/
def lexFraction (radix : Radix) (text : List Char) (place : ℕ) (bare : Bool) :
    Checked (List Char × ℕ) := do
  if (glyphs text)[place]? = some '.' then
    let start ← word (place + 1)
    let digits ← digitsAt radix text start
    if bare ∧ digits = [] then return ([], place)
    let stop ← word (start + digits.length)
    return (digits, stop)
  else return ([], place)

/-- The value of a decimal digit, which is a byte. -/
def digitOf (c : Char) : Checked ℕ := difference c.toNat '0'.toNat

/-- The value of a decimal word, or `limit` if that is less. -/
def clampedValue (limit : ℕ) (digits : List Char) : Checked ℤ :=
  digits.foldlM (fun total c => do
    let digit ← digitOf c
    return min (saturate (saturate (total * 10) + digit)) limit) 0

/-- What an exponent counts at most if its mark stands at `place`. -/
def exponentCap (place : ℕ) : ℕ := min (Numeral.exponentLimit + place) (2 ^ 63 - 1)

/-- The exponent behind a mark at `place`, and where it ends. -/
def lexExponent (radix : Radix) (text : List Char) (place : ℕ) : Checked (ℤ × ℕ) := do
  if (glyphs text)[place]?.any (Numeral.isExponentMark radix) then
    let behind ← word (place + 1)
    let ahead ← tail text behind
    let start ← word (behind + signWidth (glyphs ahead))
    let digits ← digitsAt .decimal text start
    if digits = [] then return (0, place)
    let stop ← word (start + digits.length)
    let magnitude ← clampedValue (exponentCap place) digits
    let exponent ← signed 64 (if startsNegative (glyphs ahead) then -magnitude else magnitude)
    return (exponent, stop)
  else return (0, place)

/-- The longest numeral without an exponent part in front of a text. -/
def lexBody (radix : Radix) (text : List Char) : Checked (Option Numeral) := do
  let start ← lexStart radix text
  let integer ← digitsAt radix text start
  let place ← word (start + integer.length)
  let (fraction, width) ← lexFraction radix text place integer.isEmpty
  if integer.isEmpty ∧ fraction.isEmpty then return none
  return some {
    radix, negative := startsNegative (glyphs text), integer, fraction, exponent := 0, width }

/-- The longest numeral in front of a text. -/
def lex (radix : Radix) (text : List Char) : Checked (Option Numeral) := do
  match ← lexBody radix text with
  | none => return none
  | some body =>
    let (exponent, width) ← lexExponent radix text body.width
    return some { body with exponent, width }

/-- The numeral that is lexed. Only in a text close to `2 ^ 63` bytes is the cap on its exponent not
that of `Numeral.read?`. -/
def capped? : Radix → List Char → Option Numeral :=
  Numeral.readWith? fun place => Digits.valueUpTo (exponentCap place)

section

variable {text : List Char} (short : byteLength text < 2 ^ 63)
include short

theorem lexStart_eq (radix : Radix) :
    lexStart radix text =
      .ok (signWidth text + Numeral.markWidth radix (text.drop (signWidth text))) := by
  have sign := narrow_signWidth text
  have mark := Numeral.narrow_markWidth radix (text.drop (signWidth text))
  simp only [lexStart, (alike_glyphs text).signWidth_eq]
  rw [tail_of_narrow sign, ok_bind, (alike_glyphs _).markWidth_eq,
    word_of_narrow short (sign.add mark)]

theorem lexFraction_eq (radix : Radix) {place : ℕ} (narrow : Narrow text place) (bare : Bool) :
    lexFraction radix text place bare =
      .ok (let fraction := Numeral.fractionOf radix (text.drop place)
        (fraction, if bare ∧ fraction = [] then place
          else place + Numeral.pointWidth (text.drop place) + fraction.length)) := by
  have point := (alike_glyphs (text.drop place)).head?_eq_iff (c := '.') (by decide)
  rw [lexFraction, getElem?_glyphs narrow]
  by_cases stands : (text.drop place).head? = some '.'
  · obtain ⟨rest, split⟩ := List.head?_eq_some_iff.mp stands
    have one : Narrow (text.drop place) 1 := by
      rw [split]
      exact narrow_cons (by decide) (narrow_zero rest)
    have behind : text.drop (place + 1) = rest := by
      rw [← List.drop_drop, split]
      rfl
    have run := narrow_takeWhile radix.toNat_lt_of_isDigit (text.drop (place + 1))
    have stop := word_of_narrow short ((narrow.add one).add run)
    rw [behind] at stop
    rw [if_pos (point.mpr stands), word_of_narrow short (narrow.add one), ok_bind,
      digitsAt_eq short radix (narrow.add one), ok_bind, behind, split]
    have fraction : Numeral.fractionOf radix ('.' :: rest) = rest.takeWhile radix.isDigit := rfl
    dsimp only
    rw [fraction]
    split
    next lone =>
      rw [lone.2]
      rfl
    next =>
      rw [stop]
      rfl
  · have none : Numeral.fractionOf radix (text.drop place) = [] ∧
        Numeral.pointWidth (text.drop place) = 0 := by
      unfold Numeral.fractionOf Numeral.pointWidth
      split <;> simp_all
    rw [if_neg (mt point.mp stands), none.1, none.2]
    cases bare <;> rfl

end

theorem digitOf_eq {c : Char} (digit : Radix.decimal.isDigit c = true) :
    digitOf c = .ok (Digits.digitValue c) := by
  have low := ((Radix.isDigit_iff .decimal c).mp digit).resolve_right (by simp)
  have digit' : c.isDigit = true := digit
  rw [digitOf, difference_of_le (by simpa using low.1), Digits.digitValue, if_pos digit']

theorem exponentCap_lt (place : ℕ) : exponentCap place < 2 ^ 63 := by
  unfold exponentCap
  omega

theorem valueUpTo_exponentCap_lt (place : ℕ) (digits : List Char) :
    Digits.valueUpTo (exponentCap place) digits < 2 ^ 63 := by
  rw [Digits.valueUpTo_eq]
  exact (min_le_right _ _).trans_lt (exponentCap_lt place)

theorem clampedValue_eq {limit : ℕ} (fits : limit < 2 ^ 63) {digits : List Char}
    (members : ∀ c ∈ digits, Radix.decimal.isDigit c = true) :
    clampedValue limit digits = .ok (Digits.valueUpTo limit digits : ℕ) := by
  -- a total below the limit does not saturate before it is cut
  have step (total digit : ℕ) : min (saturate (saturate (total * 10) + digit)) limit =
      (min (total * 10 + digit) limit : ℕ) := by
    unfold saturate
    omega
  have fold (digits : List Char) (total : ℕ)
      (members : ∀ c ∈ digits, Radix.decimal.isDigit c = true) :
      digits.foldlM (fun (total : ℤ) c => do
        let digit ← digitOf c
        return min (saturate (saturate (total * 10) + digit)) limit) (total : ℤ) =
      Except.ok ((digits.foldl (fun total c => min (total * 10 + Digits.digitValue c) limit) total :
        ℕ) : ℤ) := by
    induction digits generalizing total with
    | nil => rfl
    | cons c rest ih =>
      rw [List.foldlM_cons, digitOf_eq (members c List.mem_cons_self), ok_bind, step]
      exact ih _ fun d member => members d (List.mem_cons_of_mem c member)
  exact fold digits 0 members

section

variable {text : List Char} (short : byteLength text < 2 ^ 63)
include short

theorem lexExponent_eq (radix : Radix) {place : ℕ} (narrow : Narrow text place)
    {exponent : Reading ℤ}
    (read : Numeral.readExponent radix (Digits.valueUpTo (exponentCap place)) (text.drop place) =
      exponent) :
    lexExponent radix text place = .ok (exponent.value, place + exponent.width) := by
  subst read
  rw [lexExponent, getElem?_glyphs narrow,
    (alike_glyphs _).any_head?_eq (Numeral.toNat_lt_of_isExponentMark radix)]
  cases split : text.drop place with
  | nil => rfl
  | cons mark rest =>
    rw [List.head?_cons, Option.any_some, Numeral.readExponent]
    by_cases marked : Numeral.isExponentMark radix mark = true
    · have one : Narrow (text.drop place) 1 := by
        rw [split]
        exact narrow_cons (Numeral.toNat_lt_of_isExponentMark radix mark marked) (narrow_zero rest)
      obtain rfl : text.drop (place + 1) = rest := by
        rw [← List.drop_drop, split]
        rfl
      have first := narrow.add one
      have start := first.add (narrow_signWidth (text.drop (place + 1)))
      have stop := start.add (narrow_takeWhile Radix.decimal.toNat_lt_of_isDigit _)
      have members : ∀ c ∈ (text.drop (place + 1 + signWidth (text.drop (place + 1)))).takeWhile
          Radix.decimal.isDigit, Radix.decimal.isDigit c = true :=
        fun c member => List.mem_takeWhile_imp member
      rw [if_pos marked, word_of_narrow short first, ok_bind, tail_of_narrow first, ok_bind,
        (alike_glyphs _).signWidth_eq, (alike_glyphs _).startsNegative_eq,
        word_of_narrow short start, ok_bind, digitsAt_eq short .decimal start, ok_bind,
        List.drop_drop]
      generalize (text.drop (place + 1 + signWidth (text.drop (place + 1)))).takeWhile
        Radix.decimal.isDigit = digits at members stop ⊢
      by_cases none : digits = []
      · rw [if_pos none, if_neg (fun both => both.2 none)]
        rfl
      · have present : Numeral.isExponentMark radix mark = true ∧ digits ≠ [] := ⟨marked, none⟩
        rw [if_neg none, word_of_narrow short stop, ok_bind,
          clampedValue_eq (exponentCap_lt place) members, ok_bind,
          signed_ite _ (valueUpTo_exponentCap_lt place digits), ok_bind, if_pos present]
        simp only [Nat.add_assoc]
        rfl
    · rw [if_neg marked, if_neg (fun both => marked both.1)]
      rfl

theorem lexBody_eq (radix : Radix) : lexBody radix text = .ok (Numeral.body? radix text) := by
  have start := (narrow_signWidth text).add (Numeral.narrow_markWidth radix _)
  have integer := start.add (narrow_takeWhile radix.toNat_lt_of_isDigit _)
  rw [lexBody, lexStart_eq short, ok_bind, digitsAt_eq short radix start, ok_bind,
    word_of_narrow short integer, ok_bind, lexFraction_eq short radix integer, ok_bind,
    (alike_glyphs text).startsNegative_eq, Numeral.body?]
  dsimp only
  split
  next => rfl
  next some =>
    rw [if_neg (by simpa using some)]
    rfl

/-- A text of fewer than `2 ^ 63` bytes is lexed without a fault. -/
theorem lex_eq (radix : Radix) :
    lex radix text = .ok (capped? radix text) := by
  rw [lex, lexBody_eq short, ok_bind, capped?, Numeral.readWith?]
  cases lexed : Numeral.body? radix text with
  | none => rfl
  | some body =>
    dsimp only
    rw [lexExponent_eq short radix (Numeral.spelled_of_body? lexed).narrow rfl]
    rfl

end

theorem capped?_eq (radix : Radix) {text : List Char}
    (room : Numeral.exponentLimit + byteLength text < 2 ^ 63) :
    capped? radix text = Numeral.read? radix text := by
  rw [capped?, Numeral.read?, Numeral.readWith?, Numeral.readWith?]
  cases lexed : Numeral.body? radix text with
  | none => rfl
  | some body =>
    have within := le_of_narrow (Numeral.spelled_of_body? lexed).narrow
    have same : exponentCap body.width = Numeral.exponentLimit + body.width := by
      rw [exponentCap]
      omega
    rw [Option.map_some, Option.map_some, same]

/-- A decimal numeral has no more than a sign and a point besides its digits in front of the mark of its
exponent. -/
theorem width_le_of_body? {text : List Char} {body : Numeral}
    (lexed : Numeral.body? .decimal text = some body) :
    body.width ≤ body.integer.length + body.fraction.length + 2 := by
  have sign (text : List Char) : signWidth text ≤ 1 := by
    unfold signWidth
    split <;> decide
  have point (text : List Char) : Numeral.pointWidth text ≤ 1 := by
    unfold Numeral.pointWidth
    split <;> decide
  have unmarked (text : List Char) : Numeral.markWidth .decimal text = 0 := rfl
  simp only [Numeral.body?, Option.ite_none_left_eq_some, Option.some.injEq] at lexed
  obtain ⟨-, rfl⟩ := lexed
  dsimp only
  rw [unmarked]
  have first := sign text
  have second := point (text.drop (signWidth text + 0 +
    ((text.drop (signWidth text + 0)).takeWhile Radix.decimal.isDigit).length))
  omega

theorem natAbs_exponent_le_of_capped? {text : List Char} {numeral : Numeral}
    (lexed : capped? .decimal text = some numeral) :
    numeral.exponent.natAbs ≤
      Numeral.exponentLimit + (numeral.integer.length + numeral.fraction.length + 2) := by
  obtain ⟨body, found, rfl⟩ := Option.map_eq_some_iff.mp lexed
  have width := width_le_of_body? found
  have limit : exponentCap body.width ≤ Numeral.exponentLimit + body.width := min_le_left _ _
  rw [Numeral.readExponent_valueUpTo]
  dsimp only [Numeral.cutExponent]
  omega

/-- A numeral is as wide for words as it is without them. -/
theorem map_width_capped? (radix : Radix) (text : List Char) :
    (capped? radix text).map Numeral.width = (Numeral.read? radix text).map Numeral.width := by
  rw [capped?, Numeral.read?, Numeral.readWith?, Numeral.readWith?]
  cases Numeral.body? radix text with
  | none => rfl
  | some body =>
    simp only [Option.map_some, Numeral.readExponent_valueUpTo]

/-- The digits of a decimal numeral that fit a buffer leave room for its exponent. -/
theorem eq_of_capped? {text : List Char} {numeral read : Numeral}
    (lexed : capped? .decimal text = some numeral)
    (found : Numeral.read? .decimal text = some read)
    (room : numeral.integer.length + numeral.fraction.length < 2 ^ 61) : numeral = read := by
  obtain ⟨body, whole, rfl⟩ := Option.map_eq_some_iff.mp lexed
  dsimp only at room
  have width := width_le_of_body? whole
  have million : Numeral.exponentLimit = 1000000 := rfl
  have same : exponentCap body.width = Numeral.exponentLimit + body.width := by
    rw [exponentCap]
    omega
  rw [Numeral.read?, Numeral.readWith?, whole, Option.map_some, Option.some_inj] at found
  subst found
  dsimp only
  rw [same]

end Machine

end DeclScan
