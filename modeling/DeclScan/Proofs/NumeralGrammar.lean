import DeclScan.Proofs.Numeral

/-!
The grammar of numerals.

## Main result

`Numeral.read?_longest`: reading takes the longest numeral of the grammar

    [+-]? (0[xX])? (digit+ ('.' digit*)? | '.' digit+) (mark [+-]? digit+)?

in front of a text, with the pieces that the grammar gives it, and nothing exactly if no numeral
stands there. The part `0[xX]` belongs to hexadecimal numerals only.

## Proof strategy

The grammar is a judgment for each part. What reading takes off the front is such a part, for each
part in turn. Conversely, where a part stands in front of a text, reading takes exactly it, or it
goes on into what follows; then what follows is no later part of the same numeral, so the whole
numeral is longer.
-/

namespace DeclScan.Numeral

open Text

/-! ### The grammar -/

/-- A sign `[+-]?`, and whether it is a minus. -/
inductive IsSign : List Char → Bool → Prop where
  | absent : IsSign [] false
  | plus : IsSign ['+'] false
  | minus : IsSign ['-'] true

/-- The sign of a number as it is written. -/
def signText (negative : Bool) : List Char := if negative then ['-'] else []

theorem isSign_signText (negative : Bool) : IsSign (signText negative) negative := by
  cases negative with
  | true => exact .minus
  | false => exact .absent

/-- The mark `(0[xX])?` in front of the digits, which decimal numerals do not have. -/
inductive IsMark : Radix → List Char → Prop where
  | absent (radix : Radix) : IsMark radix []
  | lower : IsMark .hexadecimal ['0', 'x']
  | upper : IsMark .hexadecimal ['0', 'X']

/-- A word of digits, `digit+`. -/
def IsWord (radix : Radix) (word : List Char) : Prop :=
  word ≠ [] ∧ ∀ c ∈ word, radix.isDigit c = true

theorem isWord_map_toDigits (radix : Radix) {f : Char → Char}
    (digit : ∀ d < radix.base, radix.isDigit (f d.digitChar) = true) (n : ℕ) :
    IsWord radix ((Nat.toDigits radix.base n).map f) := by
  have two : 1 < radix.base := by cases radix <;> decide
  refine ⟨by simp [Nat.toDigits_ne_nil], ?_⟩
  intro c member
  obtain ⟨_, written, rfl⟩ := List.mem_map.mp member
  obtain ⟨d, small, rfl⟩ := Digits.exists_digit_of_mem_toDigits two written
  exact digit d small

theorem isWord_toDigits (n : ℕ) : IsWord .decimal (Nat.toDigits 10 n) := by
  have small : ∀ d < Radix.decimal.base, Radix.decimal.isDigit (id d.digitChar) = true := by decide
  have word := isWord_map_toDigits .decimal small n
  rwa [List.map_id] at word

/-- The digits `digit+ ('.' digit*)? | '.' digit+`, those before the point and those behind it. -/
inductive IsBody (radix : Radix) : List Char → List Char → List Char → Prop where
  | whole {integer : List Char} (word : IsWord radix integer) : IsBody radix integer integer []
  | pointed {integer fraction : List Char} (word : IsWord radix integer)
      (digits : ∀ c ∈ fraction, radix.isDigit c = true) :
      IsBody radix (integer ++ '.' :: fraction) integer fraction
  | bare {fraction : List Char} (word : IsWord radix fraction) :
      IsBody radix ('.' :: fraction) [] fraction

/-- The exponent part `(mark [+-]? digit+)?` and the exponent, its magnitude cut at `limit`. -/
inductive IsExponent (radix : Radix) (limit : ℕ) : List Char → ℤ → Prop where
  | absent : IsExponent radix limit [] 0
  | present {mark : Char} {sign word : List Char} {negative : Bool}
      (marked : isExponentMark radix mark = true) (signed : IsSign sign negative)
      (digits : IsWord .decimal word) :
      IsExponent radix limit (mark :: (sign ++ word))
        (if negative then -((min (Digits.value 10 word) limit : ℕ) : ℤ)
          else (min (Digits.value 10 word) limit : ℕ))

/-- `word` is a numeral, and `numeral` has its pieces. The exponent is cut at a limit that grows with
the bytes before its mark, and the width counts bytes. -/
inductive Grammar (radix : Radix) : List Char → Numeral → Prop where
  | parts {sign mark body tail integer fraction : List Char} {negative : Bool} {exponent : ℤ}
      (signed : IsSign sign negative) (marked : IsMark radix mark)
      (digits : IsBody radix body integer fraction)
      (scaled : IsExponent radix (exponentLimit + byteLength (sign ++ mark ++ body)) tail exponent) :
      Grammar radix (sign ++ mark ++ body ++ tail)
        ⟨radix, negative, integer, fraction, exponent, byteLength (sign ++ mark ++ body ++ tail)⟩

theorem Grammar.width_eq {radix : Radix} {word : List Char} {numeral : Numeral}
    (spelled : Grammar radix word numeral) : numeral.width = byteLength word := by
  cases spelled
  rfl

/-! ### What reading takes off a text -/

theorem isSign_take (text : List Char) :
    IsSign (text.take (signWidth text)) (startsNegative text) := by
  unfold signWidth
  split
  · exact .plus
  · exact .minus
  next plus minus =>
    cases text with
    | nil => exact .absent
    | cons c rest =>
      have other : startsNegative (c :: rest) = false := by
        unfold startsNegative
        split
        next equal => exact absurd equal (minus _)
        next => rfl
      rw [other]
      exact .absent

theorem isMark_take (radix : Radix) (text : List Char) :
    IsMark radix (text.take (markWidth radix text)) := by
  have two {mark : Char} {rest : List Char} (letter : mark = 'x' ∨ mark = 'X') :
      IsMark .hexadecimal (('0' :: mark :: rest).take 2) := by
    rcases letter with rfl | rfl
    · exact .lower
    · exact .upper
  unfold markWidth
  split
  · exact .absent _
  · split
    next spelled => exact two spelled.1
    next => exact .absent _
  · split
    next spelled => exact two spelled.1
    next => exact .absent _
  · exact .absent _

/-- How many characters the digits in front of `text` take, the point included. -/
def bodyWidth (radix : Radix) (text : List Char) : ℕ :=
  (text.takeWhile radix.isDigit).length + pointWidth (text.dropWhile radix.isDigit) +
    (fractionOf radix (text.dropWhile radix.isDigit)).length

theorem drop_length_takeWhile (p : Char → Bool) (text : List Char) :
    text.drop (text.takeWhile p).length = text.dropWhile p := by
  have split : text = text.takeWhile p ++ text.dropWhile p := List.takeWhile_append_dropWhile.symm
  nth_rewrite 2 [split]
  exact List.drop_left

theorem body?_eq (radix : Radix) (text : List Char) :
    let start := signWidth text + markWidth radix (text.drop (signWidth text))
    let integer := (text.drop start).takeWhile radix.isDigit
    let fraction := fractionOf radix ((text.drop start).dropWhile radix.isDigit)
    body? radix text =
      if integer = [] ∧ fraction = [] then none
      else some ⟨radix, startsNegative text, integer, fraction, 0,
        start + bodyWidth radix (text.drop start)⟩ := by
  intro start integer fraction
  have after : text.drop (start + integer.length) = (text.drop start).dropWhile radix.isDigit := by
    rw [← List.drop_drop, drop_length_takeWhile]
  have width : start + bodyWidth radix (text.drop start) = start + integer.length +
      pointWidth (text.drop (start + integer.length)) +
      (fractionOf radix (text.drop (start + integer.length))).length := by
    rw [after, bodyWidth, ← Nat.add_assoc, ← Nat.add_assoc]
  rw [width, body?]
  simp only [List.isEmpty_iff]
  rw [show fraction = fractionOf radix (text.drop (start + integer.length)) by rw [after]]

theorem isBody_take (radix : Radix) (text : List Char)
    (nonempty : ¬(text.takeWhile radix.isDigit = [] ∧
      fractionOf radix (text.dropWhile radix.isDigit) = [])) :
    IsBody radix (text.take (bodyWidth radix text)) (text.takeWhile radix.isDigit)
      (fractionOf radix (text.dropWhile radix.isDigit)) := by
  have digits (word : List Char) : ∀ c ∈ word.takeWhile radix.isDigit, radix.isDigit c = true :=
    fun c => List.mem_takeWhile_imp
  have integer := digits text
  have front (count : ℕ) : text.take ((text.takeWhile radix.isDigit).length + count) =
      text.takeWhile radix.isDigit ++ (text.dropWhile radix.isDigit).take count := by
    rw [List.take_add, drop_length_takeWhile, ← List.prefix_iff_eq_take.mp (List.takeWhile_prefix _)]
  rw [bodyWidth, Nat.add_assoc, front]
  generalize text.takeWhile radix.isDigit = word at *
  generalize text.dropWhile radix.isDigit = after at *
  unfold fractionOf pointWidth at *
  split
  next rest =>
    have fraction := digits rest
    have taken : ('.' :: rest).take (1 + (rest.takeWhile radix.isDigit).length) =
        '.' :: rest.takeWhile radix.isDigit := by
      rw [Nat.add_comm, List.take_succ_cons,
        ← List.prefix_iff_eq_take.mp (List.takeWhile_prefix _)]
    rw [taken]
    -- a point needs a digit on one of its sides
    by_cases empty : word = []
    · subst empty
      exact .bare ⟨fun none => nonempty ⟨rfl, none⟩, fraction⟩
    · exact .pointed ⟨empty, integer⟩ fraction
  next =>
    simp only [and_true] at nonempty
    rw [List.length_nil, List.take_zero, List.append_nil]
    exact .whole ⟨nonempty, integer⟩

theorem isExponent_take (radix : Radix) (limit : ℕ) (text : List Char) :
    let exponent := readExponent radix (Digits.valueUpTo limit) text
    IsExponent radix limit (text.take exponent.width) exponent.value := by
  intro exponent
  cases text with
  | nil => exact .absent
  | cons mark rest =>
    have taken (count : ℕ) : (mark :: rest).take (1 + signWidth rest + count) =
        mark :: (rest.take (signWidth rest) ++ (rest.drop (signWidth rest)).take count) := by
      rw [Nat.add_assoc, Nat.add_comm 1, List.take_succ_cons, List.take_add]
    unfold exponent readExponent
    dsimp only
    split
    next spelled =>
      rw [taken, ← List.prefix_iff_eq_take.mp (List.takeWhile_prefix _), Digits.valueUpTo_eq]
      exact .present spelled.1 (isSign_take rest)
        ⟨spelled.2, fun c => List.mem_takeWhile_imp⟩
    next => exact .absent

/-- What is read off the front of a text is a numeral of the grammar. -/
theorem grammar_take {radix : Radix} {text : List Char} {numeral : Numeral}
    (found : read? radix text = some numeral) :
    Grammar radix (text.take numeral.width) numeral := by
  have whole : byteLength (text.take numeral.width) = numeral.width :=
    (spelled_of_readWith? found).narrow
  obtain ⟨body, lexed, rfl⟩ := Option.map_eq_some_iff.mp found
  have front : byteLength (text.take body.width) = body.width := (spelled_of_body? lexed).narrow
  have scaled := isExponent_take radix (exponentLimit + body.width) (text.drop body.width)
  rw [body?_eq, Option.ite_none_left_eq_some, Option.some.injEq] at lexed
  obtain ⟨nonempty, rfl⟩ := lexed
  have signed := isSign_take text
  have marked := isMark_take radix (text.drop (signWidth text))
  have digits := isBody_take radix _ nonempty
  dsimp only at whole front scaled ⊢
  -- the four parts make up the text that is taken, and its bytes are its characters
  generalize (readExponent _ _ _).width = width at *
  generalize (readExponent _ _ _).value = exponent at *
  rw [List.take_add, List.take_add, List.take_add] at whole ⊢
  rw [List.take_add, List.take_add] at front
  rw [← whole]
  refine .parts signed marked digits ?_
  rw [front]
  exact scaled

/-! ### A part in front of a text -/

theorem IsSign.read {sign rest : List Char} {negative : Bool} (signed : IsSign sign negative)
    (follow : ∀ c, rest.head? = some c → c ≠ '+' ∧ c ≠ '-') :
    signWidth (sign ++ rest) = sign.length ∧ startsNegative (sign ++ rest) = negative := by
  cases signed with
  | absent =>
    cases rest with
    | nil => exact ⟨rfl, rfl⟩
    | cons c rest =>
      obtain ⟨plus, minus⟩ := follow c rfl
      simp [signWidth, startsNegative, plus, minus]
  | plus => exact ⟨rfl, rfl⟩
  | minus => exact ⟨rfl, rfl⟩

theorem ne_sign_of_isDigit {radix : Radix} {c : Char} (digit : radix.isDigit c = true) :
    c ≠ '+' ∧ c ≠ '-' := by
  constructor <;>
  · rintro rfl
    cases radix <;> exact absurd digit (by decide)

theorem IsWord.head? {radix : Radix} {word rest : List Char} (digits : IsWord radix word) {c : Char}
    (first : (word ++ rest).head? = some c) : radix.isDigit c = true := by
  obtain ⟨d, more, rfl⟩ := List.exists_cons_of_ne_nil digits.1
  cases first
  exact digits.2 _ List.mem_cons_self

theorem not_isDigit_point (radix : Radix) : radix.isDigit '.' = false := by
  cases radix <;> decide

/-- What follows the digits of a numeral and makes them longer. -/
def Extends (radix : Radix) (rest : List Char) : Prop :=
  ∃ c, rest.head? = some c ∧ (radix.isDigit c = true ∨ c = '.')

/-- Reading takes the digits `body` in front of `rest` as they are, or goes on into `rest`. -/
def ReadsBody (radix : Radix) (body integer fraction rest : List Char) : Prop :=
  (bodyWidth radix (body ++ rest) = body.length ∧
      (body ++ rest).takeWhile radix.isDigit = integer ∧
      fractionOf radix ((body ++ rest).dropWhile radix.isDigit) = fraction) ∨
    (body.length < bodyWidth radix (body ++ rest) ∧ Extends radix rest)

theorem readsBody_whole {radix : Radix} {integer : List Char}
    (digits : ∀ c ∈ integer, radix.isDigit c = true) (rest : List Char) :
    ReadsBody radix integer integer [] rest := by
  unfold ReadsBody bodyWidth
  rw [List.takeWhile_append_of_pos digits, List.dropWhile_append_of_pos digits, List.length_append]
  cases rest with
  | nil => simp [pointWidth, fractionOf]
  | cons c rest =>
    by_cases digit : radix.isDigit c = true
    · refine .inr ⟨?_, c, rfl, .inl digit⟩
      rw [List.takeWhile_cons_of_pos digit, List.length_cons]
      omega
    · rw [List.takeWhile_cons_of_neg digit, List.dropWhile_cons_of_neg digit]
      by_cases dot : c = '.'
      · refine .inr ⟨?_, c, rfl, .inr dot⟩
        rw [dot, pointWidth]
        omega
      · exact .inl (by simp [pointWidth, fractionOf, dot])

/-- Behind a point the fraction goes on as far as digits do. -/
theorem readsBody_pointed {radix : Radix} {integer fraction : List Char}
    (front : ∀ c ∈ integer, radix.isDigit c = true)
    (back : ∀ c ∈ fraction, radix.isDigit c = true) (rest : List Char) :
    ReadsBody radix (integer ++ '.' :: fraction) integer fraction rest := by
  have point := not_isDigit_point radix
  have run : ((integer ++ '.' :: fraction) ++ rest).takeWhile radix.isDigit = integer := by
    simp [List.takeWhile_append_of_pos front, point]
  have after : ((integer ++ '.' :: fraction) ++ rest).dropWhile radix.isDigit =
      '.' :: (fraction ++ rest) := by
    simp [List.dropWhile_append_of_pos front, point]
  have more : fractionOf radix ('.' :: (fraction ++ rest)) =
      fraction ++ rest.takeWhile radix.isDigit := List.takeWhile_append_of_pos back
  unfold ReadsBody bodyWidth
  rw [run, after, more, pointWidth, List.length_append, List.length_append, List.length_cons]
  cases rest with
  | nil => exact .inl (by simp; omega)
  | cons c rest =>
    by_cases digit : radix.isDigit c = true
    · refine .inr ⟨?_, c, rfl, .inl digit⟩
      rw [List.takeWhile_cons_of_pos digit, List.length_cons]
      omega
    · exact .inl (by simp [digit]; omega)

theorem IsBody.readsBody {radix : Radix} {body integer fraction : List Char}
    (digits : IsBody radix body integer fraction) (rest : List Char) :
    ReadsBody radix body integer fraction rest := by
  cases digits with
  | whole word => exact readsBody_whole word.2 rest
  | pointed word digits => exact readsBody_pointed word.2 digits rest
  | bare word => exact readsBody_pointed (List.forall_mem_nil _) word.2 rest

/-- An exponent part in front of a text is read as it is, or more is read. -/
theorem IsExponent.reads {radix : Radix} {limit : ℕ} {tail : List Char} {exponent : ℤ}
    (scaled : IsExponent radix limit tail exponent) (rest : List Char) :
    readExponent radix (Digits.valueUpTo limit) (tail ++ rest) = ⟨exponent, tail.length⟩ ∨
      tail.length < (readExponent radix (Digits.valueUpTo limit) (tail ++ rest)).width := by
  cases scaled with
  | absent =>
    rw [List.nil_append]
    cases rest with
    | nil => exact .inl rfl
    | cons mark rest =>
      unfold readExponent
      dsimp only
      split
      · exact .inr (by simp)
      · exact .inl rfl
  | @present mark sign word negative marked signed digits =>
    have follow : ∀ c, (word ++ rest).head? = some c → c ≠ '+' ∧ c ≠ '-' :=
      fun c first => ne_sign_of_isDigit (digits.head? first)
    obtain ⟨width, minus⟩ := signed.read follow
    have after : (sign ++ (word ++ rest)).drop sign.length = word ++ rest := List.drop_left
    have run : (word ++ rest).takeWhile Radix.decimal.isDigit =
        word ++ rest.takeWhile Radix.decimal.isDigit := List.takeWhile_append_of_pos digits.2
    rw [List.cons_append, List.append_assoc, readExponent]
    dsimp only
    rw [width, minus, after, run, if_pos ⟨marked, by simp [digits.1]⟩, Digits.valueUpTo_eq]
    -- the digits end with the word, or they go on
    cases more : rest.takeWhile Radix.decimal.isDigit with
    | nil => exact .inl (by simp; omega)
    | cons c digits => exact .inr (by simp; omega)

/-! ### Marks -/

/-- Digits, or a point and digits, stand in front of `text`. -/
def HasDigits (radix : Radix) (text : List Char) : Prop :=
  ¬(text.takeWhile radix.isDigit = [] ∧ fractionOf radix (text.dropWhile radix.isDigit) = [])

theorem hasDigits_cons {radix : Radix} {c : Char} {text : List Char} :
    HasDigits radix (c :: text) ↔ radix.isDigit c = true ∨
      c = '.' ∧ ∃ d, text.head? = some d ∧ radix.isDigit d = true := by
  have point := not_isDigit_point radix
  by_cases digit : radix.isDigit c = true
  · simp [HasDigits, digit]
  · by_cases dot : c = '.'
    · subst dot
      cases text with
      | nil => simp [HasDigits, point, fractionOf]
      | cons d text => by_cases digit : radix.isDigit d = true <;> simp [HasDigits, point, fractionOf, digit]
    · simp [HasDigits, digit, dot, fractionOf]

theorem IsBody.hasDigits {radix : Radix} {body integer fraction : List Char}
    (digits : IsBody radix body integer fraction) (rest : List Char) :
    HasDigits radix (body ++ rest) := by
  cases digits with
  | whole word =>
    obtain ⟨c, more, rfl⟩ := List.exists_cons_of_ne_nil word.1
    exact hasDigits_cons.mpr (.inl (word.2 c List.mem_cons_self))
  | @pointed integer fraction word digits =>
    obtain ⟨c, more, rfl⟩ := List.exists_cons_of_ne_nil word.1
    exact hasDigits_cons.mpr (.inl (word.2 c List.mem_cons_self))
  | bare word =>
    obtain ⟨c, more, rfl⟩ := List.exists_cons_of_ne_nil word.1
    exact hasDigits_cons.mpr (.inr ⟨rfl, c, rfl, word.2 c List.mem_cons_self⟩)

theorem markWidth_eq_two {mark : Char} {text : List Char} (letter : mark = 'x' ∨ mark = 'X')
    (digits : HasDigits .hexadecimal text) :
    markWidth .hexadecimal ('0' :: mark :: text) = 2 := by
  cases text with
  | nil => exact absurd digits (by simp [HasDigits, fractionOf])
  | cons c text =>
    rcases hasDigits_cons.mp digits with digit | ⟨rfl, d, first, digit⟩
    · have other : c ≠ '.' := by
        rintro rfl
        simp [not_isDigit_point] at digit
      rw [markWidth, if_pos ⟨letter, digit⟩]
      exact fun _ _ equal _ => other equal
    · obtain ⟨rest, rfl⟩ := List.head?_eq_some_iff.mp first
      rw [markWidth, if_pos ⟨letter, digit⟩]

/-- A mark is read only where digits follow it. -/
theorem exists_of_markWidth_ne_zero {radix : Radix} {text : List Char}
    (nonzero : markWidth radix text ≠ 0) :
    ∃ mark rest, radix = .hexadecimal ∧ text = '0' :: mark :: rest ∧ (mark = 'x' ∨ mark = 'X') ∧
      HasDigits .hexadecimal rest := by
  unfold markWidth at nonzero
  split at nonzero
  · exact absurd rfl nonzero
  · split at nonzero
    next spelled =>
      exact ⟨_, _, rfl, rfl, spelled.1, hasDigits_cons.mpr (.inr ⟨rfl, _, rfl, spelled.2⟩)⟩
    next => exact absurd rfl nonzero
  · split at nonzero
    next spelled => exact ⟨_, _, rfl, rfl, spelled.1, hasDigits_cons.mpr (.inl spelled.2)⟩
    next => exact absurd rfl nonzero
  · exact absurd rfl nonzero

theorem IsBody.chars {radix : Radix} {body integer fraction : List Char}
    (digits : IsBody radix body integer fraction) :
    ∀ c ∈ body, radix.isDigit c = true ∨ c = '.' := by
  intro c member
  cases digits with
  | whole word => exact .inl (word.2 c member)
  | pointed word digits =>
    rcases List.mem_append.mp member with front | back
    · exact .inl (word.2 c front)
    · rcases List.mem_cons.mp back with point | back
      · exact .inr point
      · exact .inl (digits c back)
  | bare word =>
    rcases List.mem_cons.mp member with point | back
    · exact .inr point
    · exact .inl (word.2 c back)

theorem IsMark.follow {radix : Radix} {mark body integer fraction : List Char}
    (marked : IsMark radix mark) (digits : IsBody radix body integer fraction) (rest : List Char) :
    ∀ c, (mark ++ (body ++ rest)).head? = some c → c ≠ '+' ∧ c ≠ '-' := by
  intro c first
  cases marked with
  | absent =>
    cases body with
    | nil => exact absurd (digits.hasDigits []) (by simp [HasDigits, fractionOf])
    | cons d body =>
      cases first
      rcases digits.chars c List.mem_cons_self with digit | rfl
      · exact ne_sign_of_isDigit digit
      · decide
  | lower =>
    cases first
    decide
  | upper =>
    cases first
    decide

/-- The mark in front of digits is read as it is. If there is none, the digits may still be read as
the first half of a mark. -/
theorem IsMark.reads {radix : Radix} {mark body integer fraction : List Char}
    (marked : IsMark radix mark) (digits : IsBody radix body integer fraction) (rest : List Char) :
    markWidth radix (mark ++ (body ++ rest)) = mark.length ∨
      mark = [] ∧ markWidth radix (body ++ rest) ≠ 0 := by
  cases marked with
  | absent =>
    by_cases none : markWidth radix (body ++ rest) = 0
    · exact .inl none
    · exact .inr ⟨rfl, none⟩
  | lower => exact .inl (markWidth_eq_two (.inl rfl) (digits.hasDigits rest))
  | upper => exact .inl (markWidth_eq_two (.inr rfl) (digits.hasDigits rest))

/-! ### A numeral in front of a text -/

theorem byteLength_of_ascii {word : List Char} (ascii : ∀ c ∈ word, c.toNat < 128) :
    byteLength word = word.length := by
  have narrow : Narrow word word.length := by
    induction word with
    | nil => exact narrow_zero []
    | cons c rest ih =>
      exact narrow_cons (ascii c List.mem_cons_self)
        (ih fun d member => ascii d (List.mem_cons_of_mem c member))
  rwa [Narrow, List.take_length] at narrow

theorem exponentMark_cases {radix : Radix} {c : Char} (marked : isExponentMark radix c = true) :
    radix = .decimal ∧ (c = 'e' ∨ c = 'E') ∨ radix = .hexadecimal ∧ (c = 'p' ∨ c = 'P') := by
  cases radix <;> simpa [isExponentMark] using marked

theorem IsExponent.chars {radix : Radix} {limit : ℕ} {tail : List Char} {exponent : ℤ}
    (scaled : IsExponent radix limit tail exponent) :
    ∀ c ∈ tail, isExponentMark radix c = true ∨ c = '+' ∨ c = '-' ∨ Radix.decimal.isDigit c = true := by
  intro c member
  cases scaled with
  | absent => cases member
  | present marked signed digits =>
    rcases List.mem_cons.mp member with rfl | member
    · exact .inl marked
    · rcases List.mem_append.mp member with sign | word
      · cases signed with
        | absent => cases sign
        | plus => exact .inr (.inl (List.mem_singleton.mp sign))
        | minus => exact .inr (.inr (.inl (List.mem_singleton.mp sign)))
      · exact .inr (.inr (.inr (digits.2 c word)))

theorem IsBody.ascii {radix : Radix} {body integer fraction : List Char}
    (digits : IsBody radix body integer fraction) : ∀ c ∈ body, c.toNat < 128 := by
  intro c member
  rcases digits.chars c member with digit | rfl
  · exact radix.toNat_lt_of_isDigit c digit
  · decide

theorem IsExponent.ascii {radix : Radix} {limit : ℕ} {tail : List Char} {exponent : ℤ}
    (scaled : IsExponent radix limit tail exponent) : ∀ c ∈ tail, c.toNat < 128 := by
  intro c member
  rcases scaled.chars c member with marked | rfl | rfl | digit
  · rcases exponentMark_cases marked with ⟨-, rfl | rfl⟩ | ⟨-, rfl | rfl⟩ <;> decide
  · decide
  · decide
  · exact Radix.decimal.toNat_lt_of_isDigit c digit

theorem byteLength_front {radix : Radix} {sign mark body integer fraction : List Char}
    {negative : Bool} (signed : IsSign sign negative) (marked : IsMark radix mark)
    (digits : IsBody radix body integer fraction) :
    byteLength (sign ++ mark ++ body) = sign.length + mark.length + body.length := by
  have first : byteLength sign = sign.length := by cases signed <;> rfl
  have second : byteLength mark = mark.length := by cases marked <;> rfl
  rw [byteLength_append, byteLength_append, first, second, byteLength_of_ascii digits.ascii]

/-- What is read where digits stand behind the sign and the mark. -/
theorem read?_of_hasDigits {radix : Radix} {text rest : List Char} {start : ℕ}
    (begins : signWidth text + markWidth radix (text.drop (signWidth text)) = start)
    (drops : text.drop start = rest) (digits : HasDigits radix rest) :
    let width := start + bodyWidth radix rest
    let exponent := readExponent radix (Digits.valueUpTo (exponentLimit + width))
      (rest.drop (bodyWidth radix rest))
    read? radix text = some ⟨radix, startsNegative text, rest.takeWhile radix.isDigit,
      fractionOf radix (rest.dropWhile radix.isDigit), exponent.value, width + exponent.width⟩ := by
  intro width exponent
  have lexed := body?_eq radix text
  dsimp only at lexed
  rw [begins, drops, if_neg digits] at lexed
  have behind : text.drop width = rest.drop (bodyWidth radix rest) := by
    rw [← List.drop_drop, drops]
  rw [read?, readWith?, lexed, Option.map_some]
  dsimp only
  rw [behind]

/-- A sign and digits in front of what does not make them longer are the numeral there, up to its
exponent. -/
theorem body?_of_isBody {sign body rest integer fraction : List Char} {negative : Bool}
    (signed : IsSign sign negative) (digits : IsBody .decimal body integer fraction)
    (ends : ¬Extends .decimal rest) :
    body? .decimal (sign ++ body ++ rest) =
      some ⟨.decimal, negative, integer, fraction, 0, sign.length + body.length⟩ := by
  obtain ⟨width, minus⟩ := signed.read ((IsMark.absent .decimal).follow digits rest)
  rw [List.nil_append] at width minus
  have begins : signWidth (sign ++ (body ++ rest)) +
      markWidth .decimal ((sign ++ (body ++ rest)).drop (signWidth (sign ++ (body ++ rest)))) =
        sign.length := width
  have lexed := body?_eq .decimal (sign ++ (body ++ rest))
  dsimp only at lexed
  rw [begins, List.drop_left, if_neg (digits.hasDigits rest), minus] at lexed
  rw [List.append_assoc, lexed]
  rcases digits.readsBody rest with ⟨length, whole, part⟩ | ⟨-, more⟩
  · rw [length, whole, part]
  · exact absurd more ends

theorem IsExponent.not_extends {radix : Radix} {limit : ℕ} {tail rest : List Char} {exponent : ℤ}
    (scaled : IsExponent radix limit tail exponent) (nonempty : tail ≠ []) :
    ¬Extends radix (tail ++ rest) := by
  rintro ⟨c, first, goes⟩
  cases scaled with
  | absent => exact nonempty rfl
  | present marked signed digits =>
    cases first
    rcases exponentMark_cases marked with ⟨rfl, rfl | rfl⟩ | ⟨rfl, rfl | rfl⟩ <;>
      exact absurd goes (by decide)

/-- Digits and an exponent part behind the sign and the mark of a numeral are read as they are, or
something longer is read. -/
theorem reads_behind_mark {radix : Radix} {text body tail rest integer fraction : List Char}
    {start : ℕ} {exponent : ℤ}
    (begins : signWidth text + markWidth radix (text.drop (signWidth text)) = start)
    (drops : text.drop start = body ++ (tail ++ rest))
    (digits : IsBody radix body integer fraction)
    (scaled : IsExponent radix (exponentLimit + (start + body.length)) tail exponent) :
    ∃ found, read? radix text = some found ∧
      (found = ⟨radix, startsNegative text, integer, fraction, exponent,
          start + body.length + tail.length⟩ ∨
        start + body.length + tail.length < found.width) := by
  refine ⟨_, read?_of_hasDigits begins drops (digits.hasDigits _), ?_⟩
  dsimp only
  rcases digits.readsBody (tail ++ rest) with ⟨length, whole, part⟩ | ⟨longer, more⟩
  · have behind : (body ++ (tail ++ rest)).drop body.length = tail ++ rest := List.drop_left
    rw [length, whole, part, behind]
    rcases scaled.reads rest with exact | longer
    · left
      rw [exact]
    · right
      omega
  · -- digits that go on leave no room for an exponent part
    have ended : tail = [] := by
      by_contra nonempty
      exact scaled.not_extends nonempty more
    subst ended
    right
    rw [List.nil_append, List.length_nil]
    rw [List.nil_append] at longer
    omega

/-- Digits without a mark may be the first half of a mark; then they are a lone zero. -/
theorem reads_half_mark {radix : Radix} {text body tail rest integer fraction : List Char}
    {limit : ℕ} {exponent : ℤ} (drops : text.drop (signWidth text) = body ++ (tail ++ rest))
    (digits : IsBody radix body integer fraction) (scaled : IsExponent radix limit tail exponent)
    (marked : markWidth radix (body ++ (tail ++ rest)) ≠ 0) :
    ∃ found, read? radix text = some found ∧
      signWidth text + body.length + tail.length < found.width := by
  obtain ⟨mark, after, rfl, equal, letter, follow⟩ := exists_of_markWidth_ne_zero marked
  have two := markWidth_eq_two letter follow
  have begins : signWidth text + markWidth .hexadecimal (text.drop (signWidth text)) =
      signWidth text + 2 := by
    rw [drops, equal, two]
  have behind : text.drop (signWidth text + 2) = after := by
    rw [← List.drop_drop, drops, equal]
    rfl
  refine ⟨_, read?_of_hasDigits begins behind follow, ?_⟩
  dsimp only
  have some_digit : 0 < bodyWidth .hexadecimal after := by
    rw [HasDigits, ← List.length_eq_zero_iff, ← List.length_eq_zero_iff] at follow
    rw [bodyWidth]
    omega
  -- the letter of the mark is in no part of a numeral behind its digits
  have short : (body ++ tail).length ≤ 1 := by
    by_contra long
    have member : mark ∈ body ++ tail := by
      have second : (body ++ tail ++ rest)[1]? = (body ++ tail)[1]? :=
        List.getElem?_append_left (by omega)
      rw [List.append_assoc, equal] at second
      exact List.mem_of_getElem? second.symm
    rcases List.mem_append.mp member with inBody | inTail
    · rcases letter with rfl | rfl <;> exact absurd (digits.chars _ inBody) (by decide)
    · rcases letter with rfl | rfl <;> exact absurd (scaled.chars _ inTail) (by decide)
  rw [List.length_append] at short
  omega

/-- A numeral in front of a text is read as it is, or something longer is read. -/
theorem Grammar.reads {radix : Radix} {word : List Char} {numeral : Numeral}
    (spelled : Grammar radix word numeral) (rest : List Char) :
    ∃ found, read? radix (word ++ rest) = some found ∧
      (found = numeral ∨ byteLength word < found.width) := by
  cases spelled with
  | @parts sign mark body tail integer fraction negative exponent signed marked digits scaled =>
    have bytes := byteLength_front signed marked digits
    have whole : byteLength (sign ++ mark ++ body ++ tail) =
        sign.length + mark.length + body.length + tail.length := by
      rw [byteLength_append, bytes, byteLength_of_ascii scaled.ascii]
    obtain ⟨width, minus⟩ := signed.read (marked.follow digits (tail ++ rest))
    have afterSign : (sign ++ (mark ++ (body ++ (tail ++ rest)))).drop sign.length =
        mark ++ (body ++ (tail ++ rest)) := List.drop_left
    have afterMark : (sign ++ (mark ++ (body ++ (tail ++ rest)))).drop (sign.length + mark.length) =
        body ++ (tail ++ rest) := by
      rw [← List.drop_drop, afterSign, List.drop_left]
    rw [bytes] at scaled
    rw [whole, ← minus]
    simp only [List.append_assoc]
    rcases marked.reads digits (tail ++ rest) with same | ⟨rfl, half⟩
    · refine reads_behind_mark ?_ afterMark digits scaled
      rw [width, afterSign, same]
    · rw [← width] at afterSign
      simp only [List.nil_append] at afterSign width ⊢
      obtain ⟨found, read, longer⟩ := reads_half_mark afterSign digits scaled half
      refine ⟨found, read, .inr ?_⟩
      rwa [width] at longer

/-- Reading takes the longest numeral of the grammar in front of a text, with the pieces that the
grammar gives it, and nothing exactly if no numeral stands there. -/
theorem read?_longest (radix : Radix) (text : List Char) :
    (read? radix text = none ↔
        ∀ word numeral, word <+: text → ¬Grammar radix word numeral) ∧
      ∀ numeral, read? radix text = some numeral ↔
        ∃ word, word <+: text ∧ Grammar radix word numeral ∧
          ∀ other pieces, other <+: text → Grammar radix other pieces →
            byteLength other ≤ byteLength word := by
  constructor
  · constructor
    · rintro nothing word numeral ⟨rest, rfl⟩ spelled
      obtain ⟨found, read, -⟩ := spelled.reads rest
      rw [nothing] at read
      cases read
    · intro none
      cases found : read? radix text with
      | none => rfl
      | some numeral => exact absurd (grammar_take found) (none _ _ (List.take_prefix _ _))
  · intro numeral
    constructor
    · intro found
      refine ⟨text.take numeral.width, List.take_prefix _ _, grammar_take found, ?_⟩
      rw [(spelled_of_readWith? found).narrow]
      rintro other pieces ⟨rest, rfl⟩ spelled
      obtain ⟨again, read, same | longer⟩ := spelled.reads rest <;>
        cases found.symm.trans read
      · rw [same, spelled.width_eq]
      · exact longer.le
    · rintro ⟨word, ⟨rest, rfl⟩, spelled, longest⟩
      obtain ⟨found, read, same | longer⟩ := spelled.reads rest
      · rw [read, same]
      · -- what is read would be a longer numeral in front of the text
        have shorter := longest _ _ (List.take_prefix _ _) (grammar_take read)
        rw [(spelled_of_readWith? read).narrow] at shorter
        omega

end DeclScan.Numeral
