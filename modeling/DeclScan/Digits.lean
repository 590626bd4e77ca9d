/-!
Words of digits and their positional values. `value` is the definition; `evaluate`, `valueBelow?`
and `valueUpTo` compute it, or what is asked of it, in time that suits words of any length. The
significant digits of a decimal word have a value that does not end in zero
(`value_significant_mod`).
-/

namespace DeclScan

/-- The base in which a word of digits is read. -/
inductive Radix where
  | decimal
  | hexadecimal
deriving DecidableEq

namespace Radix

/-- Whether `c` is a digit of the base. Hexadecimal digits have either letter case. -/
def isDigit : Radix → Char → Bool
  | decimal, c => c.isDigit
  | hexadecimal, c => c.isDigit || ('a' ≤ c && c ≤ 'f') || ('A' ≤ c && c ≤ 'F')

end Radix

namespace Digits

/-- The number that a digit stands for, in either letter case. -/
def digitValue (c : Char) : Nat :=
  if c.isDigit then c.toNat - '0'.toNat
  else if 'a' ≤ c ∧ c ≤ 'f' then c.toNat - 'a'.toNat + 10
  else if 'A' ≤ c ∧ c ≤ 'F' then c.toNat - 'A'.toNat + 10
  else 0

/-- The positional value of a word, most significant digit first. -/
def value (base : Nat) (word : List Char) : Nat :=
  word.foldl (fun total c => total * base + digitValue c) 0

/-- The value of `word` if it is below `bound`. Stops at the first digit that reaches the bound. -/
def valueBelow? (base bound : Nat) (word : List Char) : Option Nat :=
  go word 0
where
  go : List Char → Nat → Option Nat
    | [], total => some total
    | c :: rest, total =>
      if total * base + digitValue c < bound then go rest (total * base + digitValue c) else none

/-- The value of a decimal word, or `limit` if that is less. -/
def valueUpTo (limit : Nat) (word : List Char) : Nat :=
  word.foldl (fun total c => min (total * 10 + digitValue c) limit) 0

/-- The digits of a word from the first to the last that is not zero. -/
def significant (word : List Char) : List Char :=
  ((word.dropWhile (· == '0')).reverse.dropWhile (· == '0')).reverse

/-- The value of a list of places in a base, least significant first. -/
def weigh (base : Nat) : List Nat → Nat
  | [] => 0
  | place :: rest => place + base * weigh base rest

/-- Joins neighbouring places, so that the list denotes the same number in the squared base. -/
def pairs (base : Nat) : List Nat → List Nat
  | [] => []
  | [place] => [place]
  | low :: high :: rest => (low + base * high) :: pairs base rest

/-- Joins neighbouring places behind those already in `joined`, which come latest first. -/
def pairUp (base : Nat) : List Nat → List Nat → List Nat
  | [], joined => joined.reverse
  | [place], joined => (place :: joined).reverse
  | low :: high :: rest, joined => pairUp base rest ((low + base * high) :: joined)

theorem pairUp_eq (base : Nat) (places joined : List Nat) :
    pairUp base places joined = joined.reverse ++ pairs base places := by
  fun_induction pairUp base places joined with
  | case1 => simp [pairs]
  | case2 => simp [pairs]
  | case3 low high rest joined ih => simp [ih, pairs]

theorem length_pairs (base : Nat) (places : List Nat) :
    (pairs base places).length = (places.length + 1) / 2 := by
  fun_induction pairs base places with
  | case1 => rfl
  | case2 => simp
  | case3 low high rest ih =>
    simp only [List.length_cons, ih]
    omega

theorem weigh_pairs (base : Nat) (places : List Nat) :
    weigh (base * base) (pairs base places) = weigh base places := by
  fun_induction pairs base places with
  | case1 => rfl
  | case2 => simp [weigh]
  | case3 low high rest ih =>
    simp only [weigh, ih, Nat.mul_add, Nat.mul_assoc]
    omega

/-- The value of a list of places, least significant first, by repeated pairing. -/
def collapse (base : Nat) (places : List Nat) : Nat :=
  match places with
  | [] => 0
  | [place] => place
  | low :: high :: rest => collapse (base * base) (pairUp base (low :: high :: rest) [])
termination_by places.length
decreasing_by
  rw [pairUp_eq, List.reverse_nil, List.nil_append, length_pairs]
  simp only [List.length_cons]
  omega

theorem collapse_eq_weigh (base : Nat) (places : List Nat) :
    collapse base places = weigh base places := by
  fun_induction collapse base places with
  | case1 => rfl
  | case2 => simp [weigh]
  | case3 base low high rest ih =>
    rw [ih, pairUp_eq, List.reverse_nil, List.nil_append, weigh_pairs]

/-- The positional value of a word, by halves: long words meet few long products. -/
def evaluate (base : Nat) (word : List Char) : Nat :=
  collapse base (word.reverse.map digitValue)

theorem weigh_map_digitValue (base : Nat) (word : List Char) :
    weigh base (word.map digitValue) =
      word.foldr (fun c total => total * base + digitValue c) 0 := by
  induction word with
  | nil => rfl
  | cons c rest ih =>
    simp only [List.map_cons, weigh, ih, List.foldr_cons]
    rw [Nat.mul_comm base, Nat.add_comm]

theorem evaluate_eq_value (base : Nat) (word : List Char) :
    evaluate base word = value base word := by
  rw [evaluate, collapse_eq_weigh, weigh_map_digitValue, List.foldr_reverse, value]

theorem valueBelow?_go (base bound : Nat) (positive : 0 < base) (word : List Char) (total : Nat)
    (below : total < bound) :
    valueBelow?.go base bound word total =
      if word.foldl (fun total c => total * base + digitValue c) total < bound then
        some (word.foldl (fun total c => total * base + digitValue c) total)
      else none := by
  induction word generalizing total with
  | nil => simp [valueBelow?.go, below]
  | cons c rest ih =>
    rw [valueBelow?.go, List.foldl_cons]
    split
    next fits => exact ih _ fits
    next large =>
      have grows : ∀ (word : List Char) (start : Nat),
          start ≤ word.foldl (fun total c => total * base + digitValue c) start := by
        intro word
        induction word with
        | nil => exact fun start => Nat.le_refl start
        | cons d rest step =>
          intro start
          have more := step (start * base + digitValue d)
          have scaled := Nat.le_mul_of_pos_right start positive
          rw [List.foldl_cons]
          omega
      have reached := grows rest (total * base + digitValue c)
      rw [if_neg (by omega)]

/-- A bounded reading is the value of the word, and refuses exactly what reaches the bound. -/
theorem valueBelow?_eq (base bound : Nat) (positive : 0 < base) (some_bound : 0 < bound)
    (word : List Char) :
    valueBelow? base bound word =
      if value base word < bound then some (value base word) else none :=
  valueBelow?_go base bound positive word 0 some_bound

theorem valueUpTo_go (limit : Nat) (word : List Char) (total cut : Nat)
    (same : cut = min total limit) :
    word.foldl (fun total c => min (total * 10 + digitValue c) limit) cut =
      min (word.foldl (fun total c => total * 10 + digitValue c) total) limit := by
  induction word generalizing total cut with
  | nil => exact same
  | cons c rest ih =>
    rw [List.foldl_cons, List.foldl_cons]
    exact ih _ _ (by omega)

/-- A cut-off reading is the lesser of the value and the limit. -/
theorem valueUpTo_eq (limit : Nat) (word : List Char) :
    valueUpTo limit word = min (value 10 word) limit :=
  valueUpTo_go limit word 0 0 (by omega)

theorem digitValue_decimal {c : Char} (digit : Radix.decimal.isDigit c = true) :
    digitValue c < 10 ∧ (digitValue c = 0 → c = '0') := by
  have range := Char.isDigit_iff_toNat.mp digit
  have least : '0'.toNat = 48 := rfl
  have most : '9'.toNat = 57 := rfl
  have digit : c.isDigit = true := digit
  rw [digitValue, if_pos digit, ← Char.toNat_inj]
  omega

theorem foldl_lt_pow {base : Nat} {word : List Char} (digits : ∀ c ∈ word, digitValue c < base)
    {total count : Nat} (below : total < Nat.pow base count) :
    word.foldl (fun total c => total * base + digitValue c) total <
      Nat.pow base (count + word.length) := by
  induction word generalizing total count with
  | nil => exact below
  | cons c rest ih =>
    have digit := digits c List.mem_cons_self
    have scaled : (total + 1) * base ≤ Nat.pow base (count + 1) := Nat.mul_le_mul_right base below
    rw [Nat.add_mul] at scaled
    rw [List.foldl_cons, List.length_cons, ← Nat.add_assoc, Nat.add_right_comm]
    exact ih (fun d member => digits d (List.mem_cons_of_mem c member)) (by omega)

theorem value_lt_pow {base : Nat} {word : List Char} (digits : ∀ c ∈ word, digitValue c < base) :
    value base word < Nat.pow base word.length := by
  have below : 0 < Nat.pow base 0 := Nat.one_pos
  have whole := foldl_lt_pow digits below
  rwa [Nat.zero_add] at whole

theorem value_concat (base : Nat) (word : List Char) (c : Char) :
    value base (word ++ [c]) = value base word * base + digitValue c := by
  simp [value]

theorem mem_of_mem_significant {word : List Char} {c : Char} (member : c ∈ significant word) :
    c ∈ word := by
  rw [significant, List.mem_reverse] at member
  have kept := (List.dropWhile_sublist _).subset member
  exact (List.dropWhile_sublist _).subset (List.mem_reverse.mp kept)

/-- The last significant digit counts. -/
theorem value_significant_mod {word : List Char}
    (digits : ∀ c ∈ word, Radix.decimal.isDigit c = true) (nonempty : significant word ≠ []) :
    value 10 (significant word) % 10 ≠ 0 := by
  have members (c : Char) (member : c ∈ significant word) : Radix.decimal.isDigit c = true :=
    digits c (mem_of_mem_significant member)
  have first := List.head?_dropWhile_not (· == '0') (word.dropWhile (· == '0')).reverse
  unfold significant at members nonempty ⊢
  cases back : (word.dropWhile (· == '0')).reverse.dropWhile (· == '0') with
  | nil => simp [back] at nonempty
  | cons c front =>
    rw [back] at first members
    have last : c ≠ '0' := by simpa using first
    have digit := digitValue_decimal (members c (by simp))
    have counts : digitValue c ≠ 0 := mt digit.2 last
    rw [List.reverse_cons, value_concat]
    omega

end Digits

end DeclScan
