import DeclScan.Digits
import Mathlib.Algebra.Order.Ring.Nat
import Mathlib.Data.List.TakeWhile
import Mathlib.Tactic.Linarith
import Mathlib.Tactic.Ring

/-!
Positional values: how they add up along a word, which zeros do not count, and between which powers
of the base they lie.
-/

namespace DeclScan

namespace Radix

/-- How many digits the base has. -/
def base : Radix → ℕ
  | decimal => 10
  | hexadecimal => 16

theorem isDigit_iff (radix : Radix) (c : Char) :
    radix.isDigit c = true ↔ (48 ≤ c.toNat ∧ c.toNat ≤ 57) ∨
      radix = hexadecimal ∧ ((97 ≤ c.toNat ∧ c.toNat ≤ 102) ∨ (65 ≤ c.toNat ∧ c.toNat ≤ 70)) := by
  have digit : c.isDigit = true ↔ 48 ≤ c.toNat ∧ c.toNat ≤ 57 := Char.isDigit_iff_toNat
  have order (a b : Char) : a ≤ b ↔ a.toNat ≤ b.toNat := UInt32.le_iff_toNat_le
  cases radix with
  | decimal => simp [isDigit, digit]
  | hexadecimal => simp [isDigit, digit, order, or_assoc]

end Radix

namespace Digits

theorem digitValue_spec {radix : Radix} {c : Char} (digit : radix.isDigit c = true) :
    digitValue c < radix.base ∧ (digitValue c = 0 → c = '0') := by
  have decimal : c.isDigit = true ↔ 48 ≤ c.toNat ∧ c.toNat ≤ 57 := Char.isDigit_iff_toNat
  have order (a b : Char) : a ≤ b ↔ a.toNat ≤ b.toNat := UInt32.le_iff_toNat_le
  -- a decimal digit is below both bases; a letter is a digit of the larger one only
  have least : 10 ≤ radix.base := by cases radix <;> decide
  rw [← Char.toNat_inj, digitValue]
  simp only [decimal, order, Char.reduceToNat]
  rcases (Radix.isDigit_iff radix c).mp digit with low | ⟨rfl, high⟩
  · rw [if_pos low]
    omega
  · have most : Radix.hexadecimal.base = 16 := rfl
    rw [if_neg (by omega)]
    split <;> [skip; split] <;> omega

theorem foldl_value (base : ℕ) (word : List Char) (start : ℕ) :
    word.foldl (fun total c => total * base + digitValue c) start =
      start * base ^ word.length + value base word := by
  induction word generalizing start with
  | nil => simp [value]
  | cons c rest ih =>
    rw [value, List.foldl_cons, List.foldl_cons, ih, ih (0 * base + digitValue c), List.length_cons,
      pow_succ]
    ring

@[simp] theorem value_nil (base : ℕ) : value base [] = 0 := rfl

theorem value_cons (base : ℕ) (c : Char) (word : List Char) :
    value base (c :: word) = digitValue c * base ^ word.length + value base word := by
  rw [value, List.foldl_cons, foldl_value, zero_mul, zero_add]

theorem value_append (base : ℕ) (front back : List Char) :
    value base (front ++ back) = value base front * base ^ back.length + value base back := by
  rw [value, List.foldl_append, foldl_value]
  rfl

@[simp] theorem digitValue_zero : digitValue '0' = 0 := by decide

theorem value_of_zeros (base : ℕ) {word : List Char} (zeros : ∀ c ∈ word, c = '0') :
    value base word = 0 := by
  induction word with
  | nil => rfl
  | cons c rest ih =>
    rw [value_cons, zeros c List.mem_cons_self, digitValue_zero,
      ih fun d member => zeros d (List.mem_cons_of_mem c member), zero_mul]

theorem value_dropWhile (base : ℕ) (word : List Char) :
    value base (word.dropWhile (· == '0')) = value base word := by
  have zeros : value base (word.takeWhile (· == '0')) = 0 :=
    value_of_zeros base fun c member => by simpa using List.mem_takeWhile_imp member
  rw [← List.takeWhile_append_dropWhile (p := (· == '0')) (l := word), value_append, zeros, zero_mul,
    zero_add, List.takeWhile_append_dropWhile]

theorem value_lt (base : ℕ) {word : List Char} (digits : ∀ c ∈ word, digitValue c < base) :
    value base word < base ^ word.length := by
  simpa using value_lt_pow digits

theorem le_value_cons (base : ℕ) {c : Char} (nonzero : digitValue c ≠ 0) (word : List Char) :
    base ^ word.length ≤ value base (c :: word) := by
  rw [value_cons]
  exact (Nat.le_mul_of_pos_left _ (Nat.pos_of_ne_zero nonzero)).trans (Nat.le_add_right _ _)

theorem value_take_drop (base count : ℕ) (word : List Char) :
    value base word =
      value base (word.take count) * base ^ (word.drop count).length +
        value base (word.drop count) := by
  rw [← value_append, List.take_append_drop]

/-- A word that does not start with zero and is longer than `count` fills the digits that are kept. -/
theorem le_value_take {base count : ℕ} {radix : Radix} {word : List Char}
    (digits : ∀ c ∈ word, radix.isDigit c = true) (start : word.head? ≠ some '0')
    (long : count < word.length) : base ^ count ≤ value base (word.take (count + 1)) := by
  cases word with
  | nil => simp at long
  | cons c rest =>
    have nonzero : digitValue c ≠ 0 := fun zero =>
      start (by rw [(digitValue_spec (digits c List.mem_cons_self)).2 zero]; rfl)
    have length : (rest.take count).length = count :=
      List.length_take_of_le (Nat.le_of_lt_succ long)
    rw [List.take_succ_cons]
    simpa only [length] using le_value_cons base nonzero (rest.take count)

theorem isDigit_dropWhile {radix : Radix} {word : List Char}
    (digits : ∀ c ∈ word, radix.isDigit c = true) :
    ∀ c ∈ word.dropWhile (· == '0'), radix.isDigit c = true :=
  fun c member => digits c ((List.dropWhile_suffix _).subset member)

theorem head?_dropWhile_ne (word : List Char) : (word.dropWhile (· == '0')).head? ≠ some '0' := by
  intro zero
  have first := List.head?_dropWhile_not (· == '0') word
  rw [zero] at first
  exact absurd first (by decide)

theorem dropWhile_of_head? {word : List Char} (first : word.head? ≠ some '0') :
    word.dropWhile (· == '0') = word := by
  cases word with
  | nil => rfl
  | cons c rest => exact List.dropWhile_cons_of_neg (by simpa using first)

/-- Behind the significant digits of a word stand the zeros that do not count. -/
theorem significant_append_zeros (word : List Char) :
    significant word ++ ((word.dropWhile (· == '0')).reverse.takeWhile (· == '0')).reverse =
      word.dropWhile (· == '0') := by
  rw [significant, ← List.reverse_append, List.takeWhile_append_dropWhile, List.reverse_reverse]

theorem head?_significant_ne (word : List Char) : (significant word).head? ≠ some '0' := by
  intro zero
  apply head?_dropWhile_ne word
  rw [← significant_append_zeros, List.head?_append, zero]
  rfl

theorem significant_ne_nil {word : List Char} (nonempty : word ≠ [])
    (first : word.head? ≠ some '0') : significant word ≠ [] := by
  obtain ⟨c, rest, rfl⟩ := List.exists_cons_of_ne_nil nonempty
  rw [significant, dropWhile_of_head? first]
  simp_all

theorem significant_cons_zero (word : List Char) : significant ('0' :: word) = significant word := by
  simp [significant]

theorem significant_significant (word : List Char) :
    significant (significant word) = significant word := by
  rw [significant, dropWhile_of_head? (head?_significant_ne word), significant, List.reverse_reverse,
    dropWhile_of_head? (head?_dropWhile_ne _)]

theorem value_eq_zero_iff {base : ℕ} (positive : 0 < base) {radix : Radix} {word : List Char}
    (digits : ∀ c ∈ word, radix.isDigit c = true) :
    value base word = 0 ↔ ∀ c ∈ word, c = '0' := by
  constructor
  · intro zero
    -- behind the zeros in front would stand a digit that counts
    have empty : word.dropWhile (· == '0') = [] := by
      rw [← value_dropWhile] at zero
      cases rest : word.dropWhile (· == '0') with
      | nil => rfl
      | cons c more =>
        have digit := isDigit_dropWhile digits c (rest ▸ List.mem_cons_self)
        have nonzero : digitValue c ≠ 0 := by
          intro none
          apply head?_dropWhile_ne word
          rw [rest, (digitValue_spec digit).2 none]
          rfl
        have large := le_value_cons base nonzero more
        rw [← rest, zero] at large
        exact absurd large (Nat.pow_pos positive).not_ge
    intro c member
    simpa using List.dropWhile_eq_nil_iff.mp empty c member
  · exact value_of_zeros base

/-! ### The digits of a number -/

theorem exists_digit_of_mem_toDigits {base n : ℕ} (two : 1 < base) {c : Char}
    (member : c ∈ Nat.toDigits base n) : ∃ d < base, c = d.digitChar := by
  induction n using Nat.strongRecOn with
  | ind n ih =>
    rcases Nat.lt_or_ge n base with small | large
    · rw [Nat.toDigits_of_lt_base small, List.mem_singleton] at member
      exact ⟨n, small, member⟩
    · rw [Nat.toDigits_of_base_le two large, List.mem_append, List.mem_singleton] at member
      rcases member with front | rfl
      · exact ih (n / base) (Nat.div_lt_self (by omega) two) front
      · exact ⟨n % base, Nat.mod_lt n (by omega), rfl⟩

/-- The digits of a number denote it, whatever letters `f` writes for them. -/
theorem value_map_toDigits {base : ℕ} (two : 1 < base) {f : Char → Char}
    (same : ∀ d < base, digitValue (f d.digitChar) = d) (n : ℕ) :
    value base ((Nat.toDigits base n).map f) = n := by
  induction n using Nat.strongRecOn with
  | ind n ih =>
    rcases Nat.lt_or_ge n base with small | large
    · rw [Nat.toDigits_of_lt_base small, List.map_singleton, value_cons, same n small]
      simp
    · have front := ih (n / base) (Nat.div_lt_self (by omega) two)
      have last := same (n % base) (Nat.mod_lt n (by omega))
      rw [Nat.toDigits_of_base_le two large, List.map_append, List.map_singleton, value_append,
        front, value_cons, last]
      simp only [List.length_singleton, List.length_nil, pow_one, pow_zero, mul_one, value_nil,
        add_zero]
      exact Nat.div_add_mod' n base

theorem value_toDigits (n : ℕ) : value 10 (Nat.toDigits 10 n) = n := by
  have same := value_map_toDigits (f := id) (by decide : 1 < 10) (by decide) n
  rwa [List.map_id] at same

theorem toDigits_injective : Function.Injective (Nat.toDigits 10) :=
  Function.LeftInverse.injective value_toDigits

/-- The digits of a number end in front of a character that is no digit. -/
theorem takeWhile_toDigits_append (n : ℕ) {c : Char} (stops : c.isDigit = false)
    (rest : List Char) :
    (Nat.toDigits 10 n ++ c :: rest).takeWhile Char.isDigit = Nat.toDigits 10 n := by
  have digits : ∀ d ∈ Nat.toDigits 10 n, d.isDigit = true :=
    fun _ => Nat.isDigit_of_mem_toDigits (by decide) (by decide)
  rw [List.takeWhile_append_of_pos digits, List.takeWhile_cons_of_neg (by simp [stops]),
    List.append_nil]

end Digits

end DeclScan
