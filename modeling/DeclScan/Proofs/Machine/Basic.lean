import DeclScan.Integer
import DeclScan.Proofs.LiteralScan
import DeclScan.Proofs.Numeral

/-!
Steps of a machine with words of 64 bits. Such a machine keeps a text as bytes and a place in it as a
byte offset; it cuts the text between two offsets, adds and subtracts in fixed width, and looks at one
byte at a time. A step that it cannot take is a fault.

`cut` and `tail` stop where a span is none of the text, `word`, `difference` and `signed` where a
number leaves its type. `allocate` stops where the memory has no room for a buffer; which buffers it
has room for is not known (`Allocator`), so all that can be said of a computation that asks for some
is that it comes to a value unless it is refused one (`Computes`).

A single byte is seen as the character with its number (`glyphs`): up to the first character beyond
ASCII a text and its glyphs are alike, so questions about signs, marks and digits have the same
answer for both.
-/

namespace DeclScan.Machine

open Text

/-- Why a computation stops. -/
inductive Fault where
  /-- A span is out of order or out of range, or one of its ends is inside a character. -/
  | cut
  /-- A number does not fit its type. -/
  | overflow
  /-- A number is shifted by no bit, or by more than it has. -/
  | shift
  /-- A power of two is not a normal double. -/
  | power
  /-- A loop does not get ahead. -/
  | endless
  /-- The memory has no room for a buffer. -/
  | memory
deriving DecidableEq

/-- A computation that stops at its first fault. -/
abbrev Checked := Except Fault

@[simp] theorem ok_bind {α β : Type} (value : α) (next : α → Checked β) :
    (Except.ok value >>= next) = next value := rfl

@[simp] theorem error_bind {α β : Type} (fault : Fault) (next : α → Checked β) :
    (Except.error fault >>= next) = .error fault := rfl

/-! ### Numbers -/

/-- A sum or a count in a word without a sign. -/
def word (n : ℕ) : Checked ℕ := if n < 2 ^ 64 then .ok n else .error .overflow

/-- A difference of words without a sign. -/
def difference (m n : ℕ) : Checked ℕ := if n ≤ m then .ok (m - n) else .error .overflow

/-- A number with a sign, in so many bits. -/
def signed (bits : ℕ) (n : ℤ) : Checked ℤ :=
  if -2 ^ (bits - 1) ≤ n ∧ n < 2 ^ (bits - 1) then .ok n else .error .overflow

/-- A number with a sign in 64 bits; instead of one that does not fit, the nearest that does. -/
def saturate (n : ℤ) : ℤ := max (-2 ^ 63) (min n (2 ^ 63 - 1))

theorem word_of_lt {n : ℕ} (fits : n < 2 ^ 64) : word n = .ok n := if_pos fits

theorem difference_of_le {m n : ℕ} (order : n ≤ m) : difference m n = .ok (m - n) := if_pos order

theorem signed_of_mem {bits : ℕ} {n : ℤ} (low : -2 ^ (bits - 1) ≤ n) (high : n < 2 ^ (bits - 1)) :
    signed bits n = .ok n := if_pos ⟨low, high⟩

theorem signed_ite {bits n : ℕ} (negative : Prop) [Decidable negative] (fits : n < 2 ^ (bits - 1)) :
    signed bits (if negative then -(n : ℤ) else n) = .ok (if negative then -(n : ℤ) else n) := by
  have below : (n : ℤ) < 2 ^ (bits - 1) := by exact_mod_cast fits
  apply signed_of_mem
  · split <;> omega
  · split <;> omega

/-! ### Memory -/

/-- Which sizes of buffers the memory of a machine has room for. -/
class Allocator where
  grants : ℕ → Bool
  -- the addresses of a process do not reach that far
  lt_of_grants : ∀ capacity, grants capacity = true → capacity < 2 ^ 61

/-- A memory with room for each buffer of at most so many bytes, as far as addresses reach. -/
abbrev Allocator.upTo (size : ℕ) : Allocator where
  grants capacity := decide (capacity ≤ size ∧ capacity < 2 ^ 61)
  lt_of_grants _ granted := (of_decide_eq_true granted).2

section

variable [Allocator]

/-- Asks for a buffer. -/
def allocate (capacity : ℕ) : Checked Unit :=
  if Allocator.grants capacity then .ok () else .error .memory

/-- The memory has no room for some buffer of at most so many bytes. -/
def Refuses (size : ℕ) : Prop := ∃ capacity ≤ size, Allocator.grants capacity = false

end

theorem not_refuses_upTo {size room : ℕ} (small : room < 2 ^ 61) (within : size ≤ room) :
    letI := Allocator.upTo room
    ¬Refuses size := by
  rintro ⟨capacity, less, refused⟩
  have fits := less.trans within
  exact of_decide_eq_false refused ⟨fits, fits.trans_lt small⟩

/-- A computation comes to a value, unless it stops for want of memory, as it may if `refused`. -/
def Computes {α : Type} (refused : Prop) (computation : Checked α) (value : α) : Prop :=
  computation = .ok value ∨ refused ∧ computation = .error .memory

namespace Computes

variable {α β : Type} {refused : Prop} {computation : Checked α} {value : α}

theorem of_ok (done : computation = .ok value) : Computes refused computation value := .inl done

theorem mono {refused' : Prop} (weaker : refused → refused')
    (computes : Computes refused computation value) : Computes refused' computation value :=
  computes.imp_right (And.imp_left weaker)

theorem ok (granted : ¬refused) (computes : Computes refused computation value) :
    computation = .ok value :=
  computes.resolve_right fun stops => granted stops.1

theorem bind {next : α → Checked β} {result : β} (computes : Computes refused computation value)
    (continues : Computes refused (next value) result) :
    Computes refused (computation >>= next) result := by
  rcases computes with done | ⟨refuses, stops⟩
  · rwa [done, ok_bind]
  · rw [stops, error_bind]
    exact .inr ⟨refuses, rfl⟩

/-- Whatever value the computation returns is the one. -/
theorem eq_of_ok {other : α} (computes : Computes refused computation value)
    (done : computation = .ok other) : other = value := by
  rcases computes with same | ⟨-, stops⟩
  · exact Except.ok.inj (done.symm.trans same)
  · cases done.symm.trans stops

end Computes

/-- What follows on a buffer that is granted is all that counts. -/
theorem computes_allocate [Allocator] {α : Type} {capacity size : ℕ} (within : capacity ≤ size)
    {next : Checked α} {value : α}
    (continues : capacity < 2 ^ 61 → Computes (Refuses size) next value) :
    Computes (Refuses size) (allocate capacity >>= fun _ => next) value := by
  rw [allocate]
  split
  next granted => exact continues (Allocator.lt_of_grants capacity granted)
  next refused =>
    have refuses : Refuses size := ⟨capacity, within, by simpa using refused⟩
    exact .inr ⟨refuses, rfl⟩

/-! ### Spans -/

/-- The text from a byte offset on. -/
def tail (text : List Char) (start : ℕ) : Checked (List Char) :=
  (dropBytes? text start).elim (.error .cut) .ok

/-- The text between two byte offsets. -/
def cut (text : List Char) (start stop : ℕ) : Checked (List Char) :=
  (slice? text start stop).elim (.error .cut) .ok

theorem tail_append (front back : List Char) :
    tail (front ++ back) (byteLength front) = .ok back := by
  rw [tail, dropBytes?_append, Option.elim_some]

theorem cut_append (front middle back : List Char) :
    cut (front ++ middle ++ back) (byteLength front) (byteLength (front ++ middle)) =
      .ok middle := by
  rw [cut, slice?_append, Option.elim_some]

theorem tail_of_narrow {text : List Char} {count : ℕ} (narrow : Narrow text count) :
    tail text count = .ok (text.drop count) := by
  have found := tail_append (text.take count) (text.drop count)
  rwa [List.take_append_drop, narrow] at found

theorem cut_of_narrow {text : List Char} {m n : ℕ} (front : Narrow text m)
    (middle : Narrow (text.drop m) n) :
    cut text m (m + n) = .ok ((text.drop m).take n) := by
  have found := cut_append (text.take m) ((text.drop m).take n) ((text.drop m).drop n)
  rwa [List.append_assoc, List.take_append_drop, List.take_append_drop, byteLength_append,
    front, middle] at found

theorem le_of_narrow {text : List Char} {count : ℕ} (narrow : Narrow text count) :
    count ≤ byteLength text := by
  have whole := byteLength_append (text.take count) (text.drop count)
  rw [List.take_append_drop, narrow] at whole
  omega

/-! ### Bytes as characters -/

/-- The bytes of a text, each as the character with its number. -/
def glyphs (text : List Char) : List Char := (bytes text).map Char.ofUInt8

/-- The same up to the first character beyond ASCII, which stands at the same place in both. -/
inductive Alike : List Char → List Char → Prop where
  | nil : Alike [] []
  | ascii {c : Char} {left right : List Char} :
      c.toNat < 128 → Alike left right → Alike (c :: left) (c :: right)
  | wide {c d : Char} {left right : List Char} :
      128 ≤ c.toNat → 128 ≤ d.toNat → Alike (c :: left) (d :: right)

theorem toNat_ofUInt8 (b : UInt8) : (Char.ofUInt8 b).toNat = b.toNat := UInt8.toNat_toUInt32 b

theorem alike_glyphs (text : List Char) : Alike (glyphs text) text := by
  induction text with
  | nil => exact .nil
  | cons c rest ih =>
    rcases Nat.lt_or_ge c.toNat 128 with ascii | wide
    · -- one byte, and its number is that of the character
      have same : Char.ofUInt8 (UInt8.ofNat c.toNat) = c := by
        rw [← Char.toNat_inj, toNat_ofUInt8, toNat_byte ascii]
      rw [glyphs, bytes_cons, utf8EncodeChar_eq_byte ascii, List.map_append,
        List.map_singleton, same]
      exact .ascii ascii ih
    · obtain ⟨b, more, encoded⟩ :=
        List.exists_cons_of_ne_nil (String.utf8EncodeChar_ne_nil (c := c))
      have large := le_of_mem_utf8EncodeChar wide (encoded ▸ List.mem_cons_self)
      rw [glyphs, bytes_cons, encoded, List.cons_append, List.map_cons]
      exact .wide (by rwa [toNat_ofUInt8]) wide

theorem drop_glyphs {text : List Char} {count : ℕ} (narrow : Narrow text count) :
    (glyphs text).drop count = glyphs (text.drop count) := by
  have whole := bytes_append (text.take count) (text.drop count)
  have length := length_bytes (text.take count)
  rw [narrow] at length
  rw [List.take_append_drop] at whole
  rw [glyphs, whole, ← List.map_drop, List.drop_left' length, glyphs]

theorem getElem?_glyphs {text : List Char} {place : ℕ} (narrow : Narrow text place) :
    (glyphs text)[place]? = (glyphs (text.drop place)).head? := by
  rw [← drop_glyphs narrow, List.head?_drop]

namespace Alike

variable {left right : List Char}

theorem takeWhile_eq {p : Char → Bool} (ascii : ∀ c, p c = true → c.toNat < 128)
    (alike : Alike left right) : left.takeWhile p = right.takeWhile p := by
  have outside {c : Char} (wide : 128 ≤ c.toNat) : ¬p c = true :=
    fun member => absurd (ascii c member) (by omega)
  induction alike with
  | nil => rfl
  | ascii _ _ ih => rw [List.takeWhile_cons, List.takeWhile_cons, ih]
  | wide first second =>
    rw [List.takeWhile_cons_of_neg (outside first), List.takeWhile_cons_of_neg (outside second)]

theorem any_head?_eq {p : Char → Bool} (ascii : ∀ c, p c = true → c.toNat < 128)
    (alike : Alike left right) : left.head?.any p = right.head?.any p := by
  have outside {c : Char} (wide : 128 ≤ c.toNat) : p c = false :=
    Bool.eq_false_iff.mpr fun member => absurd (ascii c member) (by omega)
  cases alike with
  | nil => rfl
  | ascii _ _ => rfl
  | wide first second => simp [outside first, outside second]

theorem head?_eq_iff {c : Char} (ascii : c.toNat < 128) (alike : Alike left right) :
    left.head? = some c ↔ right.head? = some c := by
  cases alike with
  | nil => rfl
  | ascii _ _ => rfl
  | wide first second =>
    have other {d : Char} (wide : 128 ≤ d.toNat) : d ≠ c := by
      rintro rfl
      omega
    simp [other first, other second]

end Alike

end DeclScan.Machine
