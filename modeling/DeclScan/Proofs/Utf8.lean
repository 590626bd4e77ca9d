import DeclScan.Text.Bytes
import Mathlib.Data.List.Basic

/-!
Texts and their UTF-8 form. A text is a list of characters and its offsets are sums of character
widths; the statements here carry both over to the bytes of the encoded text, where a character
boundary is a byte position in front of which, and behind which, stands valid UTF-8.
-/

namespace DeclScan.Text

theorem size_toByteArray (text : List Char) :
    (String.ofList text).toByteArray.size = byteLength text := by
  rw [String.toByteArray_ofList]
  induction text with
  | nil => simp
  | cons c rest ih =>
    rw [List.utf8Encode_cons, ByteArray.size_append, ih, List.utf8Encode_singleton,
      List.size_toByteArray, String.length_utf8EncodeChar, byteLength_cons]

theorem utf8ByteSize_ofList (text : List Char) :
    (String.ofList text).utf8ByteSize = byteLength text := by
  rw [← String.size_toByteArray, size_toByteArray]

/-- A place between two characters is a character boundary of the encoded text. -/
theorem isValid_byteLength (front back : List Char) :
    String.Pos.Raw.IsValid (String.ofList (front ++ back)) ⟨byteLength front⟩ := by
  -- a boundary is where the text can be cut into two texts
  rw [String.Pos.Raw.isValid_iff_exists_append]
  refine ⟨String.ofList front, String.ofList back, String.ofList_append, ?_⟩
  ext
  exact (utf8ByteSize_ofList front).symm

/-- What stands between two places takes the bytes between their offsets. -/
theorem extract_toByteArray (front middle back : List Char) :
    (String.ofList (front ++ middle ++ back)).toByteArray.extract (byteLength front)
        (byteLength (front ++ middle)) =
      (String.ofList middle).toByteArray := by
  have bytes : (String.ofList (front ++ middle ++ back)).toByteArray =
      (String.ofList front).toByteArray ++
        ((String.ofList middle).toByteArray ++ (String.ofList back).toByteArray) := by
    rw [List.append_assoc, String.ofList_append, String.ofList_append, String.toByteArray_append,
      String.toByteArray_append]
  rw [bytes, byteLength_append, ← size_toByteArray front, ← size_toByteArray middle,
    ← Nat.add_zero (String.ofList front).toByteArray.size, Nat.add_assoc, Nat.zero_add,
    ByteArray.extract_append_size_add]
  exact ByteArray.extract_append_eq_left rfl

/-! ### Bytes of a text -/

/-- The bytes of a text in UTF-8. -/
def bytes (text : List Char) : List UInt8 := text.flatMap String.utf8EncodeChar

@[simp] theorem bytes_nil : bytes [] = [] := rfl

@[simp] theorem bytes_cons (c : Char) (rest : List Char) :
    bytes (c :: rest) = String.utf8EncodeChar c ++ bytes rest := rfl

@[simp] theorem bytes_append (front back : List Char) :
    bytes (front ++ back) = bytes front ++ bytes back := by
  simp [bytes]

theorem length_bytes (text : List Char) : (bytes text).length = byteLength text := by
  induction text with
  | nil => rfl
  | cons c rest ih => simp [ih]

theorem bytes_prefix_iff (word text : List Char) : bytes word <+: bytes text ↔ word <+: text := by
  constructor
  · rintro ⟨rest, same⟩
    apply List.isPrefix_of_utf8Encode_append_eq_utf8Encode rest.toByteArray
    rw [List.utf8Encode, List.utf8Encode, ← List.toByteArray_append]
    exact congrArg List.toByteArray same
  · rintro ⟨rest, rfl⟩
    exact ⟨bytes rest, (bytes_append word rest).symm⟩

theorem exists_first_byte {text : List Char} (nonempty : text ≠ []) :
    ∃ b rest, bytes text = b :: rest ∧ b.IsUTF8FirstByte := by
  obtain ⟨c, more, rfl⟩ := List.exists_cons_of_ne_nil nonempty
  have first := UInt8.isUTF8FirstByte_getElem_zero_utf8EncodeChar (c := c)
  obtain ⟨b, rest, same⟩ := List.exists_cons_of_ne_nil (String.utf8EncodeChar_ne_nil (c := c))
  simp only [same, List.getElem_cons_zero] at first
  exact ⟨b, rest ++ bytes more, by rw [bytes_cons, same, List.cons_append], first⟩

/-- The first byte of a character stands at a character boundary only. -/
theorem exists_split_of_first_byte {text : List Char} {place : Nat} {b : UInt8}
    (stands : (bytes text)[place]? = some b) (first : b.IsUTF8FirstByte) :
    ∃ front back, text = front ++ back ∧ byteLength front = place := by
  induction text generalizing place with
  | nil => cases stands
  | cons c rest ih =>
    rcases Nat.lt_or_ge place (String.utf8EncodeChar c).length with inside | behind
    · -- of the bytes of one character only the first can be one
      rw [bytes_cons, List.getElem?_append_left inside, List.getElem?_eq_getElem inside] at stands
      cases stands
      have start : place = 0 := UInt8.isUTF8FirstByte_getElem_utf8EncodeChar.mp first
      exact ⟨[], c :: rest, rfl, start.symm⟩
    · rw [bytes_cons, List.getElem?_append_right behind] at stands
      obtain ⟨front, back, rfl, length⟩ := ih stands
      rw [String.length_utf8EncodeChar] at behind length
      exact ⟨c :: front, back, rfl, by rw [byteLength_cons]; omega⟩

/-- The bytes of a word stand only where the word itself stands. -/
theorem bytes_prefix_drop_iff {word : List Char} (nonempty : word ≠ []) (text : List Char)
    (place : Nat) :
    bytes word <+: (bytes text).drop place ↔
      ∃ front back, text = front ++ back ∧ byteLength front = place ∧ word <+: back := by
  have behind (front back : List Char) :
      (bytes (front ++ back)).drop (byteLength front) = bytes back := by
    rw [bytes_append, ← length_bytes, List.drop_left]
  constructor
  · intro start
    obtain ⟨b, rest, same, first⟩ := exists_first_byte nonempty
    have stands : (bytes text)[place]? = some b := by
      obtain ⟨more, whole⟩ := start
      rw [← List.head?_drop, ← whole, same]
      rfl
    obtain ⟨front, back, rfl, rfl⟩ := exists_split_of_first_byte stands first
    rw [behind, bytes_prefix_iff] at start
    exact ⟨front, back, rfl, rfl, start⟩
  · rintro ⟨front, back, rfl, rfl, start⟩
    rw [behind]
    exact (bytes_prefix_iff word back).mpr start

/-- Bytes can be decoded exactly if they are those of a text, which is then the decoded one. -/
theorem fromUTF8?_eq_some_iff {encoded : List UInt8} {text : String} :
    String.fromUTF8? encoded.toByteArray = some text ↔ encoded = bytes text.toList := by
  have whole : text.toByteArray = (bytes text.toList).toByteArray := by
    rw [bytes, ← List.utf8Encode, ← String.toByteArray_ofList, String.ofList_toList]
  rw [String.fromUTF8?]
  constructor
  · intro decoded
    split at decoded
    next valid =>
      cases decoded
      exact List.toByteArray_inj.mp whole
    next => cases decoded
  · rintro rfl
    rw [dif_pos (whole ▸ text.isValidUTF8)]
    exact congrArg some (String.toByteArray_inj.mp whole.symm)

/-! ### ASCII in the bytes of a text -/

theorem le_of_mem_utf8EncodeChar {c : Char} (wide : 128 ≤ c.toNat) {b : UInt8}
    (member : b ∈ String.utf8EncodeChar c) : 128 ≤ b.toNat := by
  have value : c.toNat = c.val.toNat := rfl
  unfold String.utf8EncodeChar at member
  simp only [← value] at member
  rw [if_neg (by omega)] at member
  -- two, three or four bytes, each with its highest bit set
  split at member <;> [skip; split at member]
  all_goals
    simp at member
    rcases member with rfl | rfl | rfl | rfl <;> simp <;> omega

theorem utf8EncodeChar_eq_byte {c : Char} (ascii : c.toNat < 128) :
    String.utf8EncodeChar c = [UInt8.ofNat c.toNat] :=
  if_pos (Nat.le_of_lt_succ ascii)

theorem toNat_byte {c : Char} (ascii : c.toNat < 128) :
    (UInt8.ofNat c.toNat).toNat = c.toNat :=
  UInt8.toNat_ofNat_of_lt' (Nat.lt_trans ascii (by decide))

/-- The byte of an ASCII character occurs in no other character. -/
theorem eq_of_byte_mem {c d : Char} (ascii : c.toNat < 128)
    (member : UInt8.ofNat c.toNat ∈ String.utf8EncodeChar d) : d = c := by
  have number := toNat_byte ascii
  rcases Nat.lt_or_ge d.toNat 128 with ascii' | wide
  · rw [utf8EncodeChar_eq_byte ascii', List.mem_singleton, ← UInt8.toNat_inj, number,
      toNat_byte ascii'] at member
    exact Char.toNat_inj.mp member.symm
  · have large := le_of_mem_utf8EncodeChar wide member
    omega

theorem mem_of_byte_mem {c : Char} (ascii : c.toNat < 128) {text : List Char}
    (member : UInt8.ofNat c.toNat ∈ bytes text) : c ∈ text := by
  obtain ⟨d, member', inside⟩ := List.mem_flatMap.mp member
  rwa [eq_of_byte_mem ascii inside] at member'

theorem getLast?_of_byte {c : Char} (ascii : c.toNat < 128) {text : List Char}
    (last : (bytes text).getLast? = some (UInt8.ofNat c.toNat)) : text.getLast? = some c := by
  rcases List.eq_nil_or_concat text with rfl | ⟨front, d, rfl⟩
  · cases last
  · -- the last byte of the text is one of its last character
    rw [List.concat_eq_append, bytes_append, bytes_cons, bytes_nil, List.append_nil,
      List.getLast?_append_of_ne_nil _ String.utf8EncodeChar_ne_nil] at last
    have same := eq_of_byte_mem ascii (List.mem_of_getLast? last)
    simp [same]

end DeclScan.Text
