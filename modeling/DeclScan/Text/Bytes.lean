/-!
Byte measures of a text. A text is a list of characters; an offset counts the bytes of its
UTF-8 form. Spans are cut only where a character starts or the text ends.
-/

namespace DeclScan.Text

/-- The number of bytes that `text` takes in UTF-8. -/
def byteLength (text : List Char) : Nat :=
  text.foldl (fun total c => total + c.utf8Size) 0

/-- What is left after the first `count` bytes, if these are whole characters of `text`. -/
def dropBytes? : List Char → Nat → Option (List Char)
  | text, 0 => some text
  | [], _ + 1 => none
  | c :: rest, count + 1 =>
    if c.utf8Size ≤ count + 1 then dropBytes? rest (count + 1 - c.utf8Size) else none

/-- The first `count` bytes, if these are whole characters of `text`. -/
def takeBytes? (text : List Char) (count : Nat) : Option (List Char) :=
  go text count []
where
  go : List Char → Nat → List Char → Option (List Char)
    | _, 0, taken => some taken.reverse
    | [], _ + 1, _ => none
    | c :: rest, count + 1, taken =>
      if c.utf8Size ≤ count + 1 then go rest (count + 1 - c.utf8Size) (c :: taken) else none

/-- The text between two byte offsets; none when they are out of order, out of range or inside
a character. -/
def slice? (text : List Char) (start stop : Nat) : Option (List Char) :=
  if start ≤ stop then
    (dropBytes? text start).bind fun rest => takeBytes? rest (stop - start)
  else none

/-- How many characters of `text` end within its first `count` bytes. -/
def charsWithin (text : List Char) (count : Nat) : Nat :=
  go text count 0
where
  go : List Char → Nat → Nat → Nat
    | [], _, found => found
    | c :: rest, count, found =>
      if c.utf8Size ≤ count then go rest (count - c.utf8Size) (found + 1) else found

theorem foldl_utf8Size (text : List Char) (start : Nat) :
    text.foldl (fun total c => total + c.utf8Size) start = start + byteLength text := by
  induction text generalizing start with
  | nil => rfl
  | cons c rest ih =>
    simp only [byteLength, List.foldl_cons]
    rw [ih (start + c.utf8Size), ih (0 + c.utf8Size)]
    omega

@[simp] theorem byteLength_nil : byteLength [] = 0 := rfl

@[simp] theorem byteLength_cons (c : Char) (rest : List Char) :
    byteLength (c :: rest) = c.utf8Size + byteLength rest := by
  rw [byteLength, List.foldl_cons, foldl_utf8Size]
  omega

@[simp] theorem byteLength_append (front back : List Char) :
    byteLength (front ++ back) = byteLength front + byteLength back := by
  induction front with
  | nil => simp
  | cons c rest ih =>
    simp only [List.cons_append, byteLength_cons, ih]
    omega

@[simp] theorem byteLength_reverse (text : List Char) :
    byteLength text.reverse = byteLength text := by
  induction text with
  | nil => rfl
  | cons c rest ih =>
    simp only [List.reverse_cons, byteLength_append, byteLength_cons, byteLength_nil, ih]
    omega

theorem dropBytes?_append (front back : List Char) :
    dropBytes? (front ++ back) (byteLength front) = some back := by
  induction front with
  | nil => simp [dropBytes?]
  | cons c rest ih =>
    have positive := c.utf8Size_pos
    obtain ⟨count, equal⟩ : ∃ count, byteLength (c :: rest) = count + 1 :=
      ⟨byteLength (c :: rest) - 1, by simp; omega⟩
    rw [List.cons_append, equal, dropBytes?, ← equal, byteLength_cons, if_pos (by omega),
      Nat.add_sub_cancel_left, ih]

theorem takeBytes?_go_append (front back taken : List Char) :
    takeBytes?.go (front ++ back) (byteLength front) taken = some (taken.reverse ++ front) := by
  induction front generalizing taken with
  | nil => simp [takeBytes?.go]
  | cons c rest ih =>
    have positive := c.utf8Size_pos
    obtain ⟨count, equal⟩ : ∃ count, byteLength (c :: rest) = count + 1 :=
      ⟨byteLength (c :: rest) - 1, by simp; omega⟩
    rw [List.cons_append, equal, takeBytes?.go, ← equal, byteLength_cons, if_pos (by omega),
      Nat.add_sub_cancel_left, ih]
    simp

theorem takeBytes?_append (front back : List Char) :
    takeBytes? (front ++ back) (byteLength front) = some front :=
  takeBytes?_go_append front back []

/-- The span between two places of a text is what stands between them. -/
theorem slice?_append (front middle back : List Char) :
    slice? (front ++ middle ++ back) (byteLength front) (byteLength (front ++ middle)) =
      some middle := by
  rw [slice?, if_pos (by simp), List.append_assoc, dropBytes?_append, Option.bind_some,
    byteLength_append, Nat.add_sub_cancel_left, takeBytes?_append]

theorem charsWithin_go (front back : List Char) (found : Nat) :
    charsWithin.go (front ++ back) (byteLength front) found = found + front.length := by
  induction front generalizing found with
  | nil =>
    cases back with
    | nil => rfl
    | cons c rest =>
      have positive := c.utf8Size_pos
      simp [charsWithin.go]
      omega
  | cons c rest ih =>
    rw [List.cons_append, charsWithin.go, byteLength_cons, if_pos (by omega),
      Nat.add_sub_cancel_left, ih, List.length_cons]
    omega

theorem charsWithin_go_concat (front : List Char) (c : Char) (count found : Nat) :
    charsWithin.go (front ++ [c]) count found =
      charsWithin.go front count found +
        if byteLength front + c.utf8Size ≤ count then 1 else 0 := by
  induction front generalizing count found with
  | nil =>
    simp only [List.nil_append, charsWithin.go, byteLength_nil, Nat.zero_add]
    split <;> rfl
  | cons d rest ih =>
    rw [List.cons_append, charsWithin.go, charsWithin.go, byteLength_cons]
    by_cases fits : d.utf8Size ≤ count
    · rw [if_pos fits, if_pos fits, ih]
      congr 2
      apply propext
      omega
    · rw [if_neg fits, if_neg fits, if_neg (by omega)]
      rfl

/-- One more character counts if it ends within the bytes. -/
theorem charsWithin_concat (front : List Char) (c : Char) (count : Nat) :
    charsWithin (front ++ [c]) count =
      charsWithin front count + if byteLength front + c.utf8Size ≤ count then 1 else 0 :=
  charsWithin_go_concat front c count 0

theorem charsWithin_concat_of_lt (front : List Char) (c : Char) (count : Nat)
    (beyond : count < byteLength front + c.utf8Size) :
    charsWithin (front ++ [c]) count = charsWithin front count := by
  rw [charsWithin_concat, if_neg (by omega), Nat.add_zero]

/-- The characters before a place are those that end within its offset. -/
theorem charsWithin_append (front back : List Char) :
    charsWithin (front ++ back) (byteLength front) = front.length := by
  rw [charsWithin, charsWithin_go, Nat.zero_add]

end DeclScan.Text
