import DeclScan.Text.Bytes

/-!
A place between two characters of a text. The text is held in two halves, so every place is a
character boundary and the text itself cannot change.
-/

namespace DeclScan

/-- The text before the place, latest character first, and the text after it. -/
structure Cursor where
  before : List Char
  after : List Char
deriving DecidableEq

namespace Cursor

/-- The start of a text. -/
def ofText (text : List Char) : Cursor := ⟨[], text⟩

/-- The whole text. -/
def text (cursor : Cursor) : List Char := cursor.before.reverse ++ cursor.after

/-- The number of bytes before the place. -/
def offset (cursor : Cursor) : Nat := Text.byteLength cursor.before

/-- Moves over the next `count` characters, or to the end. -/
def advance (cursor : Cursor) (count : Nat) : Cursor :=
  match count, cursor with
  | 0, cursor => cursor
  | _ + 1, ⟨before, []⟩ => ⟨before, []⟩
  | count + 1, ⟨before, c :: after⟩ => advance ⟨c :: before, after⟩ count

@[simp] theorem text_ofText (text : List Char) : (ofText text).text = text := rfl

@[simp] theorem offset_ofText (text : List Char) : (ofText text).offset = 0 := rfl

theorem advance_eq (cursor : Cursor) (count : Nat) :
    cursor.advance count =
      ⟨(cursor.after.take count).reverse ++ cursor.before, cursor.after.drop count⟩ := by
  fun_induction cursor.advance count with
  | case1 => simp
  | case2 => simp
  | case3 before count c after ih => simp [ih]

@[simp] theorem after_advance (cursor : Cursor) (count : Nat) :
    (cursor.advance count).after = cursor.after.drop count := by
  rw [advance_eq]

/-- Moving does not change the text. -/
@[simp] theorem text_advance (cursor : Cursor) (count : Nat) :
    (cursor.advance count).text = cursor.text := by
  simp [advance_eq, text]

theorem offset_advance (cursor : Cursor) (count : Nat) :
    (cursor.advance count).offset =
      cursor.offset + Text.byteLength (cursor.after.take count) := by
  simp [advance_eq, offset, Nat.add_comm]

end Cursor

end DeclScan
