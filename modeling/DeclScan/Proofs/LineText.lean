import DeclScan.Proofs.Locate

/-!
What a line says and how it ends.

## Main result

`lineText_splits_source`: the line of an offset is what its position says it is, without any
character that ends lines, and one line ending behind it. Only the last line has no ending. All lines,
with their endings and in the order of their rows, make up the text.

## Proof strategy

The lines of a text have no character that ends lines but in their endings (`Layout.Cut.plain`), so
taking off all such characters from the end of a line takes off its ending
(`Position.IsLine.lineText_eq`). Each offset is in one of these lines (`Position.exists_part`), and
each of them has an offset (`Position.row_walk_start`).
-/

namespace DeclScan

namespace Text

/-- The characters that end lines. -/
def lineEnders : List Char := ['\n', '\r', '\u0085', '\u2028', '\u2029']

theorem endsLine_iff (c : Char) : endsLine c = true ↔ c ∈ lineEnders := by
  constructor
  · intro ends
    obtain ⟨ending, known⟩ := Option.isSome_iff_exists.mp ends
    have chars := LineEnding.chars_ofChar? known
    cases ending <;> cases chars <;> decide
  · intro member
    rcases (by simpa [lineEnders] using member :
      c = '\n' ∨ c = '\r' ∨ c = '\u0085' ∨ c = '\u2028' ∨ c = '\u2029') with
        rfl | rfl | rfl | rfl | rfl <;>
      decide

theorem LineEnding.endsLine_of_mem {ending : LineEnding} :
    ∀ c ∈ ending.chars, endsLine c = true := by
  have all : ending.chars.all endsLine = true := by cases ending <;> rfl
  exact List.all_eq_true.mp all

/-- Taking the characters that end lines off the end of a text leaves the text in front of them. -/
theorem reverse_dropWhile_append {text tail : List Char} (plain : ∀ c ∈ text, endsLine c = false)
    (ends : ∀ c ∈ tail, endsLine c = true) :
    ((text ++ tail).reverse.dropWhile endsLine).reverse = text := by
  have passed : ∀ c ∈ tail.reverse, endsLine c = true := fun c member =>
    ends c (List.mem_reverse.mp member)
  rw [List.reverse_append, List.dropWhile_append_of_pos passed]
  have stops : text.reverse.dropWhile endsLine = text.reverse := by
    cases same : text.reverse with
    | nil => rfl
    | cons c rest =>
      have inside : c ∈ text := List.mem_reverse.mp (same ▸ List.mem_cons_self)
      rw [List.dropWhile_cons_of_neg (by simp [plain c inside])]
  rw [stops, List.reverse_reverse]

namespace Layout

theorem Cut.plain {source last : List Char} {lines : List Line} (cut : Cut source lines last) :
    (∀ line ∈ lines, ∀ c ∈ line.text, endsLine c = false) ∧ ∀ c ∈ last, endsLine c = false := by
  induction cut with
  | last plain => exact ⟨nofun, plain⟩
  | line line plain lone more ih => exact ⟨List.forall_mem_cons.mpr ⟨plain, ih.1⟩, ih.2⟩

/-- The lines of a text, each as what it says and how it ends. -/
def parts (layout : Layout) : List (List Char × List Char) :=
  layout.ended.map (fun line => (line.text, line.ending.chars)) ++ [(layout.last, [])]

theorem flatMap_parts (layout : Layout) :
    layout.parts.flatMap (fun part => part.1 ++ part.2) = layout.chars := by
  rw [parts, List.flatMap_append, List.flatMap_map, List.flatMap_singleton, List.append_nil]
  rfl

end Layout

end Text

open Text

namespace Position

/-! ### The line of a position -/

/-- The line of `position` says `text` and ends with `ending`. -/
structure IsLine (position : Position) (source text ending : List Char) : Prop where
  -- text and ending take the bytes of the line
  span : ∃ front back, source = front ++ (text ++ ending) ++ back ∧
    byteLength front = position.start ∧ byteLength (front ++ (text ++ ending)) = position.stop
  plain : ∀ c ∈ text, c ∉ lineEnders
  -- no more than one ending, and none only where the source ends
  ending_eq : ending = [] ∨ ∃ kind : LineEnding, ending = kind.chars
  ended : ending = [] → position.stop = (String.ofList source).utf8ByteSize

theorem IsLine.lineText_eq {position : Position} {source text ending : List Char}
    (line : position.IsLine source text ending) : position.lineText source = text := by
  obtain ⟨front, back, whole, start, stop⟩ := line.span
  have plain : ∀ c ∈ text, endsLine c = false := fun c member =>
    Bool.eq_false_iff.mpr (mt (endsLine_iff c).mp (line.plain c member))
  have ends : ∀ c ∈ ending, endsLine c = true := by
    rcases line.ending_eq with rfl | ⟨kind, rfl⟩
    · exact nofun
    · exact kind.endsLine_of_mem
  rw [lineText, ← start, ← stop, whole, slice?_append]
  exact reverse_dropWhile_append plain ends

/-- The line of an offset is one of the lines of the text. -/
theorem exists_part (source : List Char) (offset : ℕ) :
    ∃ text ending, (locate source offset).IsLine source text ending ∧
      (Layout.ofText source).parts[(locate source offset).row - 1]? = some (text, ending) := by
  obtain ⟨passed, rest, split, -, -, located⟩ := locate_split source offset
  obtain ⟨behind, whole, none⟩ := source_of_split split
  obtain ⟨plain, plainLast⟩ := (Layout.cut_ofText source).plain
  rw [located, Layout.parts, split]
  cases rest with
  | nil =>
    refine ⟨(Layout.ofText source).last, [], ⟨?_, ?_, .inl rfl, fun _ => ?_⟩, by simp⟩
    · exact ⟨passed.flatMap Line.chars, behind, by simpa [headLine] using whole, rfl,
        by simp [headLine]⟩
    · exact fun c member => mt (endsLine_iff c).mpr (by simp [plainLast c member])
    · -- nothing stands behind the last line
      have size := congrArg byteLength whole
      rw [none rfl, List.append_nil, byteLength_append] at size
      rw [utf8ByteSize_ofList, size]
  | cons line more =>
    refine ⟨line.text, line.ending.chars, ⟨?_, ?_, .inr ⟨line.ending, rfl⟩, ?_⟩, by simp⟩
    · exact ⟨passed.flatMap Line.chars, behind, by simpa [headLine, Line.chars] using whole, rfl,
        by simp [headLine, byteLength_line]⟩
    · have ended := plain line (by simp [split])
      exact fun c member => mt (endsLine_iff c).mpr (by simp [ended c member])
    · intro empty
      have positive := line.ending.byteLength_chars_pos
      simp [empty] at positive

/-- The walk to the first byte of a line ends in its row. -/
theorem row_walk_start (last : List Char) (passed rest : List Line) (start row : ℕ) :
    (walk (start + byteLength (passed.flatMap Line.chars)) last (passed ++ rest) start row).row =
      row + passed.length := by
  induction passed generalizing start row with
  | nil =>
    cases rest with
    | nil => rfl
    | cons line rest =>
      have positive := byteLength_line_pos line
      rw [List.nil_append, walk, if_neg (by simp; omega)]
      rfl
  | cons line passed ih =>
    rw [List.flatMap_cons, byteLength_append, byteLength_chars, ← Nat.add_assoc, List.cons_append,
      walk, if_pos (Nat.le_add_right _ _), ih, List.length_cons, Nat.add_assoc, Nat.add_comm 1]

theorem exists_row_iff (source : List Char) (row : ℕ) :
    (∃ offset, (locate source offset).row = row + 1) ↔ row < (Layout.ofText source).parts.length := by
  constructor
  · rintro ⟨offset, same⟩
    obtain ⟨text, ending, -, found⟩ := exists_part source offset
    rw [same, Nat.add_sub_cancel] at found
    exact (List.getElem?_eq_some_iff.mp found).1
  · intro bound
    have split := List.take_append_drop row (Layout.ofText source).ended
    have count : ((Layout.ofText source).ended.take row).length = row := by
      rw [Layout.parts, List.length_append, List.length_map, List.length_singleton] at bound
      rw [List.length_take]
      omega
    have walked := row_walk_start (Layout.ofText source).last ((Layout.ofText source).ended.take row)
      ((Layout.ofText source).ended.drop row) 0 1
    rw [split, count, Nat.zero_add, ← locate_eq_walk, Nat.add_comm] at walked
    exact ⟨_, walked⟩

end Position

/-- The line of an offset says what stands in it before its ending, which is one ending, or none where
the text ends. The lines of all rows, with their endings, make up the text. -/
theorem lineText_splits_source (source : List Char) :
    ∃ lines : List (List Char × List Char),
      lines.flatMap (fun line => line.1 ++ line.2) = source ∧
      (∀ row, (∃ offset, (locate source offset).row = row + 1) ↔ row < lines.length) ∧
      ∀ offset, ∃ ending,
        lines[(locate source offset).row - 1]? =
            some ((locate source offset).lineText source, ending) ∧
          (locate source offset).IsLine source ((locate source offset).lineText source) ending := by
  refine ⟨(Layout.ofText source).parts, ?_, Position.exists_row_iff source, fun offset => ?_⟩
  · rw [Layout.flatMap_parts, Layout.chars_ofText]
  · obtain ⟨text, ending, line, found⟩ := Position.exists_part source offset
    rw [line.lineText_eq]
    exact ⟨ending, found, line⟩

-- CR CR LF are two endings
example : (locate "a\r\r\nb".toList 1).lineText "a\r\r\nb".toList = ['a'] ∧
    (locate "a\r\r\nb".toList 2).lineText "a\r\r\nb".toList = [] := by
  decide

end DeclScan
