import DeclScan.Declaration.TypeDeclaration
import DeclScan.Proofs.KeywordScan

/-!
The lines that declare types.

## Main result

`TypeDeclaration.parse_spells_or_fails`: a line declares a type exactly if it can be written as a
keyword and a name (`Spells`). All other lines fail, in front of everything or where their keyword ends
(`Fails`), and a declaration that is written out again reads as the same one.

## Proof strategy

One keyword is taken off the line, and what follows it behind blanks settles the rest. Blanks in front
of the name are all of Unicode's, but only U+0020 is stripped from the name itself. What is stripped
is told by the characters around the name (`Trims`), not by the way they are dropped.
-/

namespace DeclScan

open Text Keyword

instance : Keyword.Distinct TypeKind where
  mem_all word := by cases word <;> decide
  solid word := by cases word <;> exact ⟨_, rfl, by decide⟩
  eq_of_prefix {word word'} start := by
    revert start
    cases word <;> cases word' <;> decide

namespace TypeDeclaration

/-! ### Names without spaces around them -/

/-- `name` is `text` without the spaces at both ends, and without anything else. -/
def Trims (text name : List Char) : Prop :=
  (∃ before behind, text = List.replicate before ' ' ++ (name ++ List.replicate behind ' ')) ∧
    name.head? ≠ some ' ' ∧ name.getLast? ≠ some ' '

theorem dropWhile_spaces (count : Nat) {text : List Char} (solid : text.head? ≠ some ' ') :
    (List.replicate count ' ' ++ text).dropWhile (· == ' ') = text := by
  rw [List.dropWhile_append_of_pos (by simp)]
  cases text with
  | nil => rfl
  | cons c rest => exact List.dropWhile_cons_of_neg (by simpa using solid)

theorem exists_spaces (text : List Char) :
    ∃ count, text = List.replicate count ' ' ++ text.dropWhile (· == ' ') ∧
      (text.dropWhile (· == ' ')).head? ≠ some ' ' := by
  induction text with
  | nil => exact ⟨0, rfl, nofun⟩
  | cons c rest ih =>
    by_cases space : c = ' '
    · subst space
      obtain ⟨count, whole, solid⟩ := ih
      exact ⟨count + 1, congrArg (' ' :: ·) whole, solid⟩
    · rw [List.dropWhile_cons_of_neg (by simpa using space)]
      exact ⟨0, rfl, by simpa using space⟩

theorem trims_trimSpaces (text : List Char) : Trims text (trimSpaces text) := by
  obtain ⟨before, front, solid⟩ := exists_spaces text
  obtain ⟨behind, back, solid'⟩ := exists_spaces (text.dropWhile (· == ' ')).reverse
  have kept : text.dropWhile (· == ' ') = trimSpaces text ++ List.replicate behind ' ' := by
    rw [← List.reverse_inj, back, List.reverse_append, List.reverse_replicate, trimSpaces,
      List.reverse_reverse]
  refine ⟨⟨before, behind, by rw [← kept, ← front]⟩, ?_, ?_⟩
  · -- a space in front of the name would be one in front of what follows the spaces
    rw [kept] at solid
    intro space
    exact solid (by rw [List.head?_append, space]; rfl)
  · rwa [trimSpaces, List.getLast?_reverse]

theorem Trims.eq_trimSpaces {text name : List Char} (trims : Trims text name) :
    name = trimSpaces text := by
  obtain ⟨⟨before, behind, rfl⟩, front, back⟩ := trims
  rw [trimSpaces]
  cases name with
  | nil => simp
  | cons c rest =>
    rw [dropWhile_spaces before (by simpa using front), List.reverse_append, List.reverse_replicate,
      dropWhile_spaces behind (by rwa [List.head?_reverse]), List.reverse_reverse]

/-! ### The ways to write a line -/

/-- `line` can be written with blanks or nothing before the keyword and behind it. What follows there
is not empty and starts with no blank; the name is all of it up to the first brace, without the spaces
at both ends. -/
def Spells (line : List Char) (declaration : TypeDeclaration) : Prop :=
  ∃ s₀ s₁ body : List Char, IsBlanks s₀ ∧ IsBlanks s₁ ∧ IsSolid body ∧
    line = s₀ ++ (chars declaration.kind ++ (s₁ ++ body)) ∧
    Trims (body.takeWhile (· != '\x7b')) declaration.name.toList

/-- A line declares no type. The error is placed at the start of the line if it goes on with no
keyword, and where the keyword ends if only blanks follow it. -/
inductive Fails (line : List Char) : ParseError → Prop where
  | noKeyword (absent : ∀ (kind : TypeKind) (behind : List Char), ¬Follows (chars kind) line behind) :
      Fails line (.expectedKeyword ["struct", "enum"] (locate line 0))
  | noName {kind : TypeKind} {s₀ s₁ : List Char} (blank₀ : IsBlanks s₀) (blank₁ : IsBlanks s₁)
      (whole : line = s₀ ++ (chars kind ++ s₁)) :
      Fails line (.missingDelimiter '\x7b' (locate line (byteLength (s₀ ++ chars kind))))

theorem parse_of_spells {line : String} {declaration : TypeDeclaration}
    (spells : Spells line.toList declaration) : parse line = .ok declaration := by
  obtain ⟨s₀, s₁, body, blank₀, blank₁, solid, whole, trims⟩ := spells
  have follows : Follows (chars declaration.kind) line.toList (s₁ ++ body) := ⟨s₀, blank₀, whole⟩
  obtain ⟨_, scanned, stands⟩ :=
    (Scanner.at_ofText line.toList).scanKeyword (takes_of_follows follows)
  obtain ⟨_, scannedName⟩ := stands.scan_upTo blank₁ solid '\x7b'
  unfold parse scan
  rw [scanned]
  simp only [delimiter, scannedName, ← trims.eq_trimSpaces, String.ofList_toList]

theorem parse_of_fails {line : String} {error : ParseError} (fails : Fails line.toList error) :
    parse line = .error error := by
  have stands := Scanner.at_ofText line.toList
  unfold parse scan
  cases fails with
  | noKeyword absent =>
    obtain ⟨_, scanned, stands⟩ := stands.scanKeyword ⟨.absent, fun _ => absent⟩
    have whole : line.toList = [] ++ line.toList := rfl
    rw [scanned]
    simp only [stands.position_eq whole]
    rfl
  | @noName kind s₀ s₁ blank₀ blank₁ whole =>
    obtain ⟨_, scanned, stands⟩ := stands.scanKeyword (takes_of_follows ⟨s₀, blank₀, whole⟩)
    rw [← List.append_assoc] at whole
    rw [scanned]
    simp only [stands.scan_upTo_none blank₁ delimiter, stands.position_eq whole]
    rfl

theorem spells_or_fails (line : List Char) :
    (∃ declaration, Spells line declaration) ∨ ∃ error, Fails line error := by
  obtain ⟨found, rest, optionally, absent⟩ := exists_takes TypeKind line
  cases optionally with
  | absent => exact .inr ⟨_, .noKeyword (absent rfl)⟩
  | @present kind _ _ follows =>
    obtain ⟨s₀, blank₀, whole⟩ := follows
    obtain ⟨s₁, body, blank₁, rfl | solid, rfl⟩ := exists_blanks rest
    · rw [List.append_nil] at whole
      exact .inr ⟨_, .noName blank₀ blank₁ whole⟩
    · refine .inl ⟨⟨kind, String.ofList (trimSpaces (body.takeWhile (· != '\x7b')))⟩,
        s₀, s₁, body, blank₀, blank₁, solid, whole, ?_⟩
      rw [String.toList_ofList]
      exact trims_trimSpaces _

theorem parse_eq_ok_iff {line : String} {declaration : TypeDeclaration} :
    parse line = .ok declaration ↔ Spells line.toList declaration := by
  refine ⟨fun parsed => ?_, parse_of_spells⟩
  rcases spells_or_fails line.toList with ⟨_, spells⟩ | ⟨_, fails⟩
  · cases (parse_of_spells spells).symm.trans parsed
    exact spells
  · cases (parse_of_fails fails).symm.trans parsed

theorem parse_eq_error_iff {line : String} {error : ParseError} :
    parse line = .error error ↔ Fails line.toList error := by
  refine ⟨fun parsed => ?_, parse_of_fails⟩
  rcases spells_or_fails line.toList with ⟨_, spells⟩ | ⟨_, fails⟩
  · cases (parse_of_spells spells).symm.trans parsed
  · cases (parse_of_fails fails).symm.trans parsed
    exact fails

/-! ### Writing a declaration -/

theorem Trims.mem {text name : List Char} (trims : Trims text name) {c : Char} (member : c ∈ name) :
    c ∈ text := by
  obtain ⟨⟨before, behind, rfl⟩, -⟩ := trims
  simp [member]

theorem Spells.mem_of_mem_name {line : List Char} {declaration : TypeDeclaration}
    (spells : Spells line declaration) {c : Char} (member : c ∈ declaration.name.toList) :
    c ∈ line := by
  obtain ⟨s₀, s₁, body, -, -, -, rfl, trims⟩ := spells
  have inside := List.takeWhile_subset _ (trims.mem member)
  simp [inside]

theorem Spells.not_mem_name {line : List Char} {declaration : TypeDeclaration}
    (spells : Spells line declaration) : '\x7b' ∉ declaration.name.toList := by
  obtain ⟨s₀, s₁, body, -, -, -, -, trims⟩ := spells
  intro member
  have passed := List.mem_takeWhile_imp (trims.mem member)
  simp at passed

/-- A name is empty, or it starts with the character that follows the blanks behind the keyword. -/
theorem Spells.name {line : List Char} {declaration : TypeDeclaration}
    (spells : Spells line declaration) :
    declaration.name = "" ∨ IsSolid declaration.name.toList := by
  obtain ⟨s₀, s₁, body, -, -, ⟨c, member, other⟩, -, trims⟩ := spells
  obtain ⟨rest, rfl⟩ := List.head?_eq_some_iff.mp member
  obtain ⟨⟨before, behind, whole⟩, -⟩ := trims
  by_cases brace : c = '\x7b'
  · left
    rw [List.takeWhile_cons_of_neg (by simp [brace])] at whole
    have nothing := (List.append_eq_nil_iff.mp whole.symm).2
    exact String.toList_eq_nil_iff.mp (List.append_eq_nil_iff.mp nothing).1
  · rw [List.takeWhile_cons_of_pos (by simpa using brace)] at whole
    cases before with
    | succ before =>
      -- a space in front would be the first character behind the blanks
      obtain rfl : c = ' ' := (List.cons.inj whole).1
      cases other
    | zero =>
      cases known : declaration.name.toList with
      | nil => exact .inl (String.toList_eq_nil_iff.mp known)
      | cons d more =>
        rw [known] at whole
        obtain rfl : c = d := (List.cons.inj whole).1
        exact .inr ⟨c, rfl, other⟩

/-- The line that writes a declaration with single spaces and a brace behind the name. -/
def write (declaration : TypeDeclaration) : String :=
  spelling declaration.kind ++ " " ++ declaration.name ++ " \x7b"

theorem toList_write (declaration : TypeDeclaration) :
    declaration.write.toList =
      chars declaration.kind ++ ' ' :: (declaration.name.toList ++ [' ', '\x7b']) := by
  simp [write, chars]

theorem Spells.write {line : List Char} {declaration : TypeDeclaration}
    (spells : Spells line declaration) : Spells declaration.write.toList declaration := by
  have space : IsBlanks [' '] := by
    intro c member
    rw [List.mem_singleton.mp member]
    decide
  have plain : ∀ c ∈ declaration.name.toList, (c != '\x7b') = true := by
    intro c member
    simpa using ne_of_mem_of_not_mem member spells.not_mem_name
  have stops : (declaration.name.toList ++ [' ', '\x7b']).takeWhile (· != '\x7b') =
      declaration.name.toList ++ [' '] := by
    rw [List.takeWhile_append_of_pos plain]
    rfl
  have shape := spells.name
  obtain ⟨-, -, -, -, -, -, -, -, front, back⟩ := spells
  rcases shape with empty | solid
  · -- nothing but the brace is left behind the blanks
    refine ⟨[], [' ', ' '], ['\x7b'], nofun, ?_, ⟨_, rfl, by decide⟩, ?_, ?_⟩
    · intro c member
      exact space c (by simpa using member)
    · rw [toList_write, empty]
      rfl
    · rw [empty]
      exact ⟨⟨0, 0, rfl⟩, by simp, by simp⟩
  · refine ⟨[], [' '], declaration.name.toList ++ [' ', '\x7b'], nofun, space, solid.append _, ?_, ?_⟩
    · exact toList_write declaration
    · rw [stops]
      exact ⟨⟨0, 1, rfl⟩, front, back⟩

/-- A line declares a type exactly if it can be written as a declaration. It fails otherwise, at its
start if no keyword comes first and at the end of the keyword if nothing but blanks follows. A declared
name has no brace and starts with no blank, and its declaration can be written out and read again. -/
theorem parse_spells_or_fails (line : String) :
    (∀ declaration, parse line = .ok declaration ↔ Spells line.toList declaration) ∧
    (∀ error, parse line = .error error ↔ Fails line.toList error) ∧
    ∀ declaration, parse line = .ok declaration →
      '\x7b' ∉ declaration.name.toList ∧
      (∀ c ∈ declaration.name.toList.head?, CharSet.whitespaceAndNewlines.contains c = false) ∧
      parse declaration.write = .ok declaration := by
  refine ⟨fun _ => parse_eq_ok_iff, fun _ => parse_eq_error_iff, ?_⟩
  intro declaration parsed
  have spells := parse_eq_ok_iff.mp parsed
  refine ⟨spells.not_mem_name, ?_, parse_eq_ok_iff.mpr spells.write⟩
  intro c first
  rcases spells.name with empty | ⟨d, first', other⟩
  · rw [empty] at first
    cases first
  · cases first.symm.trans first'
    exact other

-- the tab at the end of the name is not a space, and stays
example : (parse " struct Foo \t \x7b").map name = .ok "Foo \t" := by
  rfl

end TypeDeclaration

end DeclScan
