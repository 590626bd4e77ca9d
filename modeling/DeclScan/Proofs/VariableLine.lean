import DeclScan.Declaration.VariableDeclaration
import DeclScan.Proofs.KeywordScan

/-!
The lines that declare variables.

## Main result

`VariableDeclaration.parse_grammar`: a line declares a variable exactly if it can be written as
modifiers, a binding keyword and a name (`Spells`), in whatever way it can be written so. All other
lines fail where their modifiers or their binding keyword end (`Fails`), and a declaration that is
written out again reads as the same one.

## Proof strategy

The scanner takes off one optional keyword after the other, each of them if it follows at all
(`Modifiers`), so what it makes of a line is settled by what follows in the line (`Reads`, `Fails`).
A line may be written with a `weak` that the scanner takes for the other one, and that is all the
choice there is, since keywords of different kinds start with different letters
(`Written.modifiers`).
-/

namespace DeclScan

open Text

/-- The modifier `weak` as a kind of keyword. -/
inductive WeakModifier where
  | weak
deriving DecidableEq

instance : Keyword WeakModifier where
  all := [.weak]
  spelling
    | .weak => weakKeyword

/-! ### The keywords of a line -/

instance : Keyword.Distinct WeakModifier where
  mem_all word := by cases word; decide
  solid word := by cases word; exact ⟨'w', rfl, by decide⟩
  eq_of_prefix {word word'} _ := by cases word; cases word'; rfl

instance : Keyword.Distinct AccessModifier where
  mem_all word := by cases word <;> decide
  solid word := by cases word <;> exact ⟨_, rfl, by decide⟩
  eq_of_prefix {word word'} start := by
    revert start
    cases word <;> cases word' <;> decide

instance : Keyword.Distinct Binding where
  mem_all word := by cases word <;> decide
  solid word := by cases word <;> exact ⟨_, rfl, by decide⟩
  eq_of_prefix {word word'} start := by
    revert start
    cases word <;> cases word' <;> decide

namespace VariableDeclaration

open Keyword

/-! ### What the scanner takes off a line -/

/-- The modifiers in front of a line are taken off it in order, and `rest` comes behind the last of
them. -/
inductive Modifiers (line : List Char) : Option AccessModifier → Bool → List Char → Prop where
  | inOrder {before behind : Option WeakModifier} {access : Option AccessModifier}
      {afterFirst afterAccess rest : List Char} (first : Takes before line afterFirst)
      (second : Takes access afterFirst afterAccess) (third : Takes behind afterAccess rest) :
      Modifiers line access (before.isSome || behind.isSome) rest

/-- A line declares a variable: a binding keyword follows the modifiers, and a name the binding
keyword. -/
inductive Reads (line : List Char) : VariableDeclaration → Prop where
  | named {access : Option AccessModifier} {isWeak : Bool} {binding : Binding}
      {rest blanks body : List Char} (modifiers : Modifiers line access isWeak rest)
      (follows : Follows (chars binding) rest (blanks ++ body)) (blank : IsBlanks blanks)
      (solid : IsSolid body) :
      Reads line ⟨String.ofList (body.takeWhile (· != ':')), access, isWeak, binding⟩

/-- A line declares no variable. The error is placed where the modifiers end if no binding keyword
follows them, and where the binding keyword ends if no name follows it. -/
inductive Fails (line : List Char) : ParseError → Prop where
  | noBinding {access : Option AccessModifier} {isWeak : Bool} {front rest : List Char}
      (modifiers : Modifiers line access isWeak rest)
      (absent : ∀ (binding : Binding) (behind : List Char), ¬Follows (chars binding) rest behind)
      (whole : line = front ++ rest) :
      Fails line (.expectedKeyword ["let", "var"] (locate line (byteLength front)))
  | noName {access : Option AccessModifier} {isWeak : Bool} {binding : Binding}
      {front rest behind : List Char} (modifiers : Modifiers line access isWeak rest)
      (follows : Follows (chars binding) rest behind) (blank : IsBlanks behind)
      (whole : line = front ++ behind) :
      Fails line (.missingDelimiter ':' (locate line (byteLength front)))

section

variable {scanner : Scanner} {line text rest : List Char}

theorem scan_weak {found : Option WeakModifier} (stands : scanner.At line text)
    (takes : Takes found text rest) :
    ∃ word next, scanner.scan (.literal weakKeyword.toList) = (word, next) ∧
      word.isSome = found.isSome ∧ next.At line rest := by
  have spelling : weakKeyword.toList = chars WeakModifier.weak := rfl
  obtain ⟨optionally, absent⟩ := takes
  rw [spelling]
  cases optionally with
  | absent => exact ⟨none, scanner, stands.scan_literal_none (absent rfl .weak), rfl, stands⟩
  | @present word _ _ follows =>
    cases word
    obtain ⟨next, scanned, stands⟩ := stands.scan_literal (Distinct.solid WeakModifier.weak) follows
    exact ⟨_, next, scanned, rfl, stands⟩

theorem scanModifiers_eq {access : Option AccessModifier} {isWeak : Bool}
    (stands : scanner.At line text) (modifiers : Modifiers text access isWeak rest) :
    ∃ next, scanModifiers scanner = ((access, isWeak), next) ∧ next.At line rest := by
  obtain ⟨first, second, third⟩ := modifiers
  obtain ⟨before, afterFirst, scanned, foundBefore, stands⟩ := scan_weak stands first
  obtain ⟨afterAccess, scannedAccess, stands⟩ := stands.scanKeyword second
  obtain ⟨behind, afterSecond, scannedBehind, foundBehind, stands⟩ := scan_weak stands third
  refine ⟨afterSecond, ?_, stands⟩
  rw [scanModifiers, scanned]
  simp only [scannedAccess, scannedBehind, foundBefore, foundBehind]

end

theorem parse_of_reads {line : String} {declaration : VariableDeclaration}
    (reads : Reads line.toList declaration) : parse line = .ok declaration := by
  obtain ⟨modifiers, follows, blank, solid⟩ := reads
  obtain ⟨_, scanned, stands⟩ := scanModifiers_eq (Scanner.at_ofText line.toList) modifiers
  obtain ⟨_, scannedBinding, stands⟩ := stands.scanKeyword (takes_of_follows follows)
  obtain ⟨_, scannedName⟩ := stands.scan_upTo blank solid ':'
  unfold parse scan
  rw [scanned]
  simp only [scannedBinding, delimiter, scannedName]

theorem parse_of_fails {line : String} {error : ParseError} (fails : Fails line.toList error) :
    parse line = .error error := by
  unfold parse scan
  cases fails with
  | noBinding modifiers absent whole =>
    obtain ⟨_, scanned, stands⟩ := scanModifiers_eq (Scanner.at_ofText line.toList) modifiers
    obtain ⟨_, scannedBinding, stands⟩ := stands.scanKeyword ⟨.absent, fun _ => absent⟩
    rw [scanned]
    simp only [scannedBinding, stands.position_eq whole]
    rfl
  | noName modifiers follows blank whole =>
    obtain ⟨_, scanned, stands⟩ := scanModifiers_eq (Scanner.at_ofText line.toList) modifiers
    obtain ⟨_, scannedBinding, stands⟩ := stands.scanKeyword (takes_of_follows follows)
    rw [scanned]
    simp only [scannedBinding, stands.scan_upTo_none blank delimiter, stands.position_eq whole]
    rfl

theorem reads_or_fails (line : List Char) :
    (∃ declaration, Reads line declaration) ∨ ∃ error, Fails line error := by
  obtain ⟨before, afterFirst, first⟩ := exists_takes WeakModifier line
  obtain ⟨access, afterAccess, second⟩ := exists_takes AccessModifier afterFirst
  obtain ⟨behind, rest, third⟩ := exists_takes WeakModifier afterAccess
  obtain ⟨binding, back, takes⟩ := exists_takes Binding rest
  have modifiers := Modifiers.inOrder first second third
  obtain ⟨_, -, stands⟩ := scanModifiers_eq (Scanner.at_ofText line) modifiers
  obtain ⟨_, -, front, whole, -⟩ := stands.scanKeyword takes
  obtain ⟨optionally, absent⟩ := takes
  cases optionally with
  | absent => exact .inr ⟨_, .noBinding modifiers (absent rfl) whole⟩
  | present follows =>
    obtain ⟨blanks, body, blank, rfl | solid, rfl⟩ := exists_blanks back
    · rw [List.append_nil] at follows whole
      exact .inr ⟨_, .noName modifiers follows blank whole⟩
    · exact .inl ⟨_, .named modifiers follows blank solid⟩

theorem parse_eq_ok_iff {line : String} {declaration : VariableDeclaration} :
    parse line = .ok declaration ↔ Reads line.toList declaration := by
  refine ⟨fun parsed => ?_, parse_of_reads⟩
  rcases reads_or_fails line.toList with ⟨_, reads⟩ | ⟨_, fails⟩
  · cases (parse_of_reads reads).symm.trans parsed
    exact reads
  · cases (parse_of_fails fails).symm.trans parsed

theorem parse_eq_error_iff {line : String} {error : ParseError} :
    parse line = .error error ↔ Fails line.toList error := by
  refine ⟨fun parsed => ?_, parse_of_fails⟩
  rcases reads_or_fails line.toList with ⟨_, reads⟩ | ⟨_, fails⟩
  · cases (parse_of_reads reads).symm.trans parsed
  · cases (parse_of_fails fails).symm.trans parsed
    exact fails

/-! ### The ways to write a line -/

/-- An optional keyword, with blanks behind it. -/
def slot {κ : Type} [Keyword κ] : Option κ → (blanks : List Char) → List Char
  | none, _ => []
  | some word, blanks => chars word ++ blanks

/-- `line` can be written with `weak` before or behind the access modifier, both or neither, with
blanks or nothing in front of all, between the words and behind the binding keyword. What follows
there is not empty and starts with no blank; the name is all of it up to the first colon. -/
def Spells (line : List Char) (declaration : VariableDeclaration) : Prop :=
  ∃ (before behind : Option WeakModifier) (s₀ s₁ s₂ s₃ s₄ body : List Char),
    (∀ blanks ∈ [s₀, s₁, s₂, s₃, s₄], IsBlanks blanks) ∧
    line = s₀ ++ (slot before s₁ ++ (slot declaration.access s₂ ++ (slot behind s₃ ++
      (chars declaration.binding ++ (s₄ ++ body))))) ∧
    declaration.isWeak = (before.isSome || behind.isSome) ∧ IsSolid body ∧
    declaration.name = String.ofList (body.takeWhile (· != ':'))

/-- The blanks behind an optional keyword can be counted to what follows. -/
theorem slot_iff {κ : Type} [Keyword κ] (found : Option κ) {text rest : List Char} :
    (∃ blanks behind, IsBlanks blanks ∧ IsBlanks behind ∧
      text = blanks ++ (slot found behind ++ rest)) ↔
      ∃ blanks, IsBlanks blanks ∧ Optionally found text (blanks ++ rest) := by
  constructor
  · rintro ⟨blanks, behind, blank, blank', rfl⟩
    cases found with
    | none => exact ⟨blanks, blank, .absent⟩
    | some word => exact ⟨behind, blank', .present ⟨blanks, blank, by simp [slot]⟩⟩
  · rintro ⟨behind, blank', optionally⟩
    generalize equal : behind ++ rest = back at optionally
    cases optionally with
    | absent => exact ⟨behind, [], blank', nofun, equal.symm⟩
    | present follows =>
      obtain ⟨blanks, blank, rfl⟩ := follows
      exact ⟨blanks, behind, blank, blank', by simp [slot, ← equal]⟩

/-- Keywords stand in front of `rest` in the order of a declaration. -/
inductive Written (line : List Char) : (before : Option WeakModifier) →
    (access : Option AccessModifier) → (behind : Option WeakModifier) → (binding : Binding) →
    (rest : List Char) → Prop where
  | inOrder {before behind : Option WeakModifier} {access : Option AccessModifier}
      {binding : Binding} {afterFirst afterAccess afterSecond rest : List Char}
      (first : Optionally before line afterFirst) (second : Optionally access afterFirst afterAccess)
      (third : Optionally behind afterAccess afterSecond)
      (follows : Follows (chars binding) afterSecond rest) :
      Written line before access behind binding rest

theorem spells_iff {line : List Char} {declaration : VariableDeclaration} :
    Spells line declaration ↔ ∃ before behind blanks body,
      Written line before declaration.access behind declaration.binding (blanks ++ body) ∧
      declaration.isWeak = (before.isSome || behind.isSome) ∧ IsBlanks blanks ∧ IsSolid body ∧
      declaration.name = String.ofList (body.takeWhile (· != ':')) := by
  constructor
  · rintro ⟨before, behind, s₀, s₁, s₂, s₃, s₄, body, blank, whole, weak, solid, name⟩
    simp only [List.forall_mem_cons] at blank
    obtain ⟨blank₀, blank₁, blank₂, blank₃, blank₄, -⟩ := blank
    obtain ⟨t₁, blank₁, first⟩ := (slot_iff before).mp ⟨s₀, s₁, blank₀, blank₁, whole⟩
    obtain ⟨t₂, blank₂, second⟩ := (slot_iff declaration.access).mp ⟨t₁, s₂, blank₁, blank₂, rfl⟩
    obtain ⟨t₃, blank₃, third⟩ := (slot_iff behind).mp ⟨t₂, s₃, blank₂, blank₃, rfl⟩
    exact ⟨before, behind, s₄, body, .inOrder first second third ⟨t₃, blank₃, rfl⟩, weak, blank₄,
      solid, name⟩
  · rintro ⟨before, behind, s₄, body, ⟨first, second, third, t₃, blank₃, rfl⟩, weak, blank₄, solid,
      name⟩
    obtain ⟨t₂, s₃, blank₂, blank₃, rfl⟩ := (slot_iff behind).mpr ⟨t₃, blank₃, third⟩
    obtain ⟨t₁, s₂, blank₁, blank₂, rfl⟩ := (slot_iff declaration.access).mpr ⟨t₂, blank₂, second⟩
    obtain ⟨s₀, s₁, blank₀, blank₁, rfl⟩ := (slot_iff before).mpr ⟨t₁, blank₁, first⟩
    exact ⟨before, behind, s₀, s₁, s₂, s₃, s₄, body,
      by simp [blank₀, blank₁, blank₂, blank₃, blank₄], rfl, weak, solid, name⟩

theorem head?_access_ne_weak (access : AccessModifier) (modifier : WeakModifier) :
    (chars access).head? ≠ (chars modifier).head? := by
  cases access <;> cases modifier <;> decide

theorem head?_binding_ne_weak (binding : Binding) (modifier : WeakModifier) :
    (chars binding).head? ≠ (chars modifier).head? := by
  cases binding <;> cases modifier <;> decide

theorem head?_binding_ne_access (binding : Binding) (access : AccessModifier) :
    (chars binding).head? ≠ (chars access).head? := by
  cases binding <;> cases access <;> decide

/-- Whatever way a line is written, the scanner takes off the same modifiers. -/
theorem Written.modifiers {line rest : List Char} {before behind : Option WeakModifier}
    {access : Option AccessModifier} {binding : Binding}
    (written : Written line before access behind binding rest) :
    ∃ back, Modifiers line access (before.isSome || behind.isSome) back ∧
      Follows (chars binding) back rest := by
  obtain ⟨first, second, third, follows⟩ := written
  refine ⟨_, ?_, follows⟩
  have noWeak := takes_none head?_binding_ne_weak follows
  have noAccess := takes_none head?_binding_ne_access follows
  cases second with
  | present known =>
    -- the access modifier keeps the two places of `weak` apart
    have noFirst := takes_none head?_access_ne_weak known
    have takesAccess := takes_of_follows known
    cases first with
    | absent =>
      cases third with
      | absent => exact .inOrder noFirst takesAccess noWeak
      | present behind => exact .inOrder noFirst takesAccess (takes_of_follows behind)
    | present before =>
      cases third with
      | absent => exact .inOrder (takes_of_follows before) takesAccess noWeak
      | present behind =>
        exact .inOrder (takes_of_follows before) takesAccess (takes_of_follows behind)
  | absent =>
    cases third with
    | absent =>
      cases first with
      | absent => exact .inOrder noWeak noAccess noWeak
      | present before => exact .inOrder (takes_of_follows before) noAccess noWeak
    | present behind =>
      cases first with
      | absent =>
        -- with no access modifier the scanner finds the second `weak` in the first place
        have modifiers := Modifiers.inOrder (takes_of_follows behind) noAccess noWeak
        exact modifiers
      | present before =>
        have noAccess := takes_none (fun word word' => (head?_access_ne_weak word' word).symm) behind
        exact .inOrder (takes_of_follows before) noAccess (takes_of_follows behind)

theorem reads_iff_spells {line : List Char} {declaration : VariableDeclaration} :
    Reads line declaration ↔ Spells line declaration := by
  rw [spells_iff]
  constructor
  · rintro ⟨⟨first, second, third⟩, follows, blank, solid⟩
    exact ⟨_, _, _, _, .inOrder first.1 second.1 third.1 follows, rfl, blank, solid, rfl⟩
  · rintro ⟨before, behind, blanks, body, written, weak, blank, solid, name⟩
    obtain ⟨back, modifiers, follows⟩ := written.modifiers
    have reads := Reads.named modifiers follows blank solid
    rwa [← weak, ← name] at reads

/-! ### Writing a declaration -/

/-- The line that writes a declaration with single spaces, and `tail` behind the name. -/
def write (declaration : VariableDeclaration) (before behind : Option WeakModifier)
    (tail : List Char) : List Char :=
  slot before [' '] ++ (slot declaration.access [' '] ++ (slot behind [' '] ++
    (chars declaration.binding ++ (' ' :: (declaration.name.toList ++ tail)))))

theorem Spells.name {line : List Char} {declaration : VariableDeclaration}
    (spells : Spells line declaration) :
    (∀ c ∈ declaration.name.toList, c ≠ ':') ∧
      (declaration.name = "" ∨ IsSolid declaration.name.toList) := by
  obtain ⟨before, behind, s₀, s₁, s₂, s₃, s₄, body, -, -, -, solid, name⟩ := spells
  rw [name, String.toList_ofList]
  refine ⟨fun c member => by simpa using List.mem_takeWhile_imp member, ?_⟩
  obtain ⟨c, member, other⟩ := solid
  obtain ⟨rest, rfl⟩ := List.head?_eq_some_iff.mp member
  by_cases colon : c = ':'
  · left
    simp [colon]
  · right
    rw [List.takeWhile_cons_of_pos (by simpa using colon)]
    exact ⟨c, rfl, other⟩

theorem Spells.mem_of_mem_name {line : List Char} {declaration : VariableDeclaration}
    (spells : Spells line declaration) {c : Char} (member : c ∈ declaration.name.toList) :
    c ∈ line := by
  obtain ⟨before, behind, s₀, s₁, s₂, s₃, s₄, body, -, rfl, -, -, name⟩ := spells
  rw [name, String.toList_ofList] at member
  have inside := List.takeWhile_subset _ member
  simp [inside]

theorem Spells.write {line : List Char} {declaration : VariableDeclaration}
    (spells : Spells line declaration) {before behind : Option WeakModifier} {tail : List Char}
    (weak : (before.isSome || behind.isSome) = declaration.isWeak)
    (ends : tail.head? = some ':' ∨ tail = [] ∧ declaration.name ≠ "") :
    Spells (declaration.write before behind tail) declaration := by
  obtain ⟨plain, front⟩ := spells.name
  have nothing : IsBlanks [] := nofun
  have space : IsBlanks [' '] := by
    intro c member
    rw [List.mem_singleton.mp member]
    decide
  refine ⟨before, behind, [], [' '], [' '], [' '], [' '], declaration.name.toList ++ tail, ?_, rfl,
    weak.symm, ?_, ?_⟩
  · simp only [List.forall_mem_cons]
    exact ⟨nothing, space, space, space, space, nofun⟩
  · rcases front with empty | solid
    · -- a name that is empty has the colon behind it
      rcases ends with colon | ⟨-, some⟩
      · rw [empty]
        exact ⟨':', colon, by decide⟩
      · exact absurd empty some
    · exact solid.append tail
  · have stops : tail.takeWhile (· != ':') = [] := by
      rcases ends with colon | ⟨rfl, -⟩
      · obtain ⟨rest, rfl⟩ := List.head?_eq_some_iff.mp colon
        rfl
      · rfl
    rw [List.takeWhile_append_of_pos (by simpa using plain), stops, List.append_nil,
      String.ofList_toList]

/-- A line declares a variable exactly if it can be written as a declaration, and then each way to
write it gives the same declaration. It fails otherwise, at the end of its modifiers or of its binding
keyword. A declaration that was read can be written with single spaces and read again. -/
theorem parse_grammar (line : String) :
    (∀ declaration, parse line = .ok declaration ↔ Spells line.toList declaration) ∧
    (∀ declaration other, Spells line.toList declaration → Spells line.toList other →
      declaration = other) ∧
    (∀ error, parse line = .error error ↔ Fails line.toList error) ∧
    ∀ (declaration : VariableDeclaration) (before behind : Option WeakModifier) (tail : List Char),
      parse line = .ok declaration → (before.isSome || behind.isSome) = declaration.isWeak →
      (tail.head? = some ':' ∨ tail = [] ∧ declaration.name ≠ "") →
      parse (String.ofList (declaration.write before behind tail)) = .ok declaration := by
  have accepts {line : String} {declaration : VariableDeclaration} :
      parse line = .ok declaration ↔ Spells line.toList declaration :=
    parse_eq_ok_iff.trans reads_iff_spells
  refine ⟨fun _ => accepts, ?_, fun _ => parse_eq_error_iff, ?_⟩
  · intro declaration other spells spells'
    have same := (accepts.mpr spells).symm.trans (accepts.mpr spells')
    exact Except.ok.inj same
  · intro declaration before behind tail parsed weak ends
    rw [accepts, String.toList_ofList]
    exact (accepts.mp parsed).write weak ends

-- the error is placed behind `open`, not behind the blanks that come after it
example : parse "weak \n open \n" =
    .error (.expectedKeyword ["let", "var"] ⟨6, 13, 2, 6⟩) := by
  rfl

end VariableDeclaration

end DeclScan
