import DeclScan.Extraction
import DeclScan.Proofs.TypeLine
import DeclScan.Proofs.VariableLine

/-!
Lines that declare a type and lines that declare a variable.

## Main result

`Declaration.parse_either`: no line declares both a type and a variable, so what a line declares does
not depend on which of the two is tried first, and a line declares something exactly if it declares
one of them.

## Proof strategy

A line that declares a type goes on, behind blanks, with a keyword for types
(`TypeDeclaration.follows_of_parse`). The keywords of variables start with other letters, so none of
them can be taken off such a line, the binding keyword in the end included
(`VariableDeclaration.not_reads_of_follows`).
-/

namespace DeclScan

open Keyword

/-! ### What comes first in a line -/

theorem TypeDeclaration.follows_of_parse {line : String} {declaration : TypeDeclaration}
    (parsed : parse line = .ok declaration) :
    ∃ rest, Follows (chars declaration.kind) line.toList rest := by
  obtain ⟨s₀, s₁, body, blank, -, -, whole, -⟩ := parse_eq_ok_iff.mp parsed
  exact ⟨s₁ ++ body, s₀, blank, whole⟩

namespace VariableDeclaration

theorem head?_kind_ne_weak (kind : TypeKind) (modifier : WeakModifier) :
    (chars kind).head? ≠ (chars modifier).head? := by
  cases kind <;> cases modifier <;> decide

theorem head?_kind_ne_access (kind : TypeKind) (access : AccessModifier) :
    (chars kind).head? ≠ (chars access).head? := by
  cases kind <;> cases access <;> decide

theorem head?_kind_ne_binding (kind : TypeKind) (binding : Binding) :
    (chars kind).head? ≠ (chars binding).head? := by
  cases kind <;> cases binding <;> decide

/-- A line that goes on with a keyword for types declares no variable. -/
theorem not_reads_of_follows {line rest : List Char} {kind : TypeKind}
    (follows : Follows (chars kind) line rest) (declaration : VariableDeclaration) :
    ¬Reads line declaration := by
  have noWeak := (takes_none head?_kind_ne_weak follows).2 rfl
  have noAccess := (takes_none head?_kind_ne_access follows).2 rfl
  have noBinding := (takes_none head?_kind_ne_binding follows).2 rfl
  rintro ⟨⟨⟨first, -⟩, ⟨second, -⟩, ⟨third, -⟩⟩, binding, -, -⟩
  -- each modifier in turn is absent, so the binding keyword would come first
  cases first with
  | present weak => exact noWeak _ _ weak
  | absent =>
    cases second with
    | present access => exact noAccess _ _ access
    | absent =>
      cases third with
      | present weak => exact noWeak _ _ weak
      | absent => exact noBinding _ _ binding

end VariableDeclaration

namespace Declaration

theorem not_both {line : String} {asType : TypeDeclaration} {asVariable : VariableDeclaration}
    (parsed : TypeDeclaration.parse line = .ok asType) :
    VariableDeclaration.parse line ≠ .ok asVariable := by
  obtain ⟨rest, follows⟩ := TypeDeclaration.follows_of_parse parsed
  rw [ne_eq, VariableDeclaration.parse_eq_ok_iff]
  exact VariableDeclaration.not_reads_of_follows follows asVariable

/-! ### Trying one after the other -/

/-- The variable that `line` declares, else the type. -/
def parseVariableFirst (line : String) : Except ParseError Declaration :=
  ((VariableDeclaration.parse line).map ofVariable).orElseLazy fun _ =>
    (TypeDeclaration.parse line).map ofType

theorem parse_eq (line : String) :
    parse line =
      ((TypeDeclaration.parse line).map ofType).orElseLazy fun _ =>
        (VariableDeclaration.parse line).map ofVariable := by
  rw [parse]
  cases TypeDeclaration.parse line <;> simp only [Except.map, Except.orElseLazy]

/-- What a line declares, by what it declares as a type and what as a variable. -/
structure EitherLaw (line : String) : Prop where
  -- no line declares both
  exclusive : ∀ asType asVariable, TypeDeclaration.parse line = .ok asType →
    VariableDeclaration.parse line ≠ .ok asVariable
  -- a line declares something if exactly one of the two is found, and then it declares that one
  accepts : ∀ declaration, parse line = .ok declaration ↔
    (∃ asType error, declaration = ofType asType ∧ TypeDeclaration.parse line = .ok asType ∧
        VariableDeclaration.parse line = .error error) ∨
      ∃ asVariable error, declaration = ofVariable asVariable ∧
        VariableDeclaration.parse line = .ok asVariable ∧ TypeDeclaration.parse line = .error error
  -- the other order finds the same
  order : ∀ declaration, parseVariableFirst line = .ok declaration ↔ parse line = .ok declaration
  -- a line declares nothing if neither is found, and then it fails as a variable does
  rejects : ∀ error, parse line = .error error ↔
    (∃ other, TypeDeclaration.parse line = .error other) ∧
      VariableDeclaration.parse line = .error error
  -- a declared name is the name of a type or of a variable
  extracts : ∀ name, Mode.declaredNames.extract line = .ok name ↔
    Mode.typeNames.extract line = .ok name ∨ Mode.variableNames.extract line = .ok name
  -- where there is no declared name, the failure is that of a variable
  fails : (∀ name, Mode.declaredNames.extract line ≠ .ok name) →
    Mode.declaredNames.extract line = Mode.variableNames.extract line

/-- Whether a line declares a type and whether it declares a variable settle what it declares, in
whatever order the two are tried. -/
theorem parse_either (line : String) : EitherLaw line := by
  have whole := parse_eq line
  have flipped := parseVariableFirst.eq_1 line
  cases asType : TypeDeclaration.parse line with
  | ok found =>
    cases asVariable : VariableDeclaration.parse line with
    | ok found' => exact absurd asVariable (not_both asType)
    | error error =>
      simp only [asType, asVariable, Except.map, Except.orElseLazy] at whole flipped
      exact {
        exclusive := by simp [asVariable]
        accepts := by simp [whole, asType, asVariable, eq_comm]
        order := by simp [whole, flipped]
        rejects := by simp [whole, asType]
        extracts := by simp [Mode.extract, whole, asType, asVariable, Except.map, name]
        fails := by simp [Mode.extract, whole, Except.map] }
  | error other =>
    cases asVariable : VariableDeclaration.parse line with
    | ok found =>
      simp only [asType, asVariable, Except.map, Except.orElseLazy] at whole flipped
      exact {
        exclusive := by simp [asType]
        accepts := by simp [whole, asType, asVariable, eq_comm]
        order := by simp [whole, flipped]
        rejects := by simp [whole, asVariable]
        extracts := by simp [Mode.extract, whole, asType, asVariable, Except.map, name]
        fails := by simp [Mode.extract, whole, Except.map] }
    | error error =>
      simp only [asType, asVariable, Except.map, Except.orElseLazy] at whole flipped
      exact {
        exclusive := by simp [asType]
        accepts := by simp [whole, asType, asVariable]
        order := by simp [whole, flipped]
        rejects := by simp [whole, asType, asVariable]
        extracts := by simp [Mode.extract, whole, asType, asVariable, Except.map]
        fails := by simp [Mode.extract, whole, asVariable, Except.map] }

-- `struct` is not a word of its own here, and `let` comes too late
example : (parse "structlet x: Int").map name = .ok "let x: Int" := by
  rfl

end Declaration

end DeclScan
