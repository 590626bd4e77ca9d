import DeclScan.Declaration.Basic
import DeclScan.Proofs.Machine.Locate
import DeclScan.Proofs.Machine.Scanner

/-!
Declarations read from a line of bytes.

The readers of declarations are scans for literals, one after the other, with a lookup of the position
where they stop. On a line of fewer than `2 ^ 63` bytes none of these has a fault, and the declaration or
error is the one that is read from characters (`parseType_eq`, `parseVariable_eq`,
`parseDeclaration_eq`).
-/

namespace DeclScan

/-! ### Keyword and name -/

namespace Scanner

/-- Scans for a keyword, and then for all up to a delimiter. -/
def readNamed (scanner : Scanner) (κ : Type) [Keyword κ] (delimiter : Char) :
    Except ParseError (κ × List Char) :=
  match scanner.scanKeyword κ with
  | (none, stopped) =>
    .error (.expectedKeyword ((Keyword.all : List κ).map Keyword.spelling) stopped.position)
  | (some keyword, afterKeyword) =>
    match afterKeyword.scan (.upTo [delimiter]) with
    | (none, stopped) => .error (.missingDelimiter delimiter stopped.position)
    | (some name, _) => .ok (keyword, name)

end Scanner

theorem TypeDeclaration.scan_eq_map (scanner : Scanner) :
    TypeDeclaration.scan scanner =
      (scanner.readNamed TypeKind TypeDeclaration.delimiter).map fun (kind, name) =>
        ⟨kind, String.ofList (TypeDeclaration.trimSpaces name)⟩ := by
  rw [TypeDeclaration.scan, Scanner.readNamed]
  rcases scanner.scanKeyword TypeKind with ⟨_ | kind, afterKeyword⟩
  · rfl
  · dsimp only
    rcases afterKeyword.scan (.upTo [TypeDeclaration.delimiter]) with ⟨_ | name, stopped⟩ <;> rfl

theorem VariableDeclaration.scan_eq_map (scanner : Scanner) :
    VariableDeclaration.scan scanner =
      ((VariableDeclaration.scanModifiers scanner).2.readNamed Binding
        VariableDeclaration.delimiter).map fun (binding, name) =>
          ⟨String.ofList name, (VariableDeclaration.scanModifiers scanner).1.1,
            (VariableDeclaration.scanModifiers scanner).1.2, binding⟩ := by
  unfold VariableDeclaration.scan Scanner.readNamed
  rcases VariableDeclaration.scanModifiers scanner with ⟨⟨access, isWeak⟩, afterModifiers⟩
  dsimp only
  rcases afterModifiers.scanKeyword Binding with ⟨_ | binding, afterBinding⟩
  · rfl
  · dsimp only
    rcases afterBinding.scan (.upTo [VariableDeclaration.delimiter]) with ⟨_ | name, stopped⟩ <;> rfl

namespace Machine

open Text

/-! ### Readers of declarations -/

namespace State

/-- A state at the start of a text, with the settings of a new scanner. -/
def ofText (text : List Char) : State := ⟨text, 0, some .whitespaceAndNewlines, true⟩

/-- Row and column of the place. -/
def position (state : State) : Checked Position := locate state.source state.place

section

variable [Allocator]

/-- Scans for the first of `words` that comes next. -/
def scanAny {κ : Type} [Keyword κ] (state : State) : List κ → Checked (Option κ × State)
  | [] => return (none, state)
  | word :: rest => do
    match ← state.scan (.literal (Keyword.spelling word).toList) with
    | (some _, next) => return (some word, next)
    | (none, _) => state.scanAny rest

/-- Scans for a keyword, and then for all up to a delimiter. -/
def readNamed (state : State) (κ : Type) [Keyword κ] (delimiter : Char) :
    Checked (Except ParseError (κ × List Char)) := do
  match ← state.scanAny (Keyword.all : List κ) with
  | (none, stopped) =>
    return .error (.expectedKeyword ((Keyword.all : List κ).map Keyword.spelling)
      (← stopped.position))
  | (some keyword, afterKeyword) =>
    match ← afterKeyword.scan (.upTo [delimiter]) with
    | (none, stopped) => return .error (.missingDelimiter delimiter (← stopped.position))
    | (some name, _) => return .ok (keyword, name)

/-- The modifiers before a binding keyword, and the state behind them. -/
def scanModifiers (state : State) : Checked ((Option AccessModifier × Bool) × State) := do
  let (weakBefore, afterFirst) ← state.scan (.literal weakKeyword.toList)
  let (access, afterAccess) ← afterFirst.scanAny (Keyword.all : List AccessModifier)
  let (weakAfter, afterSecond) ← afterAccess.scan (.literal weakKeyword.toList)
  return ((access, weakBefore.isSome || weakAfter.isSome), afterSecond)

/-- Reads the declaration of a type. -/
def scanType (state : State) : Checked (Except ParseError TypeDeclaration) := do
  let named ← state.readNamed TypeKind TypeDeclaration.delimiter
  return named.map fun (kind, name) => ⟨kind, String.ofList (TypeDeclaration.trimSpaces name)⟩

/-- Reads the declaration of a variable. -/
def scanVariable (state : State) : Checked (Except ParseError VariableDeclaration) := do
  let ((access, isWeak), afterModifiers) ← state.scanModifiers
  let named ← afterModifiers.readNamed Binding VariableDeclaration.delimiter
  return named.map fun (binding, name) => ⟨String.ofList name, access, isWeak, binding⟩

end

theorem ofText_eq (text : List Char) : ofText text = ofScanner (.ofText text) := rfl

theorem source_scanAny {κ : Type} [Keyword κ] (scanner : Scanner) (words : List κ) :
    (scanner.scanAny words).2.source = scanner.source := by
  induction words with
  | nil => rfl
  | cons word rest ih =>
    have kept := scanner.source_scan (.literal (Keyword.spelling word).toList)
    rw [Scanner.scanAny]
    generalize scanner.scan (.literal (Keyword.spelling word).toList) = scanned at kept ⊢
    rcases scanned with ⟨_ | found, next⟩
    · exact ih
    · exact kept

section

variable {scanner : Scanner} (short : byteLength scanner.source < 2 ^ 63)
include short

theorem position_eq : (ofScanner scanner).position = .ok scanner.position :=
  locate_eq short scanner.offset

variable [Allocator]

theorem scan_literal_eq (wanted : List Char) :
    (ofScanner scanner).scan (.literal wanted) =
      .ok ((scanner.scan (.literal wanted)).1, ofScanner (scanner.scan (.literal wanted)).2) :=
  scan_eq short trivial not_false

theorem scan_upTo_eq (wanted : List Char) :
    (ofScanner scanner).scan (.upTo wanted) =
      .ok ((scanner.scan (.upTo wanted)).1, ofScanner (scanner.scan (.upTo wanted)).2) :=
  scan_eq short trivial not_false

theorem scanAny_eq {κ : Type} [Keyword κ] (words : List κ) :
    (ofScanner scanner).scanAny words =
      .ok ((scanner.scanAny words).1, ofScanner (scanner.scanAny words).2) := by
  induction words with
  | nil => rfl
  | cons word rest ih =>
    rw [scanAny, Scanner.scanAny, scan_literal_eq short, ok_bind]
    generalize scanner.scan (.literal (Keyword.spelling word).toList) = scanned
    rcases scanned with ⟨_ | found, next⟩
    · exact ih
    · rfl

theorem readNamed_eq (κ : Type) [Keyword κ] (delimiter : Char) :
    (ofScanner scanner).readNamed κ delimiter = .ok (scanner.readNamed κ delimiter) := by
  have source := source_scanAny scanner (Keyword.all : List κ)
  rw [readNamed, Scanner.readNamed, scanAny_eq short, ok_bind, Scanner.scanKeyword]
  generalize scanner.scanAny (Keyword.all : List κ) = scanned at source ⊢
  rcases scanned with ⟨_ | keyword, next⟩
  · have short' : byteLength next.source < 2 ^ 63 := source.symm ▸ short
    dsimp only
    rw [position_eq short']
    rfl
  · have short' : byteLength next.source < 2 ^ 63 := source.symm ▸ short
    have source' := next.source_scan (.upTo [delimiter])
    dsimp only
    rw [scan_upTo_eq short', ok_bind]
    generalize next.scan (.upTo [delimiter]) = scanned at source' ⊢
    rcases scanned with ⟨_ | name, stopped⟩
    · have short'' : byteLength stopped.source < 2 ^ 63 := source'.symm ▸ short'
      dsimp only
      rw [position_eq short'']
      rfl
    · rfl

theorem scanModifiers_eq :
    (ofScanner scanner).scanModifiers =
        .ok ((VariableDeclaration.scanModifiers scanner).1,
          ofScanner (VariableDeclaration.scanModifiers scanner).2) ∧
      (VariableDeclaration.scanModifiers scanner).2.source = scanner.source := by
  unfold scanModifiers VariableDeclaration.scanModifiers
  -- no scan changes the text, so the bound on its bytes holds for the next one
  have first := scanner.source_scan (.literal weakKeyword.toList)
  rw [scan_literal_eq short, ok_bind]
  generalize scanner.scan (.literal weakKeyword.toList) = scanned at first ⊢
  obtain ⟨weakBefore, afterFirst⟩ := scanned
  rw [← first] at short ⊢
  have second := source_scanAny afterFirst (Keyword.all : List AccessModifier)
  dsimp only at short second ⊢
  rw [scanAny_eq short, ok_bind, Scanner.scanKeyword]
  generalize afterFirst.scanAny (Keyword.all : List AccessModifier) = scanned at second ⊢
  obtain ⟨access, afterAccess⟩ := scanned
  rw [← second] at short ⊢
  dsimp only at short ⊢
  rw [scan_literal_eq short, ok_bind]
  exact ⟨rfl, afterAccess.source_scan (.literal weakKeyword.toList)⟩

theorem scanType_eq : (ofScanner scanner).scanType = .ok (TypeDeclaration.scan scanner) := by
  rw [scanType, readNamed_eq short, TypeDeclaration.scan_eq_map]
  rfl

theorem scanVariable_eq :
    (ofScanner scanner).scanVariable = .ok (VariableDeclaration.scan scanner) := by
  obtain ⟨modifiers, source⟩ := scanModifiers_eq short
  rw [scanVariable, modifiers, ok_bind, VariableDeclaration.scan_eq_map]
  rw [← source] at short
  dsimp only
  rw [readNamed_eq short]
  rfl

end

end State

/-! ### Lines -/

section

variable [Allocator]

/-- The type that `line` declares. -/
def parseType (line : String) : Checked (Except ParseError TypeDeclaration) :=
  (State.ofText line.toList).scanType

/-- The variable that `line` declares. -/
def parseVariable (line : String) : Checked (Except ParseError VariableDeclaration) :=
  (State.ofText line.toList).scanVariable

/-- The type that `line` declares, else the variable. -/
def parseDeclaration (line : String) : Checked (Except ParseError Declaration) := do
  match ← parseType line with
  | .ok declaration => return .ok (.ofType declaration)
  | .error _ => return (← parseVariable line).map .ofVariable

variable {line : String} (short : byteLength line.toList < 2 ^ 63)
include short

theorem parseType_eq : parseType line = .ok (TypeDeclaration.parse line) := by
  have bound : byteLength (Scanner.ofText line.toList).source < 2 ^ 63 := short
  rw [parseType, State.ofText_eq, State.scanType_eq bound, TypeDeclaration.parse]

theorem parseVariable_eq : parseVariable line = .ok (VariableDeclaration.parse line) := by
  have bound : byteLength (Scanner.ofText line.toList).source < 2 ^ 63 := short
  rw [parseVariable, State.ofText_eq, State.scanVariable_eq bound, VariableDeclaration.parse]

theorem parseDeclaration_eq : parseDeclaration line = .ok (Declaration.parse line) := by
  rw [parseDeclaration, parseType_eq short, ok_bind, parseVariable_eq short]
  unfold Declaration.parse
  generalize TypeDeclaration.parse line = type
  cases type with
  | ok declaration => rfl
  | error error => rfl

end

end Machine

end DeclScan
