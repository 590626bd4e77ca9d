import DeclScan.Proofs.Machine.Declaration

/-!
What is done to a text of bytes has no fault.

## Main result

`Machine.run_faultless`: operations on a scanner over fewer than `2 ^ 63` bytes, lookups of positions
in its text and the readers of declarations take every step, and end as they do on characters. The one
thing that can stop them is a memory without room for the digits of a decimal numeral.

## Proof strategy

Every state stands for a scanner over the same text. One operation keeps that
(`Session.step_computes`), and a run follows by induction (`Session.run_computes`).
-/

namespace DeclScan.Machine

open Text

/-! ### Sessions -/

/-- A state and those before it, latest first. -/
structure Session where
  state : State
  earlier : List State

/-- An operation asks for no more than words of 64 bits hold. -/
def OperationSuits : Operation → Prop
  | .scan probe => State.Suits probe
  | .setSkip _ => True
  | .setCaseSensitive _ => True
  | .restore _ => True

namespace Session

/-- A session that begins at the front of a text. -/
def start (source : List Char) (skip : Option CharSet) (caseSensitive : Bool) : Session :=
  ⟨⟨source, 0, skip, caseSensitive⟩, []⟩

/-- The session that stands for one over characters. -/
def ofSession (session : DeclScan.Session) : Session :=
  ⟨.ofScanner session.scanner, session.earlier.map .ofScanner⟩

variable [Allocator]

/-- The state after an operation. -/
def next (session : Session) : Operation → Checked State
  | .scan probe => do return (← session.state.scan probe).2
  | .setSkip skip => return { session.state with skip }
  | .setCaseSensitive caseSensitive => return { session.state with caseSensitive }
  | .restore back => return session.earlier[back]?.getD session.state

/-- The session after an operation. -/
def step (session : Session) (operation : Operation) : Checked Session := do
  let state ← session.next operation
  return ⟨state, session.state :: session.earlier⟩

/-- The session after a sequence of operations. -/
def run (session : Session) (operations : List Operation) : Checked Session :=
  operations.foldlM step session

section

variable {source : List Char} (short : byteLength source < 2 ^ 63)
include short

/-- One operation ends over the same text. -/
theorem step_computes {session : DeclScan.Session} (held : session.Over source)
    {operation : Operation} (suits : OperationSuits operation) :
    ∃ after : DeclScan.Session,
      Computes (Refuses (byteLength source)) ((ofSession session).step operation)
        (ofSession after) ∧
      after.Over source ∧
      (Numeral.exponentLimit + byteLength source < 2 ^ 63 → after = session.step operation) := by
  cases operation with
  | scan probe =>
    have same := held.1
    rw [← same] at short
    refine ⟨⟨(State.scanCapped session.scanner probe).2, session.scanner :: session.earlier⟩,
      ?_, ⟨?_, ?_⟩, ?_⟩
    · have scanned := (State.scan_computes short suits).mono And.right
      have next : Computes (Refuses (byteLength session.scanner.source))
          ((ofSession session).next (.scan probe))
          (.ofScanner (State.scanCapped session.scanner probe).2) := scanned.bind (.of_ok rfl)
      rw [same] at next
      exact next.bind (.of_ok rfl)
    · exact (State.source_scanCapped _ probe).trans same
    · exact (DeclScan.Session.over_step held (.scan probe)).2
    · intro room
      rw [← same] at room
      rw [State.scanCapped_eq probe room]
      rfl
  | setSkip skip => exact ⟨_, .of_ok rfl, DeclScan.Session.over_step held _, fun _ => rfl⟩
  | setCaseSensitive caseSensitive =>
    exact ⟨_, .of_ok rfl, DeclScan.Session.over_step held _, fun _ => rfl⟩
  | restore back =>
    have state : (ofSession session).next (.restore back) =
        .ok (.ofScanner (session.next (.restore back))) := by
      rw [next, DeclScan.Session.next, ofSession, List.getElem?_map]
      cases session.earlier[back]? with
      | none => rfl
      | some scanner => rfl
    refine ⟨session.step (.restore back), .of_ok ?_, DeclScan.Session.over_step held _,
      fun _ => rfl⟩
    rw [step, state]
    rfl

/-- A sequence of operations ends over the same text. -/
theorem run_computes {session : DeclScan.Session} (held : session.Over source)
    {operations : List Operation} (suits : ∀ operation ∈ operations, OperationSuits operation) :
    ∃ final : DeclScan.Session,
      Computes (Refuses (byteLength source)) ((ofSession session).run operations)
        (ofSession final) ∧
      final.Over source ∧
      (Numeral.exponentLimit + byteLength source < 2 ^ 63 → final = session.run operations) := by
  induction operations generalizing session with
  | nil => exact ⟨session, .of_ok rfl, held, fun _ => rfl⟩
  | cons operation rest ih =>
    obtain ⟨after, stepped, kept, same⟩ :=
      step_computes short held (suits operation List.mem_cons_self)
    obtain ⟨final, ran, kept', same'⟩ :=
      ih kept fun other member => suits other (List.mem_cons_of_mem operation member)
    refine ⟨final, ?_, kept', ?_⟩
    · rw [run, List.foldlM_cons]
      exact stepped.bind ran
    · intro room
      rw [same' room, same room]
      rfl

end

/-! ### Runs -/

/-- What operations do that are run from the front of `source` on, if they end in the session that
stands for `final`. -/
structure RunLaw (source : List Char) (skip : Option CharSet) (caseSensitive : Bool)
    (operations : List Operation) (final : DeclScan.Session) : Prop where
  -- every operation is done, unless there is no room for digits that it copies
  runs : Computes (Refuses (byteLength source)) ((start source skip caseSensitive).run operations)
    (ofSession final)
  -- all states are over the same text, and each place in it is a character boundary
  keeps : final.Over source
  -- the states are those of the run over characters, where that cuts exponents in the same way
  agrees : Numeral.exponentLimit + byteLength source < 2 ^ 63 →
    final = (DeclScan.Session.start ⟨.ofText source, skip, caseSensitive⟩).run operations
  -- a state answers each question about its place
  remaining : (State.ofScanner final.scanner).remaining = .ok final.scanner.remaining
  isAtEnd : (State.ofScanner final.scanner).isAtEnd = .ok final.scanner.isAtEnd
  position : (State.ofScanner final.scanner).position = .ok final.scanner.position
  -- and a probe finds what it finds in characters
  scans : ∀ {α : Type} (probe : Probe α), State.Suits probe → ∃ value after,
    Computes (State.Copies probe ∧ Refuses (byteLength source))
        ((State.ofScanner final.scanner).scan probe) (value, .ofScanner after) ∧
      after.source = source ∧
      (Numeral.exponentLimit + byteLength source < 2 ^ 63 →
        (value, after) = final.scanner.scan probe)

end Session

/-- Operations on a scanner over fewer than `2 ^ 63` bytes, lookups of positions and readers of
declarations have no fault, but for a memory without room for the digits of a numeral. -/
theorem run_faultless [Allocator] {source : List Char} (short : byteLength source < 2 ^ 63)
    (skip : Option CharSet) (caseSensitive : Bool) {operations : List Operation}
    (suits : ∀ operation ∈ operations, OperationSuits operation) :
    (∃ final, Session.RunLaw source skip caseSensitive operations final) ∧
      (∀ offset, locate source offset = .ok (DeclScan.locate source offset)) ∧
      ∀ line : String, byteLength line.toList < 2 ^ 63 →
        parseType line = .ok (TypeDeclaration.parse line) ∧
          parseVariable line = .ok (VariableDeclaration.parse line) ∧
          parseDeclaration line = .ok (Declaration.parse line) := by
  have begin : (DeclScan.Session.start ⟨.ofText source, skip, caseSensitive⟩).Over source :=
    ⟨Cursor.text_ofText source, by simp [DeclScan.Session.start]⟩
  obtain ⟨final, runs, keeps, agrees⟩ := Session.run_computes short begin suits
  have bound : byteLength final.scanner.source < 2 ^ 63 := keeps.1.symm ▸ short
  refine ⟨⟨final, ?_⟩, locate_eq short, ?_⟩
  · refine ⟨runs, keeps, agrees, State.remaining_eq _, State.isAtEnd_eq _,
      State.position_eq bound, ?_⟩
    intro α probe fits
    have scanned := State.scan_computes bound fits
    rw [keeps.1] at scanned
    refine ⟨_, _, scanned, (State.source_scanCapped final.scanner probe).trans keeps.1, ?_⟩
    intro room
    rw [← keeps.1] at room
    exact State.scanCapped_eq probe room
  · intro line few
    exact ⟨parseType_eq few, parseVariable_eq few, parseDeclaration_eq few⟩

/-- A decimal and a hexadecimal number, and a variable, with room for sixteen digits. -/
theorem run_faultless_two_numbers :
    let source := "-12.5 0x1p3".toList
    let operations : List Operation :=
      [.scan .decimal, .restore 0, .scan (.number .hexadecimal Binary.binary64)]
    letI : Allocator := .upTo 16
    byteLength source < 2 ^ 63 ∧ (∀ operation ∈ operations, OperationSuits operation) ∧
      (Session.start source none true).run operations =
        .ok (.ofSession ((DeclScan.Session.start ⟨.ofText source, none, true⟩).run operations)) ∧
      locate source 6 = .ok ⟨0, 11, 1, 7⟩ ∧
      parseDeclaration "weak var owner: Owner?" =
        .ok (.ok (.ofVariable ⟨"owner", none, true, .varBinding⟩)) := by
  intro source operations
  let memory : Allocator := .upTo 16
  have short : byteLength source < 2 ^ 63 := by decide
  have suits : ∀ operation ∈ operations, OperationSuits operation := by
    intro operation member
    simp only [operations, List.mem_cons, List.not_mem_nil, or_false] at member
    rcases member with rfl | rfl | rfl <;> trivial
  have granted : ¬Refuses (byteLength source) := not_refuses_upTo (by norm_num) (by decide)
  obtain ⟨⟨final, law⟩, located, lines⟩ := run_faultless short none true suits
  refine ⟨short, suits, ?_, ?_, ?_⟩
  · rw [law.runs.ok granted, law.agrees (by decide)]
  · exact (located 6).trans (by decide)
  · exact (lines _ (by decide)).2.2.trans (by decide)

end DeclScan.Machine
