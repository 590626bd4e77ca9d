import DeclScan.Scanner

/-!
Sessions: a scanner under a sequence of operations. Every state that the scanner has been in is
kept, so each of them can be taken up again.
-/

namespace DeclScan

/-- What can be done to a scanner. -/
inductive Operation : Type 1 where
  /-- Asks a probe. -/
  | scan {α : Type} (probe : Probe α)
  /-- Skips these characters from now on, or none. -/
  | setSkip (skip : Option CharSet)
  /-- Respects letter case from now on, or not. -/
  | setCaseSensitive (caseSensitive : Bool)
  /-- Takes up the state before the last one (`0`), the one before that (`1`), and so on. -/
  | restore (back : Nat)

/-- A scanner and the states it has been in, latest first. -/
structure Session where
  scanner : Scanner
  earlier : List Scanner

namespace Session

/-- A session with a scanner that has not been used. -/
def start (scanner : Scanner) : Session := ⟨scanner, []⟩

/-- The scanner after an operation. A state that never was cannot be taken up. -/
def next (session : Session) : Operation → Scanner
  | .scan probe => (session.scanner.scan probe).2
  | .setSkip skip => { session.scanner with skip }
  | .setCaseSensitive caseSensitive => { session.scanner with caseSensitive }
  | .restore back => session.earlier[back]?.getD session.scanner

/-- The session after an operation. -/
def step (session : Session) (operation : Operation) : Session :=
  ⟨session.next operation, session.scanner :: session.earlier⟩

/-- The session after a sequence of operations. -/
def run (session : Session) (operations : List Operation) : Session :=
  operations.foldl step session

end Session

end DeclScan
