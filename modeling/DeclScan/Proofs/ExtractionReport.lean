import DeclScan.Command
import Mathlib.Data.List.TakeWhile

/-!
What a run over many lines leaves on its two streams.

## Main result

`Extraction.run_reports`: the streams hold exactly what the lines before the first rejected write
give, each in its stream and in order; the run fails exactly if there is such a line, and otherwise it
has counted every line. The program exits with zero exactly if every line gave a name and no write was
rejected; it panics if standard error rejects the report of a rejected write, as in
`Extraction.run_panics`.

## Proof strategy

One line adds to one stream and to one count (`Report.write_ofLine`), or it ends the run. What a run
leaves is then, by induction over the lines, what the lines before that one add up to
(`Report.deliver_lines`).
-/

namespace DeclScan

/-! ### What lines give -/

namespace Mode

/-- The stream to which the outcome of `line` goes. -/
def target (mode : Mode) (line : String) : Stream :=
  match mode.extract line with
  | .ok _ => .out
  | .error _ => .err

/-- The names that `lines` give, each with a line feed behind it. -/
def namesOf (mode : Mode) (lines : List String) : List String :=
  lines.filterMap fun line =>
    match mode.extract line with
    | .ok name => some (name ++ "\n")
    | .error _ => none

/-- The messages for those of `lines` that fail. The first of the lines is row `row`. -/
def failuresOf (mode : Mode) (lines : List String) (row : Nat) : List String :=
  (lines.zipIdx row).filterMap fun (line, row) =>
    match mode.extract line with
    | .ok _ => none
    | .error error => some ("line " ++ row.repr ++ ": " ++ error.message ++ "\n")

/-- How many of `lines` go to a stream. -/
def countOf (mode : Mode) (stream : Stream) (lines : List String) : Nat :=
  lines.countP fun line => mode.target line == stream

theorem target_eq_out_iff {mode : Mode} {line : String} :
    mode.target line = .out ↔ ∃ name, mode.extract line = .ok name := by
  rw [target]
  cases mode.extract line <;> simp

theorem countOf_add (mode : Mode) (lines : List String) :
    mode.countOf .out lines + mode.countOf .err lines = lines.length := by
  rw [List.length_eq_countP_add_countP (fun line => mode.target line == .out), countOf, countOf]
  congr 2
  funext line
  cases mode.target line <;> rfl

end Mode

/-! ### One line after the other -/

namespace Report

/-- The report with what `lines` give added to it. The first of the lines is row `row`. -/
def extend (report : Report) (mode : Mode) (lines : List String) (row : Nat) : Report where
  out := report.out ++ String.join (mode.namesOf lines)
  err := report.err ++ String.join (mode.failuresOf lines row)
  summary := {
    extracted := report.summary.extracted + mode.countOf .out lines
    failed := report.summary.failed + mode.countOf .err lines }

theorem extend_nil (report : Report) (mode : Mode) (row : Nat) :
    report.extend mode [] row = report := by
  simp [extend, Mode.namesOf, Mode.failuresOf, Mode.countOf]

theorem extend_cons (report : Report) (mode : Mode) (line : String) (lines : List String)
    (row : Nat) :
    report.extend mode (line :: lines) row =
      (report.write (Entry.ofLine mode line row)).extend mode lines (row + 1) := by
  cases outcome : mode.extract line with
  | ok name =>
    simp [extend, write, Entry.ofLine, Entry.stream, Entry.render, Mode.namesOf, Mode.failuresOf,
      Mode.countOf, Mode.target, outcome, String.append_assoc, Nat.add_assoc, Nat.add_comm 1]
  | error error =>
    simp [extend, write, Entry.ofLine, Entry.stream, Entry.render, Mode.namesOf, Mode.failuresOf,
      Mode.countOf, Mode.target, outcome, String.append_assoc, Nat.add_assoc, Nat.add_comm 1]

theorem stream_ofLine (mode : Mode) (line : String) (row : Nat) :
    (Entry.ofLine mode line row).stream = mode.target line := by
  rw [Entry.ofLine, Mode.target]
  cases mode.extract line <;> rfl

/-- The place of the first of `lines` whose outcome goes to a stream with a fault, or the number of
lines. -/
def firstRejected (mode : Mode) (fault : Stream → Option WriteFault) (lines : List String) : Nat :=
  lines.findIdx fun line => (fault (mode.target line)).isSome

/-- Lines are written up to the first whose stream has a fault, and that is the fault of the run. -/
theorem deliver_lines (mode : Mode) (fault : Stream → Option WriteFault) (lines : List String)
    (row : Nat) (report : Report) :
    deliver fault ((lines.zipIdx row).map fun (line, row) => Entry.ofLine mode line row) report =
      (report.extend mode (lines.take (firstRejected mode fault lines)) row,
        lines[firstRejected mode fault lines]?.bind fun line => fault (mode.target line)) := by
  induction lines generalizing row report with
  | nil => simp [deliver, extend_nil]
  | cons line lines ih =>
    rw [List.zipIdx_cons, List.map_cons, deliver, stream_ofLine, firstRejected, List.findIdx_cons]
    cases faulty : fault (mode.target line) with
    | some rejected => simp [extend_nil, faulty]
    | none =>
      rw [ih]
      simp [extend_cons, firstRejected]

end Report

/-! ### Whole runs -/

namespace Extraction

open Mode Report

/-- What extracting from `lines` leaves, if `stop` lines come before the first rejected write. -/
structure ReportLaw (mode : Mode) (fault : Stream → Option WriteFault) (lines : List String)
    (stop : Nat) : Prop where
  -- the lines before the rejected write have been written and counted, and no others
  out_eq : (extractLines mode lines fault).1.out = String.join (mode.namesOf (lines.take stop))
  err_eq : (extractLines mode lines fault).1.err = String.join (mode.failuresOf (lines.take stop) 1)
  extracted_eq : (extractLines mode lines fault).1.summary.extracted =
    mode.countOf .out (lines.take stop)
  failed_eq : (extractLines mode lines fault).1.summary.failed =
    mode.countOf .err (lines.take stop)
  -- the run ends with the fault of the stream to which the next line goes, if there is one
  rejected_eq : (extractLines mode lines fault).2 =
    lines[stop]?.bind fun line => fault (mode.target line)
  rejected_iff : (extractLines mode lines fault).2.isSome ↔ stop < lines.length
  -- a run that is not ended has counted every line
  complete : (extractLines mode lines fault).2 = none →
    (extractLines mode lines fault).1.summary =
        ⟨mode.countOf .out lines, mode.countOf .err lines⟩ ∧
      mode.countOf .out lines + mode.countOf .err lines = lines.length ∧
      ((extractLines mode lines fault).1.summary.isSuccess ↔
        ∀ line ∈ lines, ∃ name, mode.extract line = .ok name)

theorem extractLines_eq (mode : Mode) (lines : List String) (fault : Stream → Option WriteFault) :
    extractLines mode lines fault =
      (extend {} mode (lines.take (firstRejected mode fault lines)) 1,
        lines[firstRejected mode fault lines]?.bind fun line => fault (mode.target line)) :=
  deliver_lines mode fault lines 1 {}

theorem isSome_rejected_iff (mode : Mode) (fault : Stream → Option WriteFault)
    (lines : List String) :
    (extractLines mode lines fault).2.isSome ↔ firstRejected mode fault lines < lines.length := by
  rw [extractLines_eq]
  constructor
  · intro rejected
    by_contra beyond
    rw [List.getElem?_eq_none (not_lt.mp beyond)] at rejected
    cases rejected
  · intro within
    rw [List.getElem?_eq_getElem within, Option.bind_some]
    exact List.findIdx_getElem (w := within)

theorem rejected_eq_none_iff (mode : Mode) (fault : Stream → Option WriteFault)
    (lines : List String) :
    (extractLines mode lines fault).2 = none ↔ ∀ line ∈ lines, fault (mode.target line) = none := by
  rw [← Option.not_isSome_iff_eq_none, isSome_rejected_iff, firstRejected, List.findIdx_lt_length]
  simp

theorem countOf_err_eq_zero_iff (mode : Mode) (lines : List String) :
    mode.countOf .err lines = 0 ↔ ∀ line ∈ lines, ∃ name, mode.extract line = .ok name := by
  rw [countOf, List.countP_eq_zero]
  refine forall₂_congr fun line _ => ?_
  rw [← target_eq_out_iff]
  cases mode.target line <;> decide

theorem take_of_accepted {mode : Mode} {fault : Stream → Option WriteFault} {lines : List String}
    (accepted : (extractLines mode lines fault).2 = none) :
    lines.take (firstRejected mode fault lines) = lines := by
  have beyond := mt (isSome_rejected_iff mode fault lines).mpr (by simp [accepted])
  exact List.take_of_length_le (not_lt.mp beyond)

theorem summary_of_accepted {mode : Mode} {fault : Stream → Option WriteFault}
    {lines : List String} (accepted : (extractLines mode lines fault).2 = none) :
    (extractLines mode lines fault).1.summary =
      ⟨mode.countOf .out lines, mode.countOf .err lines⟩ := by
  -- the lines before the rejected write are all of them
  rw [extractLines_eq, take_of_accepted accepted]
  simp [extend]

theorem isSuccess_iff_of_accepted {mode : Mode} {fault : Stream → Option WriteFault}
    {lines : List String} (accepted : (extractLines mode lines fault).2 = none) :
    (extractLines mode lines fault).1.summary.isSuccess ↔
      ∀ line ∈ lines, ∃ name, mode.extract line = .ok name := by
  rw [summary_of_accepted accepted, Summary.isSuccess, beq_iff_eq, countOf_err_eq_zero_iff]

theorem reportLaw (mode : Mode) (fault : Stream → Option WriteFault) (lines : List String) :
    ReportLaw mode fault lines (firstRejected mode fault lines) where
  out_eq := by simp [extractLines_eq, extend]
  err_eq := by simp [extractLines_eq, extend]
  extracted_eq := by simp [extractLines_eq, extend]
  failed_eq := by simp [extractLines_eq, extend]
  rejected_eq := by rw [extractLines_eq]
  rejected_iff := isSome_rejected_iff mode fault lines
  complete := fun accepted =>
    ⟨summary_of_accepted accepted, countOf_add mode lines, isSuccess_iff_of_accepted accepted⟩

end Extraction

/-! ### The program -/

namespace Command

open Extraction

/-- The lines that a command is given, as arguments or else on standard input. -/
def lines? (arguments : List String) (input : List UInt8) : Option (List String) :=
  if arguments.isEmpty then Input.lines? input else some arguments

/-- What the program leaves behind when extracting from its lines gives `result`. -/
structure Reflects (result : Report × Option WriteFault) (stderrFault : Option WriteFault)
    (outcome : Outcome) : Prop where
  stdout_eq : outcome.stdout = result.1.out
  -- if no write was rejected, the exit code tells whether every line gave a name
  accepted : result.2 = none →
    outcome.stderr = result.1.err ∧ outcome.code = if result.1.summary.isSuccess then 0 else 1
  -- a rejected write is reported, and the program fails
  reported : ∀ rejected, result.2 = some rejected → stderrFault = none →
    outcome.stderr = result.1.err ++ "error: " ++ rejected.message ++ "\n" ∧ outcome.code = 1
  -- where that cannot be reported either, the program panics
  panics : result.2.isSome → stderrFault.isSome →
    outcome.stderr = result.1.err ∧ outcome.code = panicCode

theorem command_known (mode : Mode) :
    helpWords.contains mode.command = false ∧ Mode.ofCommand? mode.command = some mode := by
  cases mode <;> decide

theorem runWith_eq_extract (mode : Mode) {arguments : List String} {input : List UInt8}
    {lines : List String} (supplied : lines? arguments input = some lines)
    (stdoutFault stderrFault : Option WriteFault) :
    runWith (mode.command :: arguments) input stdoutFault stderrFault =
      extract mode lines stdoutFault stderrFault := by
  rw [runWith, (command_known mode).1, (command_known mode).2]
  rw [lines?] at supplied
  split at supplied
  next none => simp [none, supplied]
  next some =>
    cases supplied
    simp [some]

theorem extract_reflects (mode : Mode) (lines : List String)
    (stdoutFault stderrFault : Option WriteFault) :
    Reflects (extractLines mode lines (streamFault stdoutFault stderrFault)) stderrFault
      (extract mode lines stdoutFault stderrFault) := by
  rw [extract]
  generalize extractLines mode lines (streamFault stdoutFault stderrFault) = result
  obtain ⟨report, rejected⟩ := result
  cases rejected with
  | none => constructor <;> simp
  | some rejected =>
    cases stderrFault with
    | none => constructor <;> simp [conclude, String.append_assoc]
    | some => constructor <;> simp [conclude]

/-- On lines that it is given in either way, the program does what extracting from them does. -/
theorem runWith_reflects (mode : Mode) {arguments : List String} {input : List UInt8}
    {lines : List String} (supplied : lines? arguments input = some lines)
    (stdoutFault stderrFault : Option WriteFault) :
    Reflects (extractLines mode lines (streamFault stdoutFault stderrFault)) stderrFault
      (runWith (mode.command :: arguments) input stdoutFault stderrFault) := by
  rw [runWith_eq_extract mode supplied]
  exact extract_reflects mode lines stdoutFault stderrFault

theorem Reflects.code {mode : Mode} {lines : List String} {fault : Stream → Option WriteFault}
    {stderrFault : Option WriteFault} {outcome : Outcome}
    (reflects : Reflects (extractLines mode lines fault) stderrFault outcome) :
    (outcome.code = 0 ↔ (∀ line ∈ lines, ∃ name, mode.extract line = .ok name) ∧
        ∀ line ∈ lines, fault (mode.target line) = none) ∧
      (outcome.code = 101 ↔
        (¬∀ line ∈ lines, fault (mode.target line) = none) ∧ stderrFault.isSome) ∧
      (outcome.code = 0 ∨ outcome.code = 1 ∨ outcome.code = 101) := by
  rw [← rejected_eq_none_iff]
  cases rejected : (extractLines mode lines fault).2 with
  | none =>
    have ends := (reflects.accepted rejected).2
    rw [← isSuccess_iff_of_accepted rejected]
    cases succeeded : (extractLines mode lines fault).1.summary.isSuccess <;>
      simp [ends, succeeded]
  | some rejection =>
    cases broken : stderrFault with
    | none => simp [(reflects.reported rejection rejected broken).2]
    | some =>
      have ends := (reflects.panics (by simp [rejected]) (by simp [broken])).2
      simp [ends, panicCode]

end Command

/-- Whatever streams reject their writes, extracting from lines obeys `ReportLaw`. The program, given
the lines in one way or the other, leaves what that leaves. It exits with zero exactly if every line
gave a name and no write was rejected, and panics exactly if a write was rejected and standard error
does not take the report; otherwise it exits with one. -/
theorem Extraction.run_reports (mode : Mode) (lines : List String) :
    (∀ fault, ReportLaw mode fault lines (Report.firstRejected mode fault lines)) ∧
    ∀ arguments input stdoutFault stderrFault, Command.lines? arguments input = some lines →
      let outcome := Command.runWith (mode.command :: arguments) input stdoutFault stderrFault
      let fault := Command.streamFault stdoutFault stderrFault
      Command.Reflects (extractLines mode lines fault) stderrFault outcome ∧
      (outcome.code = 0 ↔ (∀ line ∈ lines, ∃ name, mode.extract line = .ok name) ∧
        ∀ line ∈ lines, fault (mode.target line) = none) ∧
      (outcome.code = 101 ↔
        (¬∀ line ∈ lines, fault (mode.target line) = none) ∧ stderrFault.isSome) ∧
      (outcome.code = 0 ∨ outcome.code = 1 ∨ outcome.code = 101) := by
  refine ⟨fun fault => reportLaw mode fault lines, ?_⟩
  intro arguments input stdoutFault stderrFault supplied
  have reflects := Command.runWith_reflects mode supplied stdoutFault stderrFault
  exact ⟨reflects, reflects.code⟩

/-- A line fails, and standard error takes neither its message nor the report about that: the program
does not exit with one. -/
theorem Extraction.run_panics :
    Command.lines? ["class A"] [] = some ["class A"] ∧
      (∀ name, Mode.typeNames.extract "class A" ≠ .ok name) ∧
      Command.runWith [Mode.typeNames.command, "class A"] [] none (some .noSpace) =
        ⟨101, "", ""⟩ := by
  obtain ⟨error, fails⟩ : ∃ error, Mode.typeNames.extract "class A" = .error error := ⟨_, rfl⟩
  refine ⟨rfl, ?_, by decide +kernel⟩
  rw [fails]
  exact fun name found => nomatch found

end DeclScan
