import DeclScan.Extraction
import DeclScan.Input

/-!
The command line: a command word, then lines, which are read from standard input when none are
given. Either stream may reject what is written to it, and the program panics where standard error
rejects a message of its own.
-/

namespace DeclScan.Command

/-- What a run of the program leaves behind. -/
structure Outcome where
  code : Nat
  stdout : String
  stderr : String
deriving DecidableEq

/-- The help text. -/
def usage : String :=
  "Usage: eqx <command> [LINE...]\n" ++
  "\n" ++
  "Commands:\n" ++
  "  type    Name declared by a `struct`/`enum` line\n" ++
  "  var     Name declared by a `let`/`var` line\n" ++
  "  decl    Either of the above\n" ++
  "\n" ++
  "Reads lines from stdin when no LINE is given.\n" ++
  "Set RUST_LOG=eqx_decl=trace to log each extraction.\n"

/-- The words that ask for the help text. -/
def helpWords : List String := ["help", "--help", "-h"]

/-- The faults of the program's streams. -/
def streamFault (stdoutFault stderrFault : Option WriteFault) : Stream → Option WriteFault
  | .out => stdoutFault
  | .err => stderrFault

/-- The exit code of a program that panics. -/
def panicCode : Nat := 101

/-- Ends the program with a message of its own behind what the streams have received. A standard error
that rejects the message makes it panic. -/
def conclude (code : Nat) (stdout stderr message : String) : Option WriteFault → Outcome
  | none => ⟨code, stdout, stderr ++ message⟩
  | some _ => ⟨panicCode, stdout, stderr⟩

/-- Extracts from `lines`. The first rejected write is reported behind the failures. -/
def extract (mode : Mode) (lines : List String) (stdoutFault stderrFault : Option WriteFault) :
    Outcome :=
  match extractLines mode lines (streamFault stdoutFault stderrFault) with
  | (report, none) => ⟨if report.summary.isSuccess then 0 else 1, report.out, report.err⟩
  | (report, some rejected) =>
    conclude 1 report.out report.err ("error: " ++ rejected.message ++ "\n") stderrFault

/-- The message for an input that is not text. -/
def readError : String :=
  "error: failed to read stdin: stream did not contain valid UTF-8\n"

/-- Runs the program on its arguments and the bytes of its standard input, with the faults of its
streams. -/
def runWith (arguments : List String) (input : List UInt8)
    (stdoutFault stderrFault : Option WriteFault) : Outcome :=
  match arguments with
  | [] => conclude 2 "" "" usage stderrFault
  | word :: lines =>
    if helpWords.contains word then conclude 0 "" "" usage stderrFault
    else
      match Mode.ofCommand? word with
      | none =>
        conclude 2 "" "" ("error: unknown command '" ++ word ++ "'\n\n" ++ usage) stderrFault
      | some mode =>
        if lines.isEmpty then
          match Input.lines? input with
          | some lines => extract mode lines stdoutFault stderrFault
          | none => conclude 1 "" "" readError stderrFault
        else extract mode lines stdoutFault stderrFault

/-- Runs the program with a standard error that takes what is written to it. -/
def run (arguments : List String) (input : List UInt8) (stdoutFault : Option WriteFault) : Outcome :=
  runWith arguments input stdoutFault none

/-- Whether a run on these arguments reads standard input. -/
def readsInput : List String → Bool
  | [word] => (Mode.ofCommand? word).isSome
  | _ => false

end DeclScan.Command
