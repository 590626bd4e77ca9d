import DeclScan.Command

/-!
The program: reads standard input when the command asks for it, and writes what the run leaves. Names
go out before failures, so a standard error that rejects its writes decides the exit code only.
-/

namespace DeclScan

/-- All that is left of a stream. -/
partial def readAll (stream : IO.FS.Stream) (soFar : ByteArray) : IO ByteArray := do
  let chunk ← stream.read 65536
  if chunk.isEmpty then return soFar else readAll stream (soFar ++ chunk)

/-- The fault behind a failed write. -/
def faultOf : IO.Error → WriteFault
  | .resourceExhausted .. => .noSpace
  | .resourceVanished .. => .brokenPipe
  | error => .other error.toString

end DeclScan

open DeclScan in
def main (arguments : List String) : IO UInt32 := do
  let input ←
    if Command.readsInput arguments then readAll (← IO.getStdin) .empty else pure .empty
  let stdout ← IO.getStdout
  let stderr ← IO.getStderr
  let run (stdoutFault stderrFault : Option WriteFault) :=
    Command.runWith arguments input.toList stdoutFault stderrFault
  let stdoutFault ←
    try
      stdout.putStr (run none none).stdout
      stdout.flush
      pure none
    catch error => pure (some (faultOf error))
  let stderrFault ←
    try
      stderr.putStr (run stdoutFault none).stderr
      stderr.flush
      pure none
    catch error => pure (some (faultOf error))
  return (run stdoutFault stderrFault).code.toUInt32
