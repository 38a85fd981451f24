import Roster.Command.Run

/-!
# The command

Reads the command line and the file that it names, carries out what is asked for, and writes what
comes of it: the report on the output, the log and the faults beside it.
-/

namespace Roster.Command

/-- What stands at a path. A directory is found out only when it is read, and then the fault names
no file. -/
def fileAt (path : String) : IO FileState := do
  match ← (IO.FS.readBinFile path).toBaseIO with
  | .ok bytes => return .content bytes.toList
  | .error (.inappropriateType none ..) => return .unreadable .isDirectory
  | .error (.inappropriateType (some _) ..) => return .unreadable .notDirectory
  | .error (.invalidArgument ..) => return .unreadable .nameTooLong
  | .error _ => return .missing

/-- Carries out a request. -/
def Request.perform (request : Request Float) : IO UInt32 := do
  let run := run request (← fileAt (normalPath request.path).toString)
  IO.print run.output.toString
  for line in run.log do
    IO.eprintln line.text.toString
  if let .aborted abort := run.ending then
    IO.eprintln abort.message
  return run.exitCode

/-- Does what a command line asks for. -/
def execute (words : List String) : IO UInt32 := do
  match parse (words.map Text.ofString) with
  | .help =>
    IO.println (usage programName)
    return 0
  | .refused error =>
    IO.eprintln (usageLine programName error).toString
    return 2
  | .request request => request.perform

end Roster.Command

/-- The program. -/
def main (args : List String) : IO UInt32 := Roster.Command.execute args
