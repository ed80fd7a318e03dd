import MetricQuery.CommandLine.Run
import Std.Time.DateTime.Timestamp

/-!
# The command line

Reads the arguments, and the query from standard input if it is not among them, and prints the
outcome.  The command ends with 2 if the arguments are wrong and with 1 if the query is.
-/

set_option autoImplicit false

namespace MetricQuery.CommandLine

/-- The present time. -/
def present : IO Instant := do
  let now ← Std.Time.Timestamp.now
  let nanos := now.toNanosecondsSinceUnixEpoch.val
  pure ⟨nanos / nanosPerSecond, (nanos % nanosPerSecond).toNat⟩

/-- All of standard input. -/
def readInput : IO String := do
  let input ← IO.getStdin
  let bytes ← input.readToEnd
  pure bytes

/-- Prints a report and gives the exit code. -/
def finish (report : Report) : IO UInt32 := do
  for note in report.notes do
    IO.eprintln note.text
  match report.result with
  | .ok output =>
    IO.println output
    pure 0
  | .error failure =>
    IO.eprintln failure.report
    pure 1

end MetricQuery.CommandLine

open MetricQuery.CommandLine in
/-- Runs the command. -/
def main (args : List String) : IO UInt32 := do
  match Arguments.parse args with
  | .error error =>
    IO.eprintln ("error: " ++ error.message)
    pure 2
  | .ok arguments =>
    let text ← match arguments.query with
      | some text => pure text
      | none => readInput
    finish (arguments.run (← present) text)
