import TwoFlow.Replay.Run

/-!
# The replay tool as a program

Writes the lines of a run to standard output and standard error and ends with its status.
-/

namespace TwoFlow.Replay

/-- Writes a line where it belongs. -/
def Line.write : Line → IO Unit
  | output text => IO.println text
  | report text => IO.eprintln text
  | log entry => IO.eprintln entry.line

end TwoFlow.Replay

/-- Runs the tool on the arguments of the process. -/
def main (args : List String) : IO UInt32 := do
  let run := TwoFlow.Replay.invoke args
  for line in run.lines do
    line.write
  return run.status
