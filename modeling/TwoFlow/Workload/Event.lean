import TwoFlow.Operation
import TwoFlow.Pifo.Event

/-!
# Events of a workload

## Main definitions

* `WorkloadEvent`, `WorkloadEvent.entry`: the events and their log entries
-/

namespace TwoFlow

/-- What a workload reports. -/
inductive WorkloadEvent where
  /-- A report of the scheduler. -/
  | scheduler (event : Event)
  /-- A result that does not belong to its command. -/
  | unexpectedResult (id : Nat) (command : Command) (result : Result)
  /-- A replay has ended. -/
  | complete (seed : UInt64) (operations ok overflows underflows violations : Nat)
  deriving DecidableEq, Repr

namespace WorkloadEvent

/-- The part of the program that reports the events of a workload. -/
def target : String := "pifo_workload::workload"

/-- The log entry of an event. -/
def entry : WorkloadEvent → Log.Entry
  | scheduler event => event.entry
  | unexpectedResult id command result =>
    ⟨.debug, target, "unexpected result for command",
      [("op_id", toString id), ("command", command.debug), ("result", result.text)]⟩
  | complete seed operations ok overflows underflows violations =>
    ⟨.info, target, "workload complete",
      [("seed", toString seed), ("operations", toString operations), ("ok", toString ok),
       ("overflows", toString overflows), ("underflows", toString underflows),
       ("violations", toString violations)]⟩

end WorkloadEvent

end TwoFlow
