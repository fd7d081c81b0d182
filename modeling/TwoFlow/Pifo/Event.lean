import TwoFlow.Error
import TwoFlow.Log

/-!
# Events of a scheduler

What a scheduler reports while it serves pushes and pops. Peeks report nothing.

## Main definitions

* `Event`, `Event.entry`: the events and their log entries
-/

namespace TwoFlow

/-- A report of a scheduler. -/
inductive Event where
  /-- A push found the scheduler full. -/
  | pushRejectedFull (len : Nat)
  /-- A push was rejected by the sub-queue of its flow. -/
  | pushRejectedByFlow (flow : Flow) (error : QueueError)
  /-- A push was accepted; the length is the one after it. -/
  | pushed (flow : Flow) (len : Nat)
  /-- A pop found the scheduler empty. -/
  | popRejectedEmpty
  /-- The hot flow failed and the other one is asked. -/
  | fallingBack (hot fallback : Flow)
  /-- Both flows failed although the scheduler counts values. -/
  | bothFailed (len : Nat) (error : QueueError)
  /-- A pop was served; hot flow and length are those after it. -/
  | popped (flow hot : Flow) (len : Nat)
  deriving DecidableEq, Repr

namespace Event

/-- The part of the program that reports the events of a scheduler. -/
def target : String := "pifo_flow::pifo"

/-- The log entry of an event. -/
def entry : Event → Log.Entry
  | pushRejectedFull len =>
    ⟨.trace, target, "push rejected, pifo full", [("len", toString len)]⟩
  | pushRejectedByFlow flow error =>
    ⟨.debug, target, "push rejected by sub-queue", [("flow", flow.name), ("err", error.message)]⟩
  | pushed flow len => ⟨.trace, target, "pushed", [("flow", flow.name), ("len", toString len)]⟩
  | popRejectedEmpty => ⟨.trace, target, "pop rejected, pifo empty", []⟩
  | fallingBack hot fallback =>
    ⟨.debug, target, "hot flow empty, falling back",
      [("hot", hot.name), ("fallback", fallback.name)]⟩
  | bothFailed len error =>
    ⟨.warn, target, "both flows empty with non-zero length",
      [("len", toString len), ("err", error.message)]⟩
  | popped flow hot len =>
    ⟨.trace, target, "popped", [("flow", flow.name), ("hot", hot.name), ("len", toString len)]⟩

end Event

end TwoFlow
