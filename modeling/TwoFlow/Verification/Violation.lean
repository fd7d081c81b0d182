import TwoFlow.Operation

/-!
# Violations found in a history

## Main definitions

* `Violation`, `Violation.message`
-/

namespace TwoFlow

/-- A value that may be missing, spelled as a structured value. -/
def Text.optional {α : Type} [ToString α] : Option α → String
  | some a => s!"Some({a})"
  | none => "None"

/-- What is wrong with an operation of a history. -/
inductive Violation where
  /-- The operation was never completed. -/
  | incomplete (id : Nat)
  /-- The result differs from that of the model. -/
  | resultMismatch (id : Nat) (command : Command) (expected observed : Result)
  /-- The state differs from that of the model. -/
  | stateMismatch (id : Nat) (expected observed : Observation)
  /-- The length is not the sum of the lengths of the flows. -/
  | lengthMismatch (id len flowSum : Nat)
  /-- More values are held than the capacity allows. -/
  | capacityExceeded (id len capacity : Nat)
  /-- A value was given out of the order in which its flow took it in. -/
  | fifoViolation (id : Nat) (flow : Flow) (expected : Option Value) (observed : Value)
  /-- The hot flow changed without a pop that may change it. -/
  | unexpectedHotChange (id : Nat) (command : Command) (before after : Flow)
  deriving DecidableEq, Repr

/-- The text of a violation. -/
def Violation.message : Violation → String
  | incomplete id => s!"Incomplete: op={id} has no result"
  | resultMismatch id command expected observed =>
    let command := command.debug
    let expected := expected.text
    let observed := observed.text
    s!"Result mismatch: op={id} {command} expected {expected}, got {observed}"
  | stateMismatch id expected observed =>
    let expected := expected.debug
    let observed := observed.debug
    s!"State mismatch: op={id} expected {expected}, got {observed}"
  | lengthMismatch id len flowSum =>
    s!"Length mismatch: op={id} len={len} but flows hold {flowSum}"
  | capacityExceeded id len capacity =>
    s!"Capacity exceeded: op={id} len={len} (max {capacity})"
  | fifoViolation id flow expected observed =>
    let expected := Text.optional expected
    s!"FIFO violation: op={id} {flow} returned {observed}, expected {expected}"
  | unexpectedHotChange id command before after =>
    let command := command.debug
    s!"Unexpected hot change: op={id} {command} moved hot {before} -> {after}"

end TwoFlow
