import TwoFlow.Verification.Violation

/-!
# Violations found by the property checker

## Main definitions

* `Property.Violation`, `Property.Violation.message`
-/

namespace TwoFlow

/-- An answer spelled as a structured value. -/
def Text.answer {α : Type} [ToString α] : Answer α → String
  | .ok a => s!"Ok({a})"
  | .error e => "Err(" ++ e.debug ++ ")"

namespace Property

/-- What is wrong with a step of a scheduler. -/
inductive Violation where
  /-- The length is not the sum of the lengths of the flows. -/
  | lengthMismatch (step len flowSum : Nat)
  /-- A flow, or the scheduler as a whole, holds more than its capacity. -/
  | capacityExceeded (step : Nat) (flow : Option Flow) (len capacity : Nat)
  /-- The length moved otherwise than the request says. -/
  | lengthNotUpdated (step : Nat) (command : Command) (before after : Nat)
  /-- A flow gave a value that is not its oldest. -/
  | fifoOrder (step : Nat) (flow : Flow) (expected : Option Value) (observed : Value)
  /-- The other flow served a pop although the hot one had values. -/
  | wrongFlowServed (step : Nat) (hot served : Flow)
  /-- The hot flow served a pop and kept the turn. -/
  | hotNotFlipped (step : Nat) (hot : Flow)
  /-- The hot flow moved on a request that must leave it alone. -/
  | unexpectedHotChange (step : Nat) (command : Command) (before after : Flow)
  /-- A push was rejected although there was room. -/
  | spuriousOverflow (step len flowLen : Nat)
  /-- A pop or peek was rejected although there were values. -/
  | spuriousUnderflow (step : Nat) (command : Command) (len : Nat)
  /-- A request that must not change the state changed it. -/
  | stateChangedOnError (step : Nat) (command : Command)
  /-- The response does not fit the request. -/
  | malformedResponse (step : Nat) (command : Command)
  /-- A peek before the pop gave something else than the pop. -/
  | peekMismatch (step : Nat) (peeked : Answer Value) (popped : Value)
  /-- Two peeks in a row disagreed or changed the state. -/
  | peekNotIdempotent (step : Nat) (first second : Answer Value)

/-- The text of a violation. -/
def Violation.message : Violation → String
  | lengthMismatch step len flowSum =>
    s!"Length mismatch at step {step}: len={len}, flows hold {flowSum}"
  | capacityExceeded step flow len capacity =>
    let holder := flow.elim "pifo" Flow.name
    s!"Capacity exceeded at step {step}: {holder} holds {len} (max {capacity})"
  | lengthNotUpdated step command before after =>
    let command := command.debug
    s!"Length not updated at step {step}: {command} moved len {before} -> {after}"
  | fifoOrder step flow expected observed =>
    let expected := Text.optional expected
    s!"FIFO order broken at step {step}: {flow} handed out {observed}, expected {expected}"
  | wrongFlowServed step hot served =>
    s!"Wrong flow served at step {step}: hot={hot} had values but {served} served"
  | hotNotFlipped step hot =>
    s!"Hot not flipped at step {step}: stayed {hot} after primary pop"
  | unexpectedHotChange step command before after =>
    let command := command.debug
    s!"Unexpected hot change at step {step}: {command} moved hot {before} -> {after}"
  | spuriousOverflow step len flowLen =>
    s!"Spurious overflow at step {step}: len={len}, flow_len={flowLen}"
  | spuriousUnderflow step command len =>
    let command := command.debug
    s!"Spurious underflow at step {step}: {command} with len={len}"
  | stateChangedOnError step command =>
    let command := command.debug
    s!"State changed at step {step}: rejected {command} mutated the pifo"
  | malformedResponse step command =>
    let command := command.debug
    s!"Malformed response at step {step} for {command}"
  | peekMismatch step peeked popped =>
    let peeked := Text.answer peeked
    s!"Peek mismatch at step {step}: peek said {peeked}, pop returned {popped}"
  | peekNotIdempotent step first second =>
    let first := Text.answer first
    let second := Text.answer second
    s!"Peek not idempotent at step {step}: {first} then {second}"

end Property

end TwoFlow
