import TwoFlow.History
import TwoFlow.Model
import TwoFlow.Verification.Violation

/-!
# Verification of a history

A history is checked in four ways. It is compared with the reference model, operation by operation;
and three laws are checked of the recorded results and states alone: lengths add up and stay within
the capacity, each flow gives its values in the order in which it took them in, and the hot flow
moves only on a pop.

## Main definitions

* `Verification.againstModel`, `Verification.bookkeeping`, `Verification.fifoPerFlow`,
  `Verification.hotMoves`: the four checks
* `Verification.verify`: all of them
-/

namespace TwoFlow.Verification

/-! ## Comparison with the model -/

/-- What an operation has wrong, where the model gives a result and then stands in a state. -/
def compare (op : Operation) (expected : Result) (state : Observation) : List Violation :=
  match op.completion with
  | none => [.incomplete op.id]
  | some c =>
    (if expected = c.result then []
      else [.resultMismatch op.id op.command expected c.result]) ++
    (if state = c.observed then [] else [.stateMismatch op.id state c.observed])

/-- Compares operations with a model that serves their requests. -/
def compareAll (m : Model) : List Operation → Except Fault (List Violation)
  | [] => .ok []
  | op :: rest => do
    let (m, expected) ← m.apply op.request
    let found := compare op expected m.state
    return found ++ (← compareAll m rest)

/-- Compares a history with the model of a configuration. -/
def againstModel (config : Config Value) (h : History) : Except Fault (List Violation) :=
  compareAll (.ofConfig config) h.operations

/-! ## Lengths -/

/-- What the lengths after an operation have wrong. -/
def checkLengths (capacity : Nat) (op : Operation) : Except Fault (List Violation) :=
  match op.observed? with
  | none => .ok []
  | some state => do
    let flowSum ← checkedAdd state.flow0Len state.flow1Len
    return (if state.len = flowSum then [] else [.lengthMismatch op.id state.len flowSum]) ++
      (if capacity < state.len then [.capacityExceeded op.id state.len capacity] else [])

/-- Checks the lengths after each operation. -/
def checkAllLengths (capacity : Nat) : List Operation → Except Fault (List Violation)
  | [] => .ok []
  | op :: rest => do
    let found ← checkLengths capacity op
    return found ++ (← checkAllLengths capacity rest)

/-- Checks that lengths add up and stay within the capacity. -/
def bookkeeping (config : Config Value) (h : History) : Except Fault (List Violation) :=
  checkAllLengths config.totalCapacity h.operations

/-! ## Order within a flow -/

/-- Checks the order of the values given, where `pending` are the values taken in and not yet
handed out. A value out of order is reported and nothing is taken off. -/
def checkOrder (classifier : Classifier Value) (pending : PerFlow (Queue Value)) :
    List Operation → List Violation
  | [] => []
  | op :: rest =>
    match op.request, op.result? with
    | .push v, some .pushed =>
      let flow := classifier.classify v
      checkOrder classifier (pending.set flow ((pending.get flow).push v)) rest
    | .pop, some (.value v) =>
      let flow := classifier.classify v
      let oldest := (pending.get flow).head?
      if oldest = some v then
        checkOrder classifier (pending.set flow (pending.get flow).tail) rest
      else .fifoViolation op.id flow oldest v :: checkOrder classifier pending rest
    | .peek, some (.value v) =>
      let flow := classifier.classify v
      let oldest := (pending.get flow).head?
      if oldest = some v then checkOrder classifier pending rest
      else .fifoViolation op.id flow oldest v :: checkOrder classifier pending rest
    -- Rejected, without a result, or with a result that does not belong to the request.
    | _, _ => checkOrder classifier pending rest

/-- Checks that each flow gives its values in the order in which it took them in. -/
def fifoPerFlow (config : Config Value) (h : History) : List Violation :=
  checkOrder config.classifier (.both .empty) h.operations

/-! ## The hot flow -/

/-- May the hot flow move from `before` to `after` over the operation? -/
def mayMove (op : Operation) (before after : Flow) : Bool :=
  after = before || (op.command = .pop && op.isOk && after = before.other)

/-- Checks the moves of the hot flow, from the flow that was hot before the operations. -/
def checkHot (before : Flow) : List Operation → List Violation
  | [] => []
  | op :: rest =>
    match op.observed? with
    -- The flow hot before is then the one for the next operation too.
    | none => checkHot before rest
    | some state =>
      let after := state.hot
      (if mayMove op before after then []
        else [.unexpectedHotChange op.id op.command before after]) ++ checkHot after rest

/-- Checks that the hot flow moves only on a pop that succeeded. -/
def hotMoves (h : History) : List Violation := checkHot .zero h.operations

/-! ## All checks -/

/-- All violations of a history. -/
def verify (config : Config Value) (h : History) : Except Fault (List Violation) := do
  let differences ← againstModel config h
  let lengths ← bookkeeping config h
  return differences ++ lengths ++ fifoPerFlow config h ++ hotMoves h

end TwoFlow.Verification
