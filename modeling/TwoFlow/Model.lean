import TwoFlow.Config
import TwoFlow.Operation
import TwoFlow.Queue

/-!
# The reference model

The discipline of the scheduler in its plainest form: two queues and a hot flow. There is no counter
beside the queues; the length is that of the queues. A configuration is taken as it is, so the model
of an invalid one exists as well, and doubling its capacity may be a fault.

## Main definitions

* `Model`, `Model.ofConfig`, `Model.state`
* `Model.apply`: serves a request
* `Model.applyAll`: serves a list of requests
-/

namespace TwoFlow

/-- Two queues of values and a hot flow. -/
structure Model where
  /-- The values of each flow. -/
  flows : PerFlow (Queue Value) := .both .empty
  /-- The flow preferred by the next pop. -/
  hot : Flow := .zero
  config : Config Value

namespace Model

/-- The model without values. -/
def ofConfig (config : Config Value) : Model := { config }

/-- The number of values held. -/
def len (m : Model) : Nat := m.flows.zero.length + m.flows.one.length

/-- Does the model hold no value? -/
def isEmpty (m : Model) : Bool := m.flows.zero.isEmpty && m.flows.one.isEmpty

/-- The model seen from outside. -/
def state (m : Model) : Observation :=
  ⟨m.hot, m.len, m.flows.zero.length, m.flows.one.length⟩

/-- Adds a value to the queue of its flow, unless both queues or that one are full. -/
def push (m : Model) (v : Value) : Except Fault (Model × Result) := do
  -- The product is taken on every push, so a capacity that is too large faults on the first one.
  let total ← checkedMul m.config.flowCapacity 2
  let flow : Flow := if v ≤ m.config.boundary then .zero else .one
  let held := m.flows.get flow
  if m.len = total then return (m, .overflow)
  else if held.length = m.config.flowCapacity then return (m, .overflow)
  else return ({ m with flows := m.flows.set flow (held.push v) }, .pushed)

/-- Takes the oldest value of the hot flow and hands the turn over; without one, takes the oldest
value of the other flow and keeps the turn. -/
def pop (m : Model) : Model × Result :=
  let hot := m.flows.get m.hot
  let other := m.flows.get m.hot.other
  match hot.head? with
  | some v => ({ m with flows := m.flows.set m.hot hot.tail, hot := m.hot.other }, .value v)
  | none =>
    match other.head? with
    | some v => ({ m with flows := m.flows.set m.hot.other other.tail }, .value v)
    | none => (m, .underflow)

/-- The oldest value of the hot flow, without one the oldest value of the other flow. -/
def peek (m : Model) : Result :=
  match (m.flows.get m.hot).head?.or (m.flows.get m.hot.other).head? with
  | some v => .value v
  | none => .underflow

/-- Serves a request. -/
def apply (m : Model) : Request Value → Except Fault (Model × Result)
  | .push v => m.push v
  | .pop => .ok m.pop
  | .peek => .ok (m, m.peek)

/-- Serves requests one after the other. -/
def applyAll (m : Model) : List (Request Value) → Except Fault (Model × List Result)
  | [] => .ok (m, [])
  | r :: rest => do
    let (m, result) ← m.apply r
    let (m, results) ← m.applyAll rest
    return (m, result :: results)

end Model

end TwoFlow
