import TwoFlow.Property.Violation

/-!
# Laws of a single state

The total length is the sum of the lengths of the flows, and neither the whole nor a flow holds
more than its capacity.

## Main definitions

* `Property.checkState`
-/

namespace TwoFlow.Property

/-- What is wrong with a state, for a given capacity of each flow. -/
def checkState (step : Nat) (state : Observation) (flowCapacity : Nat) :
    Except Fault (List Violation) := do
  let flowSum ← checkedAdd state.flow0Len state.flow1Len
  let capacity ← checkedMul flowCapacity 2
  let flows := Flow.all.flatMap fun flow =>
    if flowCapacity < state.flowLen flow then
      [.capacityExceeded step (some flow) (state.flowLen flow) flowCapacity]
    else []
  return (if state.len = flowSum then [] else [.lengthMismatch step state.len flowSum]) ++
    (if capacity < state.len then [.capacityExceeded step none state.len capacity] else []) ++
    flows

end TwoFlow.Property
