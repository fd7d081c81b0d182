import TwoFlow.Flow

/-!
# Observations

What can be seen of a scheduler from outside: which flow is hot, the total length, and the length
reported by each sub-queue.

## Main definitions

* `Observation`, `Observation.flowLen`, `Observation.debug`
-/

namespace TwoFlow

/-- A scheduler seen from outside. -/
structure Observation where
  /-- The flow preferred by the next pop. -/
  hot : Flow
  /-- The total number of values. -/
  len : Nat
  /-- The length reported for flow zero. -/
  flow0Len : Nat
  /-- The length reported for flow one. -/
  flow1Len : Nat
  deriving DecidableEq, Repr

namespace Observation

/-- The length reported for a flow. -/
def flowLen (o : Observation) : Flow → Nat
  | .zero => o.flow0Len
  | .one => o.flow1Len

/-- The observation spelled as a structured value. -/
def debug (o : Observation) : String :=
  let hot := o.hot.debug
  let len := o.len
  let len0 := o.flow0Len
  let len1 := o.flow1Len
  s!"Observation \x7b hot: {hot}, len: {len}, flow0_len: {len0}, flow1_len: {len1} \x7d"

end Observation

end TwoFlow
