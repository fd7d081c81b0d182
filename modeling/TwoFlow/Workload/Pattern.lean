import TwoFlow.Number.Binary64
import TwoFlow.Scenario

/-!
# Traffic patterns

## Main definitions

* `Pattern`, `Pattern.pushRatio`: what traffic looks like
* `WorkloadConfig`: the parameters of a workload
-/

namespace TwoFlow

/-- What generated traffic looks like. -/
inductive Pattern where
  /-- Both flows alike. -/
  | balanced
  /-- All pushes to one flow. -/
  | singleFlow (flow : Flow)
  /-- Bursts of pushes to the flows by turns. -/
  | bursty (burstLen : Nat)
  /-- Mostly pushes. -/
  | saturating
  /-- Mostly pops and peeks. -/
  | draining
  deriving DecidableEq, Repr

namespace Pattern

/-- The probability of a push. -/
def pushRatio : Pattern → Binary64
  | balanced | singleFlow _ | bursty _ => .ofFraction false 1 2
  | saturating => .ofFraction false 4 5
  | draining => .ofFraction false 1 4

/-- The pattern spelled as a structured value. -/
def debug : Pattern → String
  | balanced => "Balanced"
  | singleFlow flow => "SingleFlow \x7b flow: " ++ flow.debug ++ " \x7d"
  | bursty burstLen => s!"Bursty \x7b burst_len: {burstLen} \x7d"
  | saturating => "Saturating"
  | draining => "Draining"

end Pattern

/-- The parameters of a workload. -/
structure WorkloadConfig where
  seed : UInt64 := 0
  /-- How many requests a stream has. -/
  operations : Nat := 1000
  pattern : Pattern := .balanced
  /-- The probability that a request that is no push is a peek. -/
  peekRatio : Binary64 := .ofFraction false 1 5
  /-- The configuration of the scheduler under test. -/
  pifo : Config Value := .standard

end TwoFlow
