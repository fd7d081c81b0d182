import TwoFlow.Config
import TwoFlow.Operation

/-!
# Scenarios

Configurations, request streams and seeds that are worth trying again and again.

## Main definitions

* `Config.standard` and its companions, `Scenario.configs`
* `Scenario.alternation`, `Scenario.fallback`, `Scenario.fillBoth`, `Scenario.floodZero`
* `Scenario.regressionSeeds`, `Scenario.seedCount`
-/

namespace TwoFlow

namespace Config

/-- Ten values a flow, split at 200: the configuration taken when none is given. -/
def standard : Config Value := ⟨10, 200⟩

/-- Two values a flow, so that both capacities are met all the time. -/
def tiny : Config Value := ⟨2, 200⟩

/-- One value a flow. -/
def singleSlot : Config Value := ⟨1, 200⟩

/-- So many values a flow that random traffic hardly meets the capacity. -/
def roomy : Config Value := ⟨256, 200⟩

end Config

namespace Scenario

/-- All configurations, the smallest first. -/
def configs : List (Config Value) := [.singleSlot, .tiny, .standard, .roomy]

/-- One value for each flow and three pops, the last of which finds nothing. -/
def alternation : List (Request Value) := [.push 5, .push 300, .pop, .pop, .pop]

/-- Only flow one holds a value while flow zero is hot. -/
def fallback : List (Request Value) := [.push 9000, .peek, .pop]

/-- Values for each flow by turns, `count` for each, and then a pop for each of them. The number of
pops is a 32-bit word. -/
def fillBoth (count : UInt32) : Except Fault (List (Request Value)) :=
  let n := count.toNat
  if n * 2 < UInt32.size then
    let pushes := (List.range n).flatMap fun i => [.push (.ofNat i), .push (.ofNat (1000 + i))]
    .ok (pushes ++ List.replicate (n * 2) .pop)
  else .error .mulOverflow

/-- One value more for flow zero than a flow takes. -/
def floodZero (flowCapacity : UInt32) : List (Request Value) :=
  (List.range (flowCapacity.toNat + 1)).map fun i => .push (.ofNat i)

/-- Seeds to try again and again. -/
def regressionSeeds : List UInt64 :=
  [42, 12345, 0xDEADBEEF, 999, 7777, 0x1337, 0xCAFEBABE, 1, 0xFFFFFFFFFFFFFFFF, 0]

/-- How many further seeds to try. -/
def seedCount : Nat := 100

end Scenario

end TwoFlow
