import TwoFlow.Action
import TwoFlow.History
import TwoFlow.Random.Source
import TwoFlow.Workload.Event
import TwoFlow.Workload.Pattern

/-!
# Workloads and the streams they generate

A workload generates streams of requests from a seed. Its random source and the number of pushes
it has generated carry on from one stream to the next, so bursts may end anywhere, and a stream
that breaks off leaves the words drawn before.

## Main definitions

* `Workload`, `Workload.ofConfig`
* `Workload.Odds`: the chances of the kinds of requests
* `Workload.nextFlow`, `Workload.valueFor`, `Workload.nextRequest`: how a request is drawn
* `Workload.generate`: the next stream of requests
-/

namespace TwoFlow

/-- A workload and how far it has come. -/
structure Workload where
  config : WorkloadConfig
  source : Source
  history : History := .empty
  /-- The number of pushes generated so far. -/
  pushesGenerated : Nat := 0

namespace Workload

/-- The workload of a configuration, at its beginning. -/
def ofConfig (config : WorkloadConfig) : Workload := { config, source := .ofSeed config.seed }

/-- Draws from the random source. -/
def draw {α : Type} (x : Draw α) : Action WorkloadEvent Workload α :=
  .ofState fun w =>
    let (a, source) := x.run w.source
    ({ w with source }, a)

/-- The chances of the kinds of requests; `none` stands for a number that is no probability. -/
structure Odds where
  /-- The chance of a push. -/
  push : Option Chance
  /-- The chance of a peek, where the request is no push. -/
  peek : Option Chance
  deriving DecidableEq, Repr

/-- The odds of a configuration. -/
def Odds.ofConfig (config : WorkloadConfig) : Odds where
  push := config.pattern.pushRatio.chance?
  peek := config.peekRatio.chance?

/-- A yes or no with a given chance. Only drawing shows that there is none. -/
def drawChance : Option Chance → Action WorkloadEvent Workload Bool
  | some c => draw (Draw.chance c)
  | none => .fault .invalidProbability

/-- The flow of the next push: the one of the pattern, by turns after each burst, or either one. -/
def nextFlow : Action WorkloadEvent Workload Flow := do
  let w ← get
  match w.config.pattern with
  | .singleFlow flow => return flow
  | .bursty burstLen =>
    -- A burst has at least one push.
    return if w.pushesGenerated / max burstLen 1 % 2 = 0 then .zero else .one
  | .balanced | .saturating | .draining =>
    return if ← draw (Draw.chance .even) then .zero else .one

/-- A value of a flow. Where no value lies above the boundary, flow one gets the boundary. -/
def valueFor (boundary : Value) : Flow → Draw Value
  | .zero => Draw.between 0 boundary
  | .one =>
    if boundary.toNat + 1 < UInt32.size then Draw.between (boundary + 1) 0xFFFFFFFF
    else return boundary

/-- The next request. -/
def nextRequest (odds : Odds) : Action WorkloadEvent Workload (Request Value) := do
  if ← drawChance odds.push then
    let flow ← nextFlow
    let boundary := (← get).config.pifo.boundary
    let v ← draw (valueFor boundary flow)
    -- The count comes last, so that its fault leaves flow and value drawn.
    let w ← get
    let pushesGenerated ← checkedAdd w.pushesGenerated 1
    set { w with pushesGenerated }
    return .push v
  else if ← drawChance odds.peek then return .peek
  else return .pop

/-- A number of requests. -/
def nextRequests (odds : Odds) : Nat → Action WorkloadEvent Workload (List (Request Value))
  | 0 => return []
  | n + 1 => do
    let r ← nextRequest odds
    return r :: (← nextRequests odds n)

/-- A stream takes eight bytes a request and less than 2^63 bytes in all, so its length is below
this limit. -/
def streamLimit : Nat := Nat.pow 2 60

/-- The next stream of requests. One that would be too long faults before anything is drawn. -/
def generate : Action WorkloadEvent Workload (List (Request Value)) := do
  let config := (← get).config
  if config.operations < streamLimit then nextRequests (.ofConfig config) config.operations
  else Action.fault .streamTooLong

end Workload

end TwoFlow
