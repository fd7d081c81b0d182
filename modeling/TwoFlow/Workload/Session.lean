import TwoFlow.Target
import TwoFlow.Verification
import TwoFlow.Workload.Basic

/-!
# Replaying a workload

A session is a workload with the target it is replayed against. Every request replayed is recorded
in the history of the workload, and after each replay the whole history is verified, so what a
replay reports covers all replays before it.

## Main definitions

* `Tally`, `Summary`: what a replay reports
* `Session`, `Session.replay`, `Session.run`: given requests, and generated ones
-/

namespace TwoFlow

/-- Counts over one replay. -/
structure Tally where
  operationsTotal : Nat := 0
  pushesOk : Nat := 0
  popsOk : Nat := 0
  peeksOk : Nat := 0
  overflows : Nat := 0
  underflows : Nat := 0
  deriving DecidableEq, Repr

namespace Tally

/-- The requests that succeeded. -/
def operationsOk (t : Tally) : Nat := t.pushesOk + t.popsOk + t.peeksOk

/-- Counts a request with its result, if they belong together. -/
def count? (t : Tally) : Command → Result → Option Tally
  | .push, .pushed => some { t with pushesOk := t.pushesOk + 1 }
  | .pop, .value _ => some { t with popsOk := t.popsOk + 1 }
  | .peek, .value _ => some { t with peeksOk := t.peeksOk + 1 }
  | _, .overflow => some { t with overflows := t.overflows + 1 }
  | _, .underflow => some { t with underflows := t.underflows + 1 }
  | _, _ => none

end Tally

/-- What a replay reports. -/
structure Summary where
  tally : Tally
  /-- The values given since the history began. -/
  answers : List Value
  /-- The violations of the whole history. -/
  violations : List Violation

/-- A workload and the target it is replayed against. -/
structure Session (τ : Type) where
  workload : Workload
  target : τ

namespace Session

variable {τ α : Type}

/-- An action on the workload. -/
def onWorkload (x : Action WorkloadEvent Workload α) : Action WorkloadEvent (Session τ) α :=
  x.focus (·.workload) (fun s workload => { s with workload }) id

/-- An action on the target. -/
def onTarget (x : Action Event τ α) : Action WorkloadEvent (Session τ) α :=
  x.focus (·.target) (fun s target => { s with target }) .scheduler

/-- Records a request. -/
def invoke (r : Request Value) : Action WorkloadEvent (Session τ) Nat :=
  onWorkload <| .ofState fun w =>
    let (id, history) := w.history.invoke r
    ({ w with history }, id)

/-- Records how an operation ended. -/
def complete (id : Nat) (result : Result) (observed : Observation) :
    Action WorkloadEvent (Session τ) Unit :=
  onWorkload do
    let w ← get
    let history ← w.history.complete id result observed
    set { w with history }

variable [Target τ]

/-- Serves one request, records it, and counts it. -/
def replayOne (t : Tally) (r : Request Value) : Action WorkloadEvent (Session τ) Tally := do
  -- Recorded before it is served: a request that breaks off stays without a result.
  let id ← invoke r
  let (response, observed) ← onTarget (Target.executeObserved r)
  let result := Result.ofResponse response
  complete id result observed
  let t := { t with operationsTotal := t.operationsTotal + 1 }
  match t.count? r.command result with
  | some t => return t
  | none =>
    .emit (.unexpectedResult id r.command result)
    return t

/-- Serves requests one after the other. -/
def replayAll (t : Tally) : List (Request Value) → Action WorkloadEvent (Session τ) Tally
  | [] => return t
  | r :: rest => do
    let t ← replayOne t r
    replayAll t rest

/-- Replays requests and verifies the whole history. Rejections are recorded and never stop the
replay. -/
def replay (requests : List (Request Value)) : Action WorkloadEvent (Session τ) Summary := do
  let tally ← replayAll {} requests
  let w := (← get).workload
  let violations ← Verification.verify w.config.pifo w.history
  let answers := w.history.answers
  .emit (.complete w.config.seed tally.operationsTotal tally.operationsOk tally.overflows
    tally.underflows violations.length)
  return { tally, answers, violations }

/-- Generates a stream and replays it. -/
def run : Action WorkloadEvent (Session τ) Summary := do
  let requests ← onWorkload Workload.generate
  replay requests

end Session

end TwoFlow
