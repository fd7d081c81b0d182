import TwoFlow.Action
import TwoFlow.Config
import TwoFlow.Observation
import TwoFlow.Pifo.Event
import TwoFlow.Pifo.Stats
import TwoFlow.Request
import TwoFlow.SubQueue.Fifo

/-!
# The two-flow scheduler

A scheduler puts two flows behind one queue and serves them by turns. Its `hot` flow is the one
preferred by the next pop. A pop served by the hot flow hands the turn to the other flow. If the
hot flow fails, the other one is asked once and the turn stays where it was, so that a silent flow
is served first as soon as it has a value again.

The scheduler counts its values itself. A push at the capacity and a pop or peek at length zero are
answered from the counter alone; any other request goes to a sub-queue, whose rejection is passed
on as it is.

## Main definitions

* `Pifo`, `Pifo.build`, `Pifo.withFifos`: the scheduler, over given sub-queues and over the stock
  ones
* `Pifo.push`, `Pifo.pop`, `Pifo.peek`, `Pifo.handle`: the requests
* `Pifo.serve`: a list of requests
* `Pifo.observe`: the scheduler seen from outside
-/

namespace TwoFlow

/-- A scheduler of two flows over sub-queues `Q₀` and `Q₁`. -/
structure Pifo (V Q₀ Q₁ : Type) where
  /-- The sub-queue of flow zero. -/
  queue0 : Q₀
  /-- The sub-queue of flow one. -/
  queue1 : Q₁
  classifier : Classifier V
  /-- The flow preferred by the next pop. -/
  hot : Flow := .zero
  /-- The number of values, as the scheduler counts them. -/
  len : Nat := 0
  /-- The number of values at which every push is rejected. -/
  capacity : Nat
  stats : Stats := {}

namespace Pifo

variable {V Q₀ Q₁ : Type}

/-- The scheduler as a structured value; the sub-queues and the statistics are left out. -/
def shown [ToString V] (p : Pifo V Q₀ Q₁) : Text.Tree :=
  let boundary := p.classifier.boundary
  .record "Pifo"
    (.ofList
      [("boundary", .closed "FlowClassifier" [("boundary", .atom (toString boundary))]),
       ("hot", .atom p.hot.debug), ("len", .nat p.len), ("capacity", .nat p.capacity)])
    true

/-! ## Counting -/

/-- Raises a counter. -/
def count (c : Counter) : Action Event (Pifo V Q₀ Q₁) Unit := do
  let p ← get
  let stats ← p.stats.raise c
  set { p with stats }

/-- Counts a value in. -/
def grow : Action Event (Pifo V Q₀ Q₁) Unit := do
  let p ← get
  if p.len < p.capacity then
    let len ← checkedAdd p.len 1
    set { p with len }
  else .fault .lengthAboveCapacity

/-- Counts a value out. -/
def shrink : Action Event (Pifo V Q₀ Q₁) Unit := do
  let p ← get
  if 0 < p.len then set { p with len := p.len - 1 } else .fault .lengthBelowZero

/-- Hands the turn to the other flow. -/
def flip : Action Event (Pifo V Q₀ Q₁) Unit :=
  modify fun p => { p with hot := p.hot.other }

/-- Counts a value out that a flow handed out. -/
def deliver (flow : Flow) (v : V) : Action Event (Pifo V Q₀ Q₁) (Answer V) := do
  shrink
  count (.served flow)
  let p ← get
  .emit (.popped flow p.hot p.len)
  return .ok v

/-! ## Building -/

/-- Refuses a sub-queue of another capacity, and one that reports values. -/
def checkQueue (config : Config V) (flow : Flow) (capacity len : Nat) : Except ConfigError Unit :=
  if capacity ≠ config.flowCapacity then
    .error (.capacityMismatch flow capacity config.flowCapacity)
  else if len ≠ 0 then .error (.notEmpty flow len)
  else .ok ()

variable [SubQueue Q₀ V] [SubQueue Q₁ V]

/-- A scheduler over two sub-queues that report the configured capacity and no values. -/
def build (config : Config V) (queue0 : Q₀) (queue1 : Q₁) : Except ConfigError (Pifo V Q₀ Q₁) := do
  config.validate
  checkQueue config .zero (SubQueue.capacity queue0) (SubQueue.len queue0)
  checkQueue config .one (SubQueue.capacity queue1) (SubQueue.len queue1)
  return { queue0, queue1, classifier := config.classifier, capacity := config.totalCapacity }

/-- A scheduler over two empty first-in first-out queues. -/
def withFifos (config : Config V) : Except ConfigError (Pifo V (Fifo V) (Fifo V)) :=
  build config (Fifo.empty config.flowCapacity) (Fifo.empty config.flowCapacity)

/-! ## What can be seen -/

/-- The length that the sub-queue of a flow reports. -/
def flowLen (p : Pifo V Q₀ Q₁) : Flow → Nat
  | .zero => SubQueue.len p.queue0
  | .one => SubQueue.len p.queue1

/-- The scheduler seen from outside. -/
def observe (p : Pifo V Q₀ Q₁) : Observation :=
  ⟨p.hot, p.len, p.flowLen .zero, p.flowLen .one⟩

/-! ## Asking the sub-queues -/

/-- Asks the sub-queue of a flow to take a value in. -/
def subPush (flow : Flow) (v : V) : Action Event (Pifo V Q₀ Q₁) (Answer Unit) :=
  .ofState fun p =>
    match flow with
    | .zero => let (q, a) := SubQueue.push p.queue0 v; ({ p with queue0 := q }, a)
    | .one => let (q, a) := SubQueue.push p.queue1 v; ({ p with queue1 := q }, a)

/-- Asks the sub-queue of a flow for a value. -/
def subPop (flow : Flow) : Action Event (Pifo V Q₀ Q₁) (Answer V) :=
  .ofState fun p =>
    match flow with
    | .zero => let (q, a) := SubQueue.pop p.queue0; ({ p with queue0 := q }, a)
    | .one => let (q, a) := SubQueue.pop p.queue1; ({ p with queue1 := q }, a)

/-- Asks the sub-queue of a flow to show a value. -/
def subPeek (flow : Flow) : Action Event (Pifo V Q₀ Q₁) (Answer V) :=
  .ofState fun p =>
    match flow with
    | .zero => let (q, a) := SubQueue.peek p.queue0; ({ p with queue0 := q }, a)
    | .one => let (q, a) := SubQueue.peek p.queue1; ({ p with queue1 := q }, a)

/-! ## The requests -/

section Push

variable [LE V] [DecidableLE V]

/-- Takes a value into the sub-queue of its flow. -/
def push (v : V) : Action Event (Pifo V Q₀ Q₁) (Answer Unit) := do
  let p ← get
  -- At the capacity the counter answers, and no sub-queue is asked.
  if p.capacity ≤ p.len then
    count .pushesRejectedFull
    .emit (.pushRejectedFull p.len)
    return .error (.overflow p.len p.capacity)
  else
    let flow := p.classifier.classify v
    match ← subPush flow v with
    | .error e =>
      count .pushesRejectedFlow
      .emit (.pushRejectedByFlow flow e)
      return .error e
    | .ok () =>
      grow
      count .pushesAccepted
      let p ← get
      .emit (.pushed flow p.len)
      return .ok ()

end Push

/-- Hands the next value out, of the hot flow if it has one. -/
def pop : Action Event (Pifo V Q₀ Q₁) (Answer V) := do
  let p ← get
  if p.len = 0 then
    count .popUnderflows
    .emit .popRejectedEmpty
    return .error .underflow
  else
    match ← subPop p.hot with
    | .ok v =>
      -- The turn has passed on even if a counter then faults.
      flip
      count .popsPrimary
      deliver p.hot v
    | .error _ =>
      -- Why the hot flow failed is not passed on; only the other flow's answer counts.
      .emit (.fallingBack p.hot p.hot.other)
      match ← subPop p.hot.other with
      | .ok v =>
        count .popsFallback
        deliver p.hot.other v
      | .error e =>
        -- The counter and the sub-queues disagree, and the counter is left as it is.
        count .popUnderflows
        .emit (.bothFailed p.len e)
        return .error e

/-- Shows the next value, of the hot flow if it has one. -/
def peek : Action Event (Pifo V Q₀ Q₁) (Answer V) := do
  let p ← get
  if p.len = 0 then return .error .underflow
  else
    match ← subPeek p.hot with
    | .ok v => return .ok v
    | .error _ => subPeek p.hot.other

section Handle

variable [LE V] [DecidableLE V]

/-- Serves a request. -/
def handle : Request V → Action Event (Pifo V Q₀ Q₁) (Response V)
  | .pop => return (← pop).map some
  | .peek => return (← peek).map some
  | .push v => return (← push v).map fun _ => none

/-- Serves requests one after the other. -/
def serve : List (Request V) → Action Event (Pifo V Q₀ Q₁) (List (Response V))
  | [] => return []
  | r :: rest => do
    let response ← handle r
    return response :: (← serve rest)

end Handle

end Pifo

end TwoFlow
