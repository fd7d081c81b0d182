import TwoFlow.Pifo.Basic
import TwoFlow.Property.State

/-!
# The property checker

The checker serves requests on a live scheduler one at a time. It records what each flow accepted,
looks at the scheduler before and after the request, peeks around it, and compares every answer and
every change with what the discipline allows. It never runs a model.

## Main definitions

* `Property.Checker`: the record of a checker
* `Property.Checker.assess`: what one response has wrong
* `Property.Inspection`, `Property.step`, `Property.run`: a checker and the scheduler it checks,
  and the requests served under its eyes
-/

namespace TwoFlow.Property

/-- The record of a checker. -/
structure Checker where
  classifier : Classifier Value
  /-- The capacity of each flow that the checker holds the scheduler to. -/
  flowCapacity : Nat
  /-- The values each flow accepted and has not handed out. -/
  accepted : PerFlow (Queue Value) := .both .empty
  /-- The number of steps begun. -/
  steps : Nat := 0
  /-- The violations found, in order. -/
  violations : List Violation := []

/-- What is known of a request that has been served. -/
structure Exchange where
  /-- The number of the step. -/
  step : Nat
  request : Request Value
  /-- What a peek gave before the request. -/
  predicted : Answer Value
  response : Response Value
  /-- The state before the request. -/
  before : Observation
  /-- The state after the request. -/
  after : Observation

namespace Checker

/-- The checker of a configuration, without a record. -/
def ofConfig (config : Config Value) : Checker :=
  { classifier := config.classifier, flowCapacity := config.flowCapacity }

/-- Has no violation been found? -/
def isValid (c : Checker) : Bool := c.violations.isEmpty

/-- The number of values accepted and not handed out. -/
def expectedLen (c : Checker) : Nat := c.accepted.zero.length + c.accepted.one.length

/-- Clears the record. -/
def reset (c : Checker) : Checker :=
  { c with accepted := .both .empty, steps := 0, violations := [] }

/-- Begins a step and gives its number. -/
def beginStep : Action Event Checker Nat := do
  let c ← get
  let steps ← checkedAdd c.steps 1
  set { c with steps }
  return c.steps

/-! ## The record -/

/-- Records a value as accepted. -/
def accept (c : Checker) (v : Value) : Checker :=
  let flow := c.classifier.classify v
  { c with accepted := c.accepted.set flow ((c.accepted.get flow).push v) }

/-- Takes the oldest equal value off the record, so that one fault is reported once. -/
def release (c : Checker) (v : Value) : Checker :=
  let flow := c.classifier.classify v
  { c with accepted := c.accepted.set flow ((c.accepted.get flow).erase v) }

/-- Is the value the oldest one accepted by its flow? -/
def checkOldest (c : Checker) (step : Nat) (v : Value) : List Violation :=
  let flow := c.classifier.classify v
  let oldest := (c.accepted.get flow).head?
  if oldest = some v then [] else [.fifoOrder step flow oldest v]

/-! ## The parts of an assessment -/

/-- A request that must not change the state. -/
def checkUnchanged (x : Exchange) : List Violation :=
  if x.after = x.before then [] else [.stateChangedOnError x.step x.request.command]

/-- Did an accepted push lengthen the scheduler and the flow by one? The flow is looked at only
if the scheduler was lengthened. -/
def lengthened (x : Exchange) (flow : Flow) : Except Fault Bool := do
  let len ← checkedAdd x.before.len 1
  -- The second sum is taken, and may fault, only where the first comparison holds.
  if x.after.len = len then
    let flowLen ← checkedAdd (x.before.flowLen flow) 1
    return x.after.flowLen flow = flowLen
  else return false

/-- An accepted push: the value goes on record, the lengths grow by one, the turn stays. -/
def assessPush (x : Exchange) (v : Value) : Action Event Checker (List Violation) := do
  let c ← get
  set (c.accept v)
  let grown ← lengthened x (c.classifier.classify v)
  return (if grown then [] else [.lengthNotUpdated x.step .push x.before.len x.after.len]) ++
    (if x.after.hot = x.before.hot then []
      else [.unexpectedHotChange x.step .push x.before.hot x.after.hot])

/-- A rejected push: the scheduler or the flow was full, and nothing changed. -/
def assessRejectedPush (c : Checker) (x : Exchange) (v : Value) (e : QueueError) :
    List Violation :=
  let flowLen := x.before.flowLen (c.classifier.classify v)
  let full := decide (c.flowCapacity * 2 ≤ x.before.len) || decide (c.flowCapacity ≤ flowLen)
  (if full && e.isOverflow then [] else [.spuriousOverflow x.step x.before.len flowLen]) ++
    checkUnchanged x

/-- The turn after a pop: a pop served by the hot flow hands it over, any other one keeps it and
needs the hot flow to be empty. -/
def checkTurn (x : Exchange) (served : Flow) : List Violation :=
  if served = x.before.hot then
    if x.after.hot = x.before.hot.other then [] else [.hotNotFlipped x.step x.before.hot]
  else
    (if x.before.flowLen x.before.hot = 0 then []
      else [.wrongFlowServed x.step x.before.hot served]) ++
    (if x.after.hot = x.before.hot then []
      else [.unexpectedHotChange x.step .pop x.before.hot x.after.hot])

/-- A pop that gave a value: the one a peek had shown, the oldest of its flow; the length falls by
one and the turn moves as it must. -/
def assessPop (x : Exchange) (v : Value) : Action Event Checker (List Violation) := do
  let c ← get
  -- The record is put right first; what is checked is the record as it was.
  set (c.release v)
  return (if x.predicted = .ok v then [] else [.peekMismatch x.step x.predicted v]) ++
    c.checkOldest x.step v ++
    (if 0 < x.before.len ∧ x.after.len = x.before.len - 1 then []
      else [.lengthNotUpdated x.step .pop x.before.len x.after.len]) ++
    checkTurn x (c.classifier.classify v)

/-- A rejected pop or peek: there was no value, and nothing changed. -/
def assessEmpty (x : Exchange) (e : QueueError) : List Violation :=
  (if x.before.len = 0 ∧ e.isUnderflow then []
    else [.spuriousUnderflow x.step x.request.command x.before.len]) ++ checkUnchanged x

/-- What a response has wrong. -/
def assess (x : Exchange) : Action Event Checker (List Violation) := do
  let c ← get
  match x.request, x.response with
  | .push v, .ok none => assessPush x v
  | .push v, .error e => return c.assessRejectedPush x v e
  | .pop, .ok (some v) => assessPop x v
  | .peek, .ok (some v) => return c.checkOldest x.step v ++ checkUnchanged x
  | .pop, .error e => return assessEmpty x e
  | .peek, .error e => return assessEmpty x e
  | request, .ok _ => return [.malformedResponse x.step request.command]

/-- Records violations. -/
def report (c : Checker) (found : List Violation) : Checker :=
  { c with violations := c.violations ++ found }

end Checker

/-! ## Serving requests under inspection -/

/-- A checker and the scheduler it checks. -/
structure Inspection (Q₀ Q₁ : Type) where
  checker : Checker
  pifo : Pifo Value Q₀ Q₁

variable {Q₀ Q₁ α : Type} [SubQueue Q₀ Value] [SubQueue Q₁ Value]

/-- An action on the scheduler. -/
def onPifo (x : Action Event (Pifo Value Q₀ Q₁) α) : Action Event (Inspection Q₀ Q₁) α :=
  x.focus (·.pifo) (fun s pifo => { s with pifo }) id

/-- An action on the checker. -/
def onChecker (x : Action Event Checker α) : Action Event (Inspection Q₀ Q₁) α :=
  x.focus (·.checker) (fun s checker => { s with checker }) id

/-- The scheduler seen from outside. -/
def look : Action Event (Inspection Q₀ Q₁) Observation :=
  return (← get).pifo.observe

/-- Two peeks in a row agree and leave the state `after` alone. -/
def checkPeeks (step : Nat) (after : Observation) :
    Action Event (Inspection Q₀ Q₁) (List Violation) := do
  let first ← onPifo Pifo.peek
  let second ← onPifo Pifo.peek
  let final ← look
  return if first = second ∧ final = after then [] else [.peekNotIdempotent step first second]

/-- Serves a request and checks everything around it. -/
def step (request : Request Value) : Action Event (Inspection Q₀ Q₁) (Response Value) := do
  let step ← onChecker Checker.beginStep
  let before ← look
  -- A peek that changes the state is seen as a change made by the request.
  let predicted ← onPifo Pifo.peek
  let response ← onPifo (Pifo.handle request)
  let after ← look
  let state ← checkState step after (← get).checker.flowCapacity
  let found ← onChecker (Checker.assess { step, request, predicted, response, before, after })
  let peeks ← checkPeeks step after
  onChecker (modify (·.report (state ++ found ++ peeks)))
  return response

/-- Serves requests one after the other. -/
def run : List (Request Value) → Action Event (Inspection Q₀ Q₁) Unit
  | [] => return ()
  | r :: rest => do
    let _ ← step r
    run rest

end TwoFlow.Property
