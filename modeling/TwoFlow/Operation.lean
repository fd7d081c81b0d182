import TwoFlow.Observation
import TwoFlow.Request

/-!
# Recorded operations

A history records requests over 32-bit values. An operation is a request with its number and, once
it has been served, its result and the state observed right after it.

## Main definitions

* `Value`: the values of recorded requests
* `Result`, `Result.ofResponse`: how a request ended
* `Operation`, `Completion`: a request of a history, and how it ended
-/

namespace TwoFlow

/-- The values of recorded requests. -/
abbrev Value := UInt32

/-- How a request ended. -/
inductive Result where
  /-- A push was accepted. -/
  | pushed
  /-- A pop or peek gave a value. -/
  | value (v : Value)
  /-- The request was rejected by a full queue. -/
  | overflow
  /-- The request was rejected by an empty queue. -/
  | underflow
  deriving DecidableEq, Repr

namespace Result

/-- The result of a response; the figures of an overflow are left out. -/
def ofResponse : Response Value → Result
  | .ok none => pushed
  | .ok (some v) => value v
  | .error (.overflow _ _) => overflow
  | .error .underflow => underflow

/-- Did the request succeed? -/
def isOk : Result → Bool
  | pushed | value _ => true
  | overflow | underflow => false

/-- The value given, if there is one. -/
def value? : Result → Option Value
  | value v => some v
  | _ => none

/-- The value given, or zero. -/
def answer (r : Result) : Value := r.value?.getD 0

/-- The text of a result in messages. -/
def text : Result → String
  | pushed => "pushed"
  | value v => s!"value({v})"
  | overflow => "overflow"
  | underflow => "underflow"

/-- The result spelled as a structured value. -/
def debug : Result → String
  | pushed => "Pushed"
  | value v => s!"Value({v})"
  | overflow => "Overflow"
  | underflow => "Underflow"

end Result

/-- How an operation ended: its result and the state right after it. -/
structure Completion where
  result : Result
  observed : Observation
  deriving DecidableEq, Repr

/-- A request of a history. -/
structure Operation where
  /-- The number of the operation in its history. -/
  id : Nat
  request : Request Value
  /-- Missing as long as the request has not been served. -/
  completion : Option Completion := none
  deriving DecidableEq, Repr

namespace Operation

/-- The command of the request. -/
def command (op : Operation) : Command := op.request.command

/-- The result, if the request has been served. -/
def result? (op : Operation) : Option Result := op.completion.map (·.result)

/-- The state observed, if the request has been served. -/
def observed? (op : Operation) : Option Observation := op.completion.map (·.observed)

/-- Did the request succeed? -/
def isOk (op : Operation) : Bool := op.result?.any Result.isOk

end Operation

end TwoFlow
