import TwoFlow.Operation

/-!
# Histories

A history holds all operations in the order in which they were invoked; they are numbered from
zero. Operations may be completed in any order and more than once, and the latest completion
counts. Completing an operation that was never invoked is a fault and changes nothing.

The operations are kept newest first, so that recording one and completing the newest one take the
same time however long the history is.

Histories hold any number of operations here, and queues any number of values: that a store in
memory cannot grow any further is not modelled, and recording an operation or pushing a value never
faults. A result that promises a return for as many operations as a store may have to hold says so
by `History.limit`. What is checked is the length of a generated stream, for which memory is asked
all at once, before anything is drawn.

## Main definitions

* `History`, `History.operations`, `History.invoke`, `History.complete`
* `History.limit`: the number of operations for which a store has room
* `History.answers`, `History.answerTrace`: the values given, without and with a zero for the
  operations that gave none
* `History.stats`
-/

namespace TwoFlow

/-- The operations of a run. -/
structure History where
  /-- The operations, the newest first. -/
  newestFirst : List Operation := []
  deriving DecidableEq, Repr

/-- Counts over a history. -/
structure HistoryStats where
  totalOps : Nat := 0
  /-- Operations that succeeded. -/
  successfulOps : Nat := 0
  /-- Operations rejected by a full queue. -/
  overflows : Nat := 0
  /-- Operations rejected by an empty queue. -/
  underflows : Nat := 0
  /-- Operations without a result. -/
  pendingOps : Nat := 0
  pushCount : Nat := 0
  popCount : Nat := 0
  peekCount : Nat := 0
  deriving DecidableEq, Repr

namespace HistoryStats

/-- Counts the command of an operation. -/
def countCommand (s : HistoryStats) : Command → HistoryStats
  | .push => { s with pushCount := s.pushCount + 1 }
  | .pop => { s with popCount := s.popCount + 1 }
  | .peek => { s with peekCount := s.peekCount + 1 }

/-- Counts the result of an operation. -/
def countResult (s : HistoryStats) : Option Result → HistoryStats
  | some .pushed | some (.value _) => { s with successfulOps := s.successfulOps + 1 }
  | some .overflow => { s with overflows := s.overflows + 1 }
  | some .underflow => { s with underflows := s.underflows + 1 }
  | none => { s with pendingOps := s.pendingOps + 1 }

/-- Counts an operation. -/
def countOperation (s : HistoryStats) (op : Operation) : HistoryStats :=
  let s := { s with totalOps := s.totalOps + 1 }
  (s.countCommand op.command).countResult op.result?

end HistoryStats

namespace History

/-- A store of operations has at most this many. It doubles when it is full, an operation takes 56
bytes, and a store takes less than 2^63 bytes in all. -/
def limit : Nat := Nat.pow 2 57

/-- The history without operations. -/
def empty : History := {}

/-- The operations in the order of their invocation. -/
def operations (h : History) : List Operation := h.newestFirst.reverse

/-- The number of operations. -/
def len (h : History) : Nat := h.newestFirst.length

/-- Does the history hold no operation? -/
def isEmpty (h : History) : Bool := h.newestFirst.isEmpty

/-- The operation with a given number. -/
def get? (h : History) (id : Nat) : Option Operation := h.newestFirst.find? (·.id = id)

/-- The number of the next operation. -/
def nextId (h : History) : Nat :=
  match h.newestFirst with
  | [] => 0
  | op :: _ => op.id + 1

/-- Records a request and gives the number of its operation. -/
def invoke (h : History) (request : Request Value) : Nat × History :=
  (h.nextId, ⟨{ id := h.nextId, request } :: h.newestFirst⟩)

/-- Completes the newest operation with a given number. -/
def completeIn (id : Nat) (completion : Completion) : List Operation → Except Fault (List Operation)
  | [] => .error .invalidOperation
  | op :: older =>
    -- The newest first: completing an operation right after its invocation stops here.
    if op.id = id then .ok ({ op with completion := some completion } :: older)
    else (completeIn id completion older).map (op :: ·)

/-- Records how an operation ended. -/
def complete (h : History) (id : Nat) (result : Result) (observed : Observation) :
    Except Fault History :=
  (completeIn id ⟨result, observed⟩ h.newestFirst).map History.mk

/-- The values given by pops and peeks, in order. -/
def answers (h : History) : List Value :=
  h.operations.filterMap fun op => op.result?.bind Result.value?

/-- The value given by each operation, zero where there is none. -/
def answerTrace (h : History) : List Value :=
  h.operations.map fun op => op.result?.elim 0 Result.answer

/-- Counts over the history. -/
def stats (h : History) : HistoryStats :=
  h.operations.foldl HistoryStats.countOperation {}

end History

end TwoFlow
