import TwoFlow.Queue
import TwoFlow.SubQueue

/-!
# Sub-queues that misbehave on purpose

A checker is only worth something if it notices a broken queue. `FaultyQueue` is a queue whose
three operations can each be set to a way of going wrong, whose reported length can be shifted, and
whose answers can be replaced by a fixed one. With every setting left alone it is a bounded
first-in first-out queue.

## Main definitions

* `PushMode`, `PopMode`, `PeekMode`: what the operations do
* `FaultyQueue`, and its `SubQueue` instance
-/

namespace TwoFlow

/-- What a push does once the limit has been checked. -/
inductive PushMode where
  /-- Store the value. -/
  | keep
  /-- Accept the value without storing it. -/
  | drop
  /-- Store the value twice. -/
  | dup
  /-- Store the value and answer an overflow. -/
  | keepRejecting
  /-- Answer an underflow without storing the value. -/
  | underflow
  deriving DecidableEq, Repr

/-- What a pop does. -/
inductive PopMode where
  /-- Remove and answer the oldest value. -/
  | front
  /-- Remove and answer the newest value. -/
  | back
  /-- Answer the oldest value without removing it. -/
  | stick
  /-- Answer an underflow. -/
  | fail
  /-- Answer an overflow, even when empty. -/
  | overflow
  /-- Remove the oldest value and answer an underflow. -/
  | lose
  deriving DecidableEq, Repr

/-- What a peek does. -/
inductive PeekMode where
  /-- Answer the oldest value. -/
  | front
  /-- Answer the newest value. -/
  | back
  /-- Answer an underflow. -/
  | fail
  /-- Answer an overflow, even when empty. -/
  | overflow
  /-- Answer the values in turn. -/
  | rotate
  /-- Remove and answer the oldest value. -/
  | consume
  deriving DecidableEq, Repr

/-- A queue with chosen faults. -/
structure FaultyQueue (V : Type) where
  /-- The capacity reported. -/
  capacity : Nat
  /-- The number of values from which on pushes are rejected. -/
  limit : Nat
  pushMode : PushMode := .keep
  popMode : PopMode := .front
  peekMode : PeekMode := .front
  /-- Replaces every value answered by a pop or a peek. -/
  answer : Option V := none
  /-- Added to the length reported by a queue that is not empty. -/
  lenBias : Int := 0
  /-- The values held. -/
  items : Queue V := .empty
  /-- The number of values shown in turn so far. -/
  turns : Nat := 0

namespace FaultyQueue

variable {V : Type}

/-- The overflow the queue answers in its present state. -/
def itsOverflow (q : FaultyQueue V) : QueueError := .overflow q.items.length q.limit

/-- A value as the queue answers it. -/
def answered (q : FaultyQueue V) (v : V) : Answer V := .ok (q.answer.getD v)

/-- Takes a value in, unless the limit is reached, in the way of the push mode. -/
def push (q : FaultyQueue V) (v : V) : FaultyQueue V × Answer Unit :=
  if q.limit ≤ q.items.length then (q, .error q.itsOverflow)
  else
    match q.pushMode with
    | .keep => ({ q with items := q.items.push v }, .ok ())
    | .drop => (q, .ok ())
    | .dup => ({ q with items := (q.items.push v).push v }, .ok ())
    | .keepRejecting =>
      let q := { q with items := q.items.push v }
      (q, .error q.itsOverflow)
    | .underflow => (q, .error .underflow)

/-- Hands a value out in the way of the pop mode. -/
def pop (q : FaultyQueue V) : FaultyQueue V × Answer V :=
  match q.popMode, q.items.head? with
  | .overflow, _ => (q, .error q.itsOverflow)
  | _, none => (q, .error .underflow)
  | .front, some v => ({ q with items := q.items.tail }, q.answered v)
  | .back, some v =>
    let values := q.items.toList
    ({ q with items := .ofList values.dropLast }, q.answered (values.getLastD v))
  | .stick, some v => (q, q.answered v)
  | .fail, some _ => (q, .error .underflow)
  | .lose, some _ => ({ q with items := q.items.tail }, .error .underflow)

/-- Shows a value in the way of the peek mode. -/
def peek (q : FaultyQueue V) : FaultyQueue V × Answer V :=
  match q.peekMode, q.items.head? with
  | .overflow, _ => (q, .error q.itsOverflow)
  | _, none => (q, .error .underflow)
  | .front, some v => (q, q.answered v)
  | .back, some v => (q, q.answered (q.items.toList.getLastD v))
  | .fail, some _ => (q, .error .underflow)
  | .rotate, some v =>
    ({ q with turns := q.turns + 1 },
      q.answered (q.items.toList.getD (q.turns % q.items.length) v))
  | .consume, some v => ({ q with items := q.items.tail }, q.answered v)

/-- The length reported: zero without values, else shifted by the bias and never negative. -/
def len (q : FaultyQueue V) : Nat :=
  if q.items.isEmpty then 0 else (q.items.length + q.lenBias).toNat

instance : SubQueue (FaultyQueue V) V where
  push := push
  pop := pop
  peek := peek
  len := len
  capacity := capacity

end FaultyQueue

end TwoFlow
