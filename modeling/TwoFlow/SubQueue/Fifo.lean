import TwoFlow.Queue
import TwoFlow.SubQueue

/-!
# The bounded first-in first-out queue

The stock sub-queue: a queue with a bound that is enforced on every push.

## Main definitions

* `Fifo`, `Fifo.empty`: the queue and the queue without values
* `Fifo.push`, `Fifo.pop`, `Fifo.peek`: its operations, and the `SubQueue` instance built from them
-/

namespace TwoFlow

/-- A first-in first-out queue of at most `capacity` values. -/
structure Fifo (V : Type) where
  /-- The values held. -/
  items : Queue V
  capacity : Nat

namespace Fifo

variable {V : Type}

/-- The queue without values. -/
def empty (capacity : Nat) : Fifo V := ⟨.empty, capacity⟩

/-- The number of values held. -/
def len (q : Fifo V) : Nat := q.items.length

/-- Does the queue hold no value? -/
def isEmpty (q : Fifo V) : Bool := q.items.isEmpty

/-- Appends a value; a full queue rejects it and stays as it is. -/
def push (q : Fifo V) (v : V) : Fifo V × Answer Unit :=
  if q.capacity ≤ q.len then (q, .error (.overflow q.len q.capacity))
  else ({ q with items := q.items.push v }, .ok ())

/-- Removes the oldest value. -/
def pop (q : Fifo V) : Fifo V × Answer V :=
  match q.items.head? with
  | none => (q, .error .underflow)
  | some v => ({ q with items := q.items.tail }, .ok v)

/-- Shows the oldest value. -/
def peek (q : Fifo V) : Answer V :=
  match q.items.head? with
  | none => .error .underflow
  | some v => .ok v

instance : SubQueue (Fifo V) V where
  push := push
  pop := pop
  peek q := (q, q.peek)
  len := len
  capacity := capacity

end Fifo

end TwoFlow
