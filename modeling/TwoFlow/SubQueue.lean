import TwoFlow.Error

/-!
# Sub-queues

A scheduler keeps the values of each flow in a sub-queue and talks to it through five operations.
Nothing is assumed of an implementation: it may lose, repeat or reorder values, refuse them, and
even change its state on a peek. So every operation but the two sizes returns the state it leaves.

## Main definitions

* `SubQueue`: the operations of a sub-queue with values `V`
-/

namespace TwoFlow

/-- The answer of a queue: a value or a rejection. -/
abbrev Answer (α : Type) := Except QueueError α

/-- Answers over comparable values are comparable. -/
instance {α : Type} [DecidableEq α] : DecidableEq (Answer α)
  | .ok a, .ok b => decidable_of_iff (a = b) ⟨congrArg _, Except.ok.inj⟩
  | .error d, .error e => decidable_of_iff (d = e) ⟨congrArg _, Except.error.inj⟩
  | .ok _, .error _ => isFalse nofun
  | .error _, .ok _ => isFalse nofun

/-- A queue that a scheduler can keep a flow in. -/
class SubQueue (Q : Type) (V : outParam Type) where
  /-- Takes a value in. -/
  push : Q → V → Q × Answer Unit
  /-- Hands a value out. -/
  pop : Q → Q × Answer V
  /-- Shows a value. -/
  peek : Q → Q × Answer V
  /-- The number of values reported. -/
  len : Q → Nat
  /-- The number of values the queue was built for. -/
  capacity : Q → Nat

/-- A queue of either of two kinds. -/
instance {Q R V : Type} [SubQueue Q V] [SubQueue R V] : SubQueue (Q ⊕ R) V where
  push
    | .inl q, v => let (q, a) := SubQueue.push q v; (.inl q, a)
    | .inr r, v => let (r, a) := SubQueue.push r v; (.inr r, a)
  pop
    | .inl q => let (q, a) := SubQueue.pop q; (.inl q, a)
    | .inr r => let (r, a) := SubQueue.pop r; (.inr r, a)
  peek
    | .inl q => let (q, a) := SubQueue.peek q; (.inl q, a)
    | .inr r => let (r, a) := SubQueue.peek r; (.inr r, a)
  len
    | .inl q => SubQueue.len q
    | .inr r => SubQueue.len r
  capacity
    | .inl q => SubQueue.capacity q
    | .inr r => SubQueue.capacity r

end TwoFlow
