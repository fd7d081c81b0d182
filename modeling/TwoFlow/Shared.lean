import TwoFlow.Pifo.Basic

/-!
# A scheduler shared by several clients

Clients hold handles of one scheduler behind a lock. Each request is served under the lock, as one
indivisible step, and a client may also do several things under one lock. A client that breaks off
with a fault leaves the lock poisoned; the next client takes it all the same, since a fault leaves a
scheduler that can go on.

## Main definitions

* `Shared`, `Shared.exclusively`: the lock and what is done under it
* `Shared.push`, `Shared.pop`, `Shared.peek`, `Shared.handle`
-/

namespace TwoFlow

/-- A scheduler behind a lock; all handles mean this one value. -/
structure Shared (V Q₀ Q₁ : Type) where
  pifo : Pifo V Q₀ Q₁
  /-- Has a client broken off under the lock? -/
  poisoned : Bool := false

namespace Shared

variable {V Q₀ Q₁ α : Type}

/-- Runs an action under the lock. A poisoned lock is taken like any other. -/
def exclusively (x : Action Event (Pifo V Q₀ Q₁) α) : Action Event (Shared V Q₀ Q₁) α := fun s =>
  let t := x.run s.pifo
  ⟨⟨t.state, s.poisoned || !t.outcome.isOk⟩, t.events, t.outcome⟩

variable [SubQueue Q₀ V] [SubQueue Q₁ V]

/-- Hands the next value out. -/
def pop : Action Event (Shared V Q₀ Q₁) (Answer V) := exclusively Pifo.pop

/-- Shows the next value. -/
def peek : Action Event (Shared V Q₀ Q₁) (Answer V) := exclusively Pifo.peek

variable [LE V] [DecidableLE V]

/-- Takes a value in. -/
def push (v : V) : Action Event (Shared V Q₀ Q₁) (Answer Unit) := exclusively (Pifo.push v)

/-- Serves a request. -/
def handle (r : Request V) : Action Event (Shared V Q₀ Q₁) (Response V) :=
  exclusively (Pifo.handle r)

end Shared

end TwoFlow
