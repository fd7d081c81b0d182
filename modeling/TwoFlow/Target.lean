import TwoFlow.Operation
import TwoFlow.Shared

/-!
# Targets of a workload

A workload can be replayed against anything that serves requests over 32-bit values and can be
observed: a scheduler, a shared scheduler, or a script of prepared answers.

## Main definitions

* `Target`, `Target.executeObserved`: serve a request, and observe the state right after it
* `Script`: prepared answers
-/

namespace TwoFlow

/-- Something that serves the requests of a workload. -/
class Target (τ : Type) where
  /-- Serves a request. -/
  execute : Request Value → Action Event τ (Response Value)
  /-- The target seen from outside. -/
  observe : τ → Observation
  /-- Serves a request and observes the state it leaves, as one step. -/
  executeObserved : Request Value → Action Event τ (Response Value × Observation) := fun r => do
    let response ← execute r
    return (response, observe (← get))

variable {Q₀ Q₁ : Type} [SubQueue Q₀ Value] [SubQueue Q₁ Value]

instance : Target (Pifo Value Q₀ Q₁) where
  execute := Pifo.handle
  observe := Pifo.observe

/-- Request and observation are taken under one lock. -/
instance : Target (Shared Value Q₀ Q₁) where
  execute := Shared.handle
  observe s := s.pifo.observe
  executeObserved r := Shared.exclusively do
    let response ← Pifo.handle r
    return (response, (← get).observe)

/-- Prepared answers, each with the state shown after it. -/
structure Script where
  entries : List (Response Value × Observation)
  /-- The state shown. -/
  shown : Observation := ⟨.zero, 0, 0, 0⟩

/-- A script answers its entries in turn, whatever is asked. Past its end it answers an underflow
and shows the last state. -/
instance : Target Script where
  execute _ := .ofState fun s =>
    match s.entries with
    | [] => (s, .error .underflow)
    | (response, shown) :: entries => ({ entries, shown }, response)
  observe s := s.shown

end TwoFlow
