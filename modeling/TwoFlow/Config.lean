import TwoFlow.Error

/-!
# Configurations

A scheduler is configured by the capacity of each flow and the boundary between the flows. The
capacity of the whole is twice that of a flow; it saturates at the largest machine word, and a
configuration is valid only if it does not have to.

## Main definitions

* `Config`, `Config.totalCapacity`, `Config.validate`

## Main results

* `Config.validate_eq_ok_iff`: the valid flow capacities
-/

namespace TwoFlow

/-- The configuration of a scheduler. -/
structure Config (V : Type) where
  /-- How many values each flow may hold. -/
  flowCapacity : Nat
  /-- The largest value of flow zero. -/
  boundary : V
  deriving DecidableEq, Repr

namespace Config

variable {V : Type}

/-- The capacity of both flows together, at most the largest machine word. -/
def totalCapacity (c : Config V) : Nat := min (c.flowCapacity * 2) (wordLimit - 1)

/-- Refuses a flow without room, and flows whose total capacity is no machine word. -/
def validate (c : Config V) : Except ConfigError Unit :=
  if c.flowCapacity = 0 then .error .zeroCapacity
  else if c.flowCapacity * 2 < wordLimit then .ok ()
  else .error (.totalOverflow c.flowCapacity)

/-- The classifier of a configuration. -/
def classifier (c : Config V) : Classifier V := ⟨c.boundary⟩

/-- The configuration spelled as a structured value. -/
def debug [ToString V] (c : Config V) : String :=
  let capacity := c.flowCapacity
  let boundary := c.boundary
  s!"PifoConfig \x7b flow_capacity: {capacity}, boundary: {boundary} \x7d"

theorem validate_eq_ok_iff (c : Config V) :
    c.validate = .ok () ↔ 0 < c.flowCapacity ∧ c.flowCapacity * 2 < wordLimit := by
  unfold validate
  split
  · simp_all
  · split <;> simp_all [Nat.pos_iff_ne_zero]

theorem totalCapacity_of_validate {c : Config V} (h : c.validate = .ok ()) :
    c.totalCapacity = c.flowCapacity * 2 := by
  have := (validate_eq_ok_iff c).1 h
  unfold totalCapacity
  omega

end Config

/-- The classifier spelled as a structured value. -/
def Classifier.debug {V : Type} [ToString V] (c : Classifier V) : String :=
  let boundary := c.boundary
  s!"FlowClassifier \x7b boundary: {boundary} \x7d"

end TwoFlow
