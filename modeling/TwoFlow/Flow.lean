/-!
# Flows and their classifier

Traffic is split into two flows. A value belongs to flow zero exactly when it does not exceed
the classifier's boundary, so the flow of a value is a function of the value alone.

## Main definitions

* `Flow`, `Flow.other`: the two flows and the sibling of a flow
* `PerFlow`: one item for each flow
* `Classifier.classify`: the flow of a value
-/

namespace TwoFlow

/-- One of the two flows. -/
inductive Flow where
  | zero
  | one
  deriving DecidableEq, Repr

namespace Flow

/-- The sibling of a flow. -/
def other : Flow → Flow
  | zero => one
  | one => zero

/-- The number of a flow. -/
def index : Flow → Nat
  | zero => 0
  | one => 1

/-- The flow with a given number, if there is one. -/
def ofIndex? : Nat → Option Flow
  | 0 => some zero
  | 1 => some one
  | _ => none

/-- Both flows, in the order of their numbers. -/
def all : List Flow := [zero, one]

/-- Flows are ordered by their numbers. -/
instance : LT Flow := ⟨fun a b => a.index < b.index⟩

instance (a b : Flow) : Decidable (a < b) := inferInstanceAs (Decidable (a.index < b.index))

/-- The name of a flow in messages. -/
def name : Flow → String
  | zero => "flow0"
  | one => "flow1"

/-- The spelling of a flow inside a structured value. -/
def debug : Flow → String
  | zero => "Zero"
  | one => "One"

instance : ToString Flow := ⟨name⟩

@[simp] theorem other_other (f : Flow) : f.other.other = f := by cases f <;> rfl

@[simp] theorem other_ne (f : Flow) : f.other ≠ f := by cases f <;> decide

theorem eq_other_of_ne {f g : Flow} (h : g ≠ f) : g = f.other := by
  cases f <;> cases g <;> first | rfl | exact absurd rfl h

@[simp] theorem ofIndex?_index (f : Flow) : ofIndex? f.index = some f := by cases f <;> rfl

end Flow

/-- One item for each flow. -/
structure PerFlow (α : Type) where
  zero : α
  one : α
  deriving DecidableEq, Repr

namespace PerFlow

variable {α β : Type}

/-- The same item for both flows. -/
def both (a : α) : PerFlow α := ⟨a, a⟩

/-- The item of a flow. -/
def get (p : PerFlow α) : Flow → α
  | .zero => p.zero
  | .one => p.one

/-- Replaces the item of a flow. -/
def set (p : PerFlow α) (f : Flow) (a : α) : PerFlow α :=
  match f with
  | .zero => { p with zero := a }
  | .one => { p with one := a }

/-- Applies a function to each item. -/
def map (g : α → β) (p : PerFlow α) : PerFlow β := ⟨g p.zero, g p.one⟩

@[simp] theorem get_both (a : α) (f : Flow) : (both a).get f = a := by cases f <;> rfl

@[simp] theorem get_set_self (p : PerFlow α) (f : Flow) (a : α) : (p.set f a).get f = a := by
  cases f <;> rfl

theorem get_set_of_ne (p : PerFlow α) {f g : Flow} (a : α) (h : g ≠ f) :
    (p.set f a).get g = p.get g := by
  cases f <;> cases g <;> first | rfl | exact absurd rfl h

@[simp] theorem set_get_self (p : PerFlow α) (f : Flow) : p.set f (p.get f) = p := by
  cases f <;> rfl

@[simp] theorem get_map (g : α → β) (p : PerFlow α) (f : Flow) : (p.map g).get f = g (p.get f) := by
  cases f <;> rfl

theorem map_set (g : α → β) (p : PerFlow α) (f : Flow) (a : α) :
    (p.set f a).map g = (p.map g).set f (g a) := by
  cases f <;> rfl

end PerFlow

/-- Splits values at a boundary. -/
structure Classifier (V : Type) where
  /-- The largest value of flow zero. -/
  boundary : V
  deriving DecidableEq, Repr

namespace Classifier

variable {V : Type} [LE V] [DecidableLE V]

/-- The flow of a value: flow zero up to and including the boundary, flow one above it. -/
def classify (c : Classifier V) (v : V) : Flow :=
  if v ≤ c.boundary then .zero else .one

theorem classify_eq_zero_iff (c : Classifier V) (v : V) :
    c.classify v = .zero ↔ v ≤ c.boundary := by
  simp [classify]

end Classifier

end TwoFlow
