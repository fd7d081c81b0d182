import TwoFlow.Proofs.Transition

/-!
# Sub-queues that keep their contract

A lawful sub-queue is a list of values in disguise: a push appends below the capacity and is
refused at it, a pop takes the oldest value off, a peek shows it, and a refusal changes nothing. The
state behind the list is free, and a peek may change it. The stock queue is lawful.

A scheduler over lawful sub-queues is asked through the same three actions as any other; here is
what they do to the lists, for either flow in the same words.

## Main definitions

* `SubQueue.Lawful`: the contract
* `Pifo.items`, `Pifo.capacities`: the values of each flow, and the capacity of each sub-queue

## Main results

* `Pifo.items_of_subPush`, `Pifo.items_of_subPop`, `Pifo.items_of_subPeek`: what asking a lawful
  sub-queue does
-/

namespace TwoFlow

/-- The answer that shows the oldest of some values. -/
def Answer.ofHead {V : Type} (l : List V) : Answer V := l.head?.elim (.error .underflow) .ok

@[simp] theorem Answer.ofHead_nil {V : Type} : ofHead ([] : List V) = .error .underflow := rfl

@[simp] theorem Answer.ofHead_cons {V : Type} (v : V) (l : List V) : ofHead (v :: l) = .ok v := rfl

theorem Answer.ofHead_eq_ok_iff {V : Type} {l : List V} {v : V} :
    ofHead l = .ok v ↔ ∃ rest, l = v :: rest := by
  cases l <;> simp [eq_comm]

theorem Answer.ofHead_eq_error_iff {V : Type} {l : List V} {e : QueueError} :
    ofHead l = .error e ↔ l = [] ∧ e = .underflow := by
  cases l <;> simp [eq_comm]

/-- **The contract of a sub-queue**, by way of the list of its values. -/
class SubQueue.Lawful (Q : Type) {V : outParam Type} [SubQueue Q V] where
  /-- The values held, oldest first. -/
  items : Q → List V
  len_eq (q : Q) : SubQueue.len q = (items q).length
  push_of_lt {q : Q} (v : V) (room : (items q).length < SubQueue.capacity q) :
    ∃ q', SubQueue.push q v = (q', .ok ()) ∧ items q' = items q ++ [v] ∧
      SubQueue.capacity q' = SubQueue.capacity q
  push_of_le {q : Q} (v : V) (full : SubQueue.capacity q ≤ (items q).length) :
    ∃ q', SubQueue.push q v =
        (q', .error (.overflow (items q).length (SubQueue.capacity q))) ∧
      items q' = items q ∧ SubQueue.capacity q' = SubQueue.capacity q
  pop_eq (q : Q) :
    ∃ q', SubQueue.pop q = (q', .ofHead (items q)) ∧ items q' = (items q).tail ∧
      SubQueue.capacity q' = SubQueue.capacity q
  peek_eq (q : Q) :
    ∃ q', SubQueue.peek q = (q', .ofHead (items q)) ∧ items q' = items q ∧
      SubQueue.capacity q' = SubQueue.capacity q

/-! ## The stock queue -/

namespace Fifo

variable {V : Type}

theorem push_of_lt {q : Fifo V} (v : V) (room : q.items.toList.length < q.capacity) :
    q.push v = ({ q with items := q.items.push v }, .ok ()) := by
  have hroom : ¬ q.capacity ≤ q.len := by
    rw [len, Queue.length_eq_length_toList]
    omega
  simp [push, hroom]

theorem push_of_le {q : Fifo V} (v : V) (full : q.capacity ≤ q.items.toList.length) :
    q.push v = (q, .error (.overflow q.items.toList.length q.capacity)) := by
  rw [← Queue.length_eq_length_toList] at full ⊢
  simp [push, len, full]

theorem peek_eq (q : Fifo V) : q.peek = .ofHead q.items.toList := by
  unfold peek
  rw [Queue.head?_eq]
  cases q.items.toList <;> rfl

theorem pop_eq (q : Fifo V) :
    ∃ q', q.pop = (q', .ofHead q.items.toList) ∧ q'.items.toList = q.items.toList.tail ∧
      q'.capacity = q.capacity := by
  unfold pop
  rw [Queue.head?_eq]
  cases h : q.items.toList with
  | nil => exact ⟨q, rfl, h, rfl⟩
  | cons v l => exact ⟨_, rfl, by simp [h], rfl⟩

instance : SubQueue.Lawful (Fifo V) where
  items q := q.items.toList
  len_eq q := q.items.length_eq_length_toList
  push_of_lt {_} v room := ⟨_, push_of_lt v room, Queue.toList_push _ v, rfl⟩
  push_of_le {_} v full := ⟨_, push_of_le v full, rfl, rfl⟩
  pop_eq := pop_eq
  peek_eq q := ⟨q, congrArg (Prod.mk q) (peek_eq q), rfl, rfl⟩

end Fifo

/-! ## Asking lawful sub-queues -/

namespace Pifo

variable {V Q₀ Q₁ : Type} [SubQueue Q₀ V] [SubQueue Q₁ V] [SubQueue.Lawful Q₀]
  [SubQueue.Lawful Q₁]

/-- The values of each flow, oldest first. -/
def items (p : Pifo V Q₀ Q₁) : PerFlow (List V) :=
  ⟨SubQueue.Lawful.items p.queue0, SubQueue.Lawful.items p.queue1⟩

/-- The capacity that the sub-queue of each flow reports. -/
def capacities (p : Pifo V Q₀ Q₁) : PerFlow Nat :=
  ⟨SubQueue.capacity p.queue0, SubQueue.capacity p.queue1⟩

theorem flowLen_eq (p : Pifo V Q₀ Q₁) (f : Flow) : p.flowLen f = (p.items.get f).length := by
  cases f <;> exact SubQueue.Lawful.len_eq _

/-- A flow that is pushed to takes the value below its capacity and refuses it otherwise. -/
theorem items_of_subPush {p q : Pifo V Q₀ Q₁} {f : Flow} {v : V} {a : Answer Unit}
    (asked : (subPush f v).run p = ⟨q, [], .ok a⟩) :
    q.capacities = p.capacities ∧
      ((p.items.get f).length < p.capacities.get f ∧ a = .ok () ∧
          q.items = p.items.set f (p.items.get f ++ [v]) ∨
        p.capacities.get f ≤ (p.items.get f).length ∧
          a = .error (.overflow (p.items.get f).length (p.capacities.get f)) ∧
          q.items = p.items) := by
  -- The two sub-queues are of different types, so a flow has to be named before it is asked.
  by_cases room : (p.items.get f).length < p.capacities.get f
  · cases f with
    | zero | one =>
      obtain ⟨q', hpush, hitems, hcapacity⟩ := SubQueue.Lawful.push_of_lt v room
      simp only [subPush, Action.run_ofState, hpush, Step.mk.injEq, Except.ok.injEq] at asked
      obtain ⟨rfl, -, rfl⟩ := asked
      refine ⟨by simp [capacities, hcapacity], .inl ⟨room, rfl, ?_⟩⟩
      simp [items, hitems, PerFlow.set, PerFlow.get]
  · have full := Nat.le_of_not_lt room
    cases f with
    | zero | one =>
      obtain ⟨q', hpush, hitems, hcapacity⟩ := SubQueue.Lawful.push_of_le v full
      simp only [subPush, Action.run_ofState, hpush, Step.mk.injEq, Except.ok.injEq] at asked
      obtain ⟨rfl, -, rfl⟩ := asked
      exact ⟨by simp [capacities, hcapacity], .inr ⟨full, rfl, by simp [items, hitems]⟩⟩

/-- A flow that is popped answers with its oldest value and loses it. -/
theorem items_of_subPop {p q : Pifo V Q₀ Q₁} {f : Flow} {a : Answer V}
    (asked : (subPop f).run p = ⟨q, [], .ok a⟩) :
    a = .ofHead (p.items.get f) ∧ q.items = p.items.set f (p.items.get f).tail ∧
      q.capacities = p.capacities := by
  cases f with
  | zero =>
    obtain ⟨q', hpop, hitems, hcapacity⟩ := SubQueue.Lawful.pop_eq p.queue0
    simp only [subPop, Action.run_ofState, hpop, Step.mk.injEq, Except.ok.injEq] at asked
    obtain ⟨rfl, -, rfl⟩ := asked
    simp [items, capacities, hitems, hcapacity, PerFlow.set, PerFlow.get]
  | one =>
    obtain ⟨q', hpop, hitems, hcapacity⟩ := SubQueue.Lawful.pop_eq p.queue1
    simp only [subPop, Action.run_ofState, hpop, Step.mk.injEq, Except.ok.injEq] at asked
    obtain ⟨rfl, -, rfl⟩ := asked
    simp [items, capacities, hitems, hcapacity, PerFlow.set, PerFlow.get]

/-- A flow that is peeked at answers with its oldest value and keeps it. -/
theorem items_of_subPeek {p q : Pifo V Q₀ Q₁} {f : Flow} {a : Answer V}
    (asked : (subPeek f).run p = ⟨q, [], .ok a⟩) :
    a = .ofHead (p.items.get f) ∧ q.items = p.items ∧ q.capacities = p.capacities := by
  cases f with
  | zero =>
    obtain ⟨q', hpeek, hitems, hcapacity⟩ := SubQueue.Lawful.peek_eq p.queue0
    simp only [subPeek, Action.run_ofState, hpeek, Step.mk.injEq, Except.ok.injEq] at asked
    obtain ⟨rfl, -, rfl⟩ := asked
    simp [items, capacities, hitems, hcapacity, PerFlow.get]
  | one =>
    obtain ⟨q', hpeek, hitems, hcapacity⟩ := SubQueue.Lawful.peek_eq p.queue1
    simp only [subPeek, Action.run_ofState, hpeek, Step.mk.injEq, Except.ok.injEq] at asked
    obtain ⟨rfl, -, rfl⟩ := asked
    simp [items, capacities, hitems, hcapacity, PerFlow.get]

end Pifo

end TwoFlow
