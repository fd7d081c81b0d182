import TwoFlow.Proofs.Simulation

/-!
# What a scheduler over the stock queues keeps to

The scheduler counts its values beside the queues that hold them and knows nothing of the classes of
what they hold. What it keeps to all the same is read off its backlog: the counter is the sum of the
two lengths, no flow is above its capacity, each queue holds the values of its own side of the
boundary, and the counter stands at the capacity exactly when both queues are full. None of it
depends on how large the capacity is, as long as its double is a machine word.

## Main definitions

* `Pifo.Represents`: what can be seen of the invariant from outside

## Main results

* `Pifo.Sound.represents`: a sound scheduler keeps to it
* `Pifo.exists_run_represents`: so does a scheduler after any requests, none of which meets a fault
-/

namespace TwoFlow

variable {V : Type} [LE V] [DecidableLE V]

/-- In a linear order flow one has the values above the boundary. -/
theorem Classifier.classify_eq_one_iff [LT V] [Std.IsLinearOrder V] [Std.LawfulOrderLT V]
    (c : Classifier V) (v : V) : c.classify v = .one ↔ c.boundary < v := by
  rw [← Std.not_le, ← classify_eq_zero_iff]
  cases c.classify v <;> simp

namespace Pifo

variable {c : Config V} {p : Pifo V (Fifo V) (Fifo V)}

/-- **The invariant seen from outside**: counter, lengths, capacity and the values on either side of
the boundary. -/
structure Represents [LT V] (c : Config V) (p : Pifo V (Fifo V) (Fifo V)) : Prop where
  len_eq : p.len = p.flowLen .zero + p.flowLen .one
  flowLen_le : ∀ f, p.flowLen f ≤ c.flowCapacity
  capacity_eq : p.capacity = 2 * c.flowCapacity
  /-- The capacity is the double itself, not what is left of it in a machine word. -/
  capacity_lt : 2 * c.flowCapacity < wordLimit
  le_boundary : ∀ v ∈ p.queue0.items.toList, v ≤ c.boundary
  boundary_lt : ∀ v ∈ p.queue1.items.toList, c.boundary < v
  full_iff : p.len = 2 * c.flowCapacity ↔
    p.flowLen .zero = c.flowCapacity ∧ p.flowLen .one = c.flowCapacity

theorem Sound.represents [LT V] [Std.IsLinearOrder V] [Std.LawfulOrderLT V] (h : p.Sound c) :
    p.Represents c where
  len_eq := by
    rw [h.len, Backlog.len_eq _ .zero, flowLen_eq, flowLen_eq]
    rfl
  flowLen_le f := by
    rw [flowLen_eq]
    exact h.backlog.length_le f
  capacity_eq := by rw [h.capacity, Nat.mul_comm]
  capacity_lt := by
    rw [Nat.mul_comm, ← h.capacity]
    exact h.capacity_lt
  le_boundary v hv :=
    (Classifier.classify_eq_zero_iff c.classifier v).mp (h.backlog.classify_eq .zero v hv)
  boundary_lt v hv :=
    (Classifier.classify_eq_one_iff c.classifier v).mp (h.backlog.classify_eq .one v hv)
  full_iff := by
    rw [h.len, Nat.mul_comm, h.backlog.len_eq_iff, flowLen_eq, flowLen_eq]
    constructor
    · intro hall
      exact ⟨hall .zero, hall .one⟩
    · rintro ⟨hzero, hone⟩ f
      cases f with
      | zero => exact hzero
      | one => exact hone

/-- **The representation invariant.** A scheduler that was built serves every list of requests that
a machine word counts: no counter leaves the machine word and no assertion fails. The state it
reaches keeps to the invariant, and no pop on the way found both sub-queues without a value while
the scheduler counted one. -/
theorem exists_run_represents [LT V] [Std.IsLinearOrder V] [Std.LawfulOrderLT V]
    {p₀ : Pifo V (Fifo V) (Fifo V)} (built : withFifos c = .ok p₀) (requests : List (Request V))
    (few : requests.length < wordLimit) :
    ∃ p es answers, (serve requests).run p₀ = ⟨p, es, .ok answers⟩ ∧ p.Represents c ∧
      ∀ len e, .bothFailed len e ∉ es := by
  obtain ⟨p, es, answers, hrun, hsound, -, -, hevents⟩ := exists_run_of_build built few
  refine ⟨p, es, answers, hrun, hsound.represents, fun len e hmem => ?_⟩
  rw [hevents] at hmem
  exact Backlog.bothFailed_not_mem_turns hmem

/-- At the largest flow capacity there is, 2^63 - 1, with values on both sides of the boundary and
on it. -/
theorem exists_run_represents_largest :
    ∃ p₀, withFifos (⟨9223372036854775807, 10⟩ : Config UInt32) = .ok p₀ ∧
      ∃ p es answers, (serve [.push 10, .push 11, .pop, .pop, .pop, .push 3]).run p₀ =
          ⟨p, es, .ok answers⟩ ∧ p.Represents ⟨9223372036854775807, 10⟩ ∧
        ∀ len e, .bothFailed len e ∉ es := by
  obtain ⟨p₀, built⟩ := exists_withFifos (c := (⟨9223372036854775807, 10⟩ : Config UInt32)) rfl
  exact ⟨p₀, built, exists_run_represents built _ (by decide)⟩

end Pifo

end TwoFlow
