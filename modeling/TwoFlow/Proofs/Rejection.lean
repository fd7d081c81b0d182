import TwoFlow.Proofs.Service

/-!
# When a request is rejected, and what a rejection leaves behind

Two bounds can turn a push away: that of the scheduler as a whole, which answers from its own count,
and that of the flow of the value. The first is asked first, and still it never turns a value away
that its flow could take: the count is at the capacity only when both flows are full. So a push is
rejected exactly when its own flow is full, and the state of the other flow decides no more than
which of the two bounds is reported. A pop and a peek have two routes to a rejection as well, the
count at zero and two sub-queues that fail; over the stock queues the second one is never taken.

A rejection changes nothing but a counter. That is a matter of the sub-queues: one that fails has to
be left as it was. Sub-queues that keep to this are called atomic here, and nothing else is assumed
of them.

## Main definitions

* `SubQueue.Atomic`: a failure changes nothing, nor does a peek
* `Counter.rejections`: the counters of rejected requests

## Main results

* `Pifo.Transition.exists_counter_of_error`, `Pifo.Transition.eq_of_peek`: what a rejection and a
  peek leave behind, over atomic sub-queues
* `Backlog.Sound.response_push`, `Backlog.response_pop_eq_error_iff`: when a request is rejected
* `Pifo.rejects_exactly_at_the_bounds`: both for a scheduler over the stock queues
-/

namespace TwoFlow

/-! ## Atomic sub-queues -/

/-- **An atomic sub-queue**: a push or a pop that fails leaves it as it is, and so does every
peek. -/
class SubQueue.Atomic (Q : Type) {V : outParam Type} [SubQueue Q V] : Prop where
  push_fst {q : Q} {v : V} {e : QueueError} (failed : (SubQueue.push q v).2 = .error e) :
    (SubQueue.push q v).1 = q
  pop_fst {q : Q} {e : QueueError} (failed : (SubQueue.pop q).2 = .error e) :
    (SubQueue.pop q).1 = q
  peek_fst (q : Q) : (SubQueue.peek q).1 = q

instance {V : Type} : SubQueue.Atomic (Fifo V) where
  push_fst {q v e} failed := by
    change (q.push v).2 = .error e at failed
    change (q.push v).1 = q
    unfold Fifo.push at failed ⊢
    split at failed
    · rename_i full
      rw [if_pos full]
    · cases failed
  pop_fst {q e} failed := by
    change q.pop.2 = .error e at failed
    change q.pop.1 = q
    unfold Fifo.pop at failed ⊢
    cases hhead : q.items.head? with
    | none => rfl
    | some v =>
      rw [hhead] at failed
      cases failed
  peek_fst _ := rfl

/-- The counters of rejected requests. -/
def Counter.rejections : List Counter := [.pushesRejectedFull, .pushesRejectedFlow, .popUnderflows]

namespace Pifo

section Atomic

variable {V Q₀ Q₁ : Type} [SubQueue Q₀ V] [SubQueue Q₁ V] [SubQueue.Atomic Q₀] [SubQueue.Atomic Q₁]
  {p p' : Pifo V Q₀ Q₁} {f : Flow} {e : QueueError}

theorem eq_of_subPush_error {v : V} (asked : (subPush f v).run p = ⟨p', [], .ok (.error e)⟩) :
    p' = p := by
  cases f with
  | zero | one =>
    simp only [subPush, Action.run_ofState, Step.mk.injEq, Except.ok.injEq] at asked
    obtain ⟨rfl, -, hanswer⟩ := asked
    rw [SubQueue.Atomic.push_fst hanswer]

theorem eq_of_subPop_error (asked : (subPop f).run p = ⟨p', [], .ok (.error e)⟩) : p' = p := by
  cases f with
  | zero | one =>
    simp only [subPop, Action.run_ofState, Step.mk.injEq, Except.ok.injEq] at asked
    obtain ⟨rfl, -, hanswer⟩ := asked
    rw [SubQueue.Atomic.pop_fst hanswer]

theorem eq_of_subPeek {a : Answer V} (asked : (subPeek f).run p = ⟨p', [], .ok a⟩) : p' = p := by
  cases f with
  | zero | one =>
    simp only [subPeek, Action.run_ofState, Step.mk.injEq] at asked
    rw [← asked.1, SubQueue.Atomic.peek_fst]

variable [LE V] [DecidableLE V] {r : Request V} {es : List Event}

/-- **A peek leaves nothing behind**, whatever it is answered. -/
theorem Transition.eq_of_peek {a : Response V} (way : Transition p .peek p' es a) :
    p' = p ∧ es = [] := by
  cases way with
  | peekEmpty => exact ⟨rfl, rfl⟩
  | peekPrimary _ asked => exact ⟨eq_of_subPeek asked, rfl⟩
  | peekFallback _ asked askedOther =>
    exact ⟨(eq_of_subPeek askedOther).trans (eq_of_subPeek asked), rfl⟩

/-- **A rejected push or pop leaves a counter raised by one**, and everything else as it was. -/
theorem Transition.exists_counter_of_error (way : Transition p r p' es (.error e))
    (hpeek : r ≠ .peek) :
    ∃ counter ∈ Counter.rejections, p' = { p with stats := p.stats.bump counter } := by
  generalize ha : (.error e : Response V) = a at way
  cases way with
  | pushFull => exact ⟨.pushesRejectedFull, by decide, rfl⟩
  | pushRefused _ asked =>
    rw [eq_of_subPush_error asked]
    exact ⟨.pushesRejectedFlow, by decide, rfl⟩
  | popEmpty => exact ⟨.popUnderflows, by decide, rfl⟩
  | popFailed _ asked askedOther =>
    rw [eq_of_subPop_error askedOther, eq_of_subPop_error asked]
    exact ⟨.popUnderflows, by decide, rfl⟩
  | pushAccepted | popPrimary | popFallback => cases ha
  | peekEmpty | peekPrimary | peekFallback => exact absurd rfl hpeek

end Atomic

end Pifo

/-! ## When a request is rejected -/

namespace Backlog

variable {V : Type} [LE V] [DecidableLE V] {c : Config V} {s : Backlog V}

/-- **What a push is answered** is decided by its own flow; the other flow decides which bound is
reported. -/
theorem Sound.response_push (h : s.Sound c) (v : V) :
    (s.turn c (.push v)).response =
      if (s.flows.get (c.classifier.classify v)).length = c.flowCapacity then
        .error (if (s.flows.get (c.classifier.classify v).other).length = c.flowCapacity then
          .overflow (2 * c.flowCapacity) (2 * c.flowCapacity)
        else .overflow c.flowCapacity c.flowCapacity)
      else .ok none := by
  have hlen := s.len_eq (c.classifier.classify v)
  rcases turn_push_cases c s v with ⟨hfull, hturn⟩ | ⟨hfull, hflow, hturn⟩ | ⟨hfull, hflow, hturn⟩
  · have hboth := h.len_eq_iff.mp hfull
    rw [hturn, if_pos (hboth _), if_pos (hboth _), hfull, Nat.mul_comm]
  · -- Were the other flow full as well, the scheduler would be.
    have hother : (s.flows.get (c.classifier.classify v).other).length ≠ c.flowCapacity := by omega
    rw [hturn, if_pos hflow, if_neg hother]
  · rw [hturn, if_neg hflow]

/-- **A pop is rejected exactly when nothing waits.** -/
theorem response_pop_eq_error_iff {e : QueueError} :
    (s.turn c .pop).response = .error e ↔ (∀ f, s.flows.get f = []) ∧ e = .underflow := by
  rcases turn_pop_cases c s with ⟨v, rest, hhot, hturn⟩ | ⟨v, rest, -, hother, hturn⟩ |
    ⟨hhot, hother, hturn⟩
  · rw [hturn]
    simp only [reduceCtorEq, false_iff, not_and]
    intro hempty
    rw [hempty] at hhot
    cases hhot
  · rw [hturn]
    simp only [reduceCtorEq, false_iff, not_and]
    intro hempty
    rw [hempty] at hother
    cases hother
  · have hempty : ∀ f, s.flows.get f = [] := by
      rw [← len_eq_zero_iff, len_eq s s.hot, hhot, hother]
      rfl
    rw [hturn]
    simp [hempty, eq_comm]

end Backlog

namespace Pifo

section Lawful

variable {V Q₀ Q₁ : Type} [SubQueue Q₀ V] [SubQueue Q₁ V] [SubQueue.Lawful Q₀] [SubQueue.Lawful Q₁]
  [LE V] [DecidableLE V] {c : Config V} {p p' : Pifo V Q₀ Q₁} {v : V} {es : List Event}
  {a : Response V} {e : QueueError}

/-- A push is answered as the lengths of the flows say. -/
theorem Sound.push_answered (h : Sound c p) (way : Transition p (.push v) p' es a) :
    a = if p.flowLen (c.classifier.classify v) = c.flowCapacity then
        .error (if p.flowLen (c.classifier.classify v).other = c.flowCapacity then
          .overflow (2 * c.flowCapacity) (2 * c.flowCapacity)
        else .overflow c.flowCapacity c.flowCapacity)
      else .ok none := by
  rw [(h.takes way).response, h.backlog.response_push v, flowLen_eq, flowLen_eq]
  rfl

/-- **A push is accepted exactly when its flow has room**, and rejected exactly when it is full. -/
theorem Sound.push_accepted_iff (h : Sound c p) (way : Transition p (.push v) p' es a) :
    (a = .ok none ↔ p.flowLen (c.classifier.classify v) ≠ c.flowCapacity) ∧
      ((∃ e, a = .error e) ↔ p.flowLen (c.classifier.classify v) = c.flowCapacity) := by
  rw [h.push_answered way]
  by_cases hfull : p.flowLen (c.classifier.classify v) = c.flowCapacity <;> simp [hfull]

/-- **The bound that a rejected push has met**: that of the scheduler if both flows are full, and
that of its flow otherwise. -/
theorem Sound.push_rejected_with (h : Sound c p) (way : Transition p (.push v) p' es (.error e)) :
    ((∀ f, p.flowLen f = c.flowCapacity) →
        e = .overflow (2 * c.flowCapacity) (2 * c.flowCapacity)) ∧
      ((¬ ∀ f, p.flowLen f = c.flowCapacity) → e = .overflow c.flowCapacity c.flowCapacity) := by
  have hflow := (h.push_accepted_iff way).2.mp ⟨e, rfl⟩
  have hanswer := h.push_answered way
  rw [if_pos hflow, Except.error.injEq] at hanswer
  constructor
  · intro hall
    rw [hanswer, if_pos (hall _)]
  · intro hroom
    -- It is the other flow that has room.
    have hother : p.flowLen (c.classifier.classify v).other ≠ c.flowCapacity := by
      intro hother
      refine hroom fun f => ?_
      by_cases hf : f = c.classifier.classify v
      · rw [hf]
        exact hflow
      · rw [Flow.eq_other_of_ne hf]
        exact hother
    rw [hanswer, if_neg hother]

/-- **One value short of the capacity** a single flow has room, and room for one value. -/
theorem Sound.exists_room_of_len (h : Sound c p) (hlen : p.len = 2 * c.flowCapacity - 1) :
    ∃ f, p.flowLen f < c.flowCapacity ∧ p.flowLen f.other = c.flowCapacity := by
  have hpos := ((Config.validate_eq_ok_iff c).mp h.valid).1
  have hzero := h.backlog.length_le .zero
  have hone := h.backlog.length_le .one
  rw [h.len, Backlog.len_eq _ .zero, backlog_flows, ← flowLen_eq, ← flowLen_eq] at hlen
  rw [backlog_flows, ← flowLen_eq] at hzero hone
  by_cases hroom : p.flowLen .zero < c.flowCapacity
  · exact ⟨.zero, hroom, by dsimp only [Flow.other] at hlen ⊢; omega⟩
  · exact ⟨.one, by dsimp only [Flow.other] at hlen; omega, by dsimp only [Flow.other]; omega⟩

/-- **A pop or a peek is rejected exactly when nothing waits**, and always as one from an empty
queue. -/
theorem Sound.error_iff_of_ask (h : Sound c p) {r : Request V} (ask : r = .pop ∨ r = .peek)
    (way : Transition p r p' es a) :
    a = .error e ↔ (∀ f, p.flowLen f = 0) ∧ e = .underflow := by
  have hempty : (∀ f, p.flowLen f = 0) ↔ ∀ f, p.backlog.flows.get f = [] := by
    simp only [flowLen_eq, List.length_eq_zero_iff, backlog_flows]
  rw [(h.takes way).response, hempty]
  rcases ask with rfl | rfl
  · exact Backlog.response_pop_eq_error_iff
  · rw [Backlog.response_turn_peek]
    exact Backlog.response_pop_eq_error_iff

end Lawful

/-! ## Rejections of a scheduler over the stock queues -/

variable {V : Type} [LE V] [DecidableLE V] {c : Config V} {p₀ p : Pifo V (Fifo V) (Fifo V)}

/-- **Rejections are exact and atomic.** Let a scheduler over the stock queues have reached a state.
Any request is answered as long as a machine word counts the requests. A push is rejected exactly
when its flow is full; what is reported then is the capacity of the whole if both flows are full,
and that of the flow otherwise. So one value short of the capacity of the whole, the values of one
flow are accepted and those of the other one are not. A pop and a peek are rejected exactly when
both flows are empty. A peek leaves the scheduler as it was, and a push or a pop that is rejected
leaves it so too, but for one counter of rejected requests that is raised by one. -/
theorem rejects_exactly_at_the_bounds (built : withFifos c = .ok p₀) {past : List (Request V)}
    {es₀ : List Event} {answers₀ : List (Response V)}
    (reached : (serve past).run p₀ = ⟨p, es₀, .ok answers₀⟩) :
    (past.length + 1 < wordLimit → ∀ r, ∃ p' es a, (handle r).run p = ⟨p', es, .ok a⟩) ∧
    (∀ v p' es a, (handle (.push v)).run p = ⟨p', es, .ok a⟩ →
      ((∃ e, a = .error e) ↔ p.flowLen (c.classifier.classify v) = c.flowCapacity) ∧
      ∀ e, a = .error e →
        ((∀ f, p.flowLen f = c.flowCapacity) →
          e = .overflow (2 * c.flowCapacity) (2 * c.flowCapacity)) ∧
        ((¬ ∀ f, p.flowLen f = c.flowCapacity) → e = .overflow c.flowCapacity c.flowCapacity)) ∧
    (p.len = 2 * c.flowCapacity - 1 →
      ∃ f, p.flowLen f < c.flowCapacity ∧ p.flowLen f.other = c.flowCapacity ∧
        ∀ v p' es a, (handle (.push v)).run p = ⟨p', es, .ok a⟩ →
          (a = .ok none ↔ c.classifier.classify v = f)) ∧
    (∀ r, r = .pop ∨ r = .peek → ∀ p' es a, (handle r).run p = ⟨p', es, .ok a⟩ →
      ((∃ e, a = .error e) ↔ ∀ f, p.flowLen f = 0) ∧ ∀ e, a = .error e → e = .underflow) ∧
    ∀ r p' es e, (handle r).run p = ⟨p', es, .ok (.error e)⟩ →
      (r = .peek → p' = p) ∧
      (r ≠ .peek →
        ∃ counter ∈ Counter.rejections, p' = { p with stats := p.stats.bump counter }) := by
  have hsound : Sound c p := ((sound_of_build built).1.serve reached).1
  refine ⟨?_, ?_, ?_, ?_, ?_⟩
  · intro few r
    have few' : past.length + [r].length < wordLimit := few
    obtain ⟨p', es, answers, hrun⟩ := exists_run_of_reached built reached few'
    obtain ⟨q, es₁, a, -, -, hr, -⟩ := serve_cons.mp hrun
    exact ⟨q, es₁, a, hr⟩
  · rintro v p' es a hrun
    have way := transition_of_run hrun
    refine ⟨(hsound.push_accepted_iff way).2, ?_⟩
    rintro e rfl
    exact hsound.push_rejected_with way
  · intro hlen
    obtain ⟨f, hroom, hother⟩ := hsound.exists_room_of_len hlen
    refine ⟨f, hroom, hother, fun v p' es a hrun => ?_⟩
    rw [(hsound.push_accepted_iff (transition_of_run hrun)).1]
    constructor
    · intro hflow
      rw [← Flow.other_other f]
      exact Flow.eq_other_of_ne fun heq => hflow (heq ▸ hother)
    · rintro rfl
      exact Nat.ne_of_lt hroom
  · intro r ask p' es a hrun
    have hiff := fun e => hsound.error_iff_of_ask (e := e) ask (transition_of_run hrun)
    refine ⟨⟨?_, fun hempty => ⟨.underflow, (hiff _).mpr ⟨hempty, rfl⟩⟩⟩,
      fun e he => ((hiff e).mp he).2⟩
    rintro ⟨e, he⟩
    exact ((hiff e).mp he).1
  · intro r p' es e hrun
    have way := transition_of_run hrun
    constructor
    · rintro rfl
      exact way.eq_of_peek.1
    · exact way.exists_counter_of_error

/-- At flow capacity two, with flow zero full and a value of flow one waiting: a value of flow zero
is rejected although the scheduler is one value short of its capacity, and all that are accepted are
values of a single flow. -/
theorem rejects_exactly_at_the_bounds_short :
    ∃ p₀ p es₀ answers₀, withFifos (⟨2, 10⟩ : Config Nat) = .ok p₀ ∧
      (serve [.push 1, .push 2, .push 11]).run p₀ = ⟨p, es₀, .ok answers₀⟩ ∧ p.len = 3 ∧
      (∃ p' es, (handle (.push 5)).run p = ⟨p', es, .ok (.error (.overflow 2 2))⟩ ∧
        ∃ counter ∈ Counter.rejections, p' = { p with stats := p.stats.bump counter }) ∧
      ∃ f, ∀ v p' es a, (handle (.push v)).run p = ⟨p', es, .ok a⟩ →
        (a = .ok none ↔ (⟨10⟩ : Classifier Nat).classify v = f) := by
  obtain ⟨p₀, built⟩ : ∃ p₀, withFifos (⟨2, 10⟩ : Config Nat) = .ok p₀ := ⟨_, rfl⟩
  obtain ⟨p, es₀, answers₀, reached⟩ : ∃ p es₀ answers₀,
      (serve [.push 1, .push 2, .push 11]).run p₀ = ⟨p, es₀, .ok answers₀⟩ := by
    cases built
    exact ⟨_, _, _, rfl⟩
  obtain ⟨p', es, rejected⟩ : ∃ p' es,
      (handle (.push 5)).run p = ⟨p', es, .ok (.error (.overflow 2 2))⟩ := by
    cases built
    cases reached
    exact ⟨_, _, rfl⟩
  have hlen : p.len = 3 := by
    cases built
    cases reached
    rfl
  obtain ⟨-, -, hshort, -, hatomic⟩ := rejects_exactly_at_the_bounds built reached
  obtain ⟨f, -, -, haccepted⟩ := hshort hlen
  exact ⟨p₀, p, es₀, answers₀, built, reached, hlen,
    ⟨p', es, rejected, (hatomic _ p' es _ rejected).2 nofun⟩, f, haccepted⟩

end Pifo

end TwoFlow
