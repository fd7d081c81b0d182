import TwoFlow.Pifo.Drain

/-!
# The transitions of a scheduler

A request that ends without a fault takes one of ten ways through the scheduler. They are listed
once, as the constructors of a relation, over sub-queues of which nothing is assumed; what is said
of every request is then said of each constructor, and never of the code of a request again.

The statistics are machine words, so a request faults where something that it counts up would leave
the machine word, and only there. `Headroom n` is room for `n` requests: every request uses up one
unit of it, and a request with headroom does not fault.

## Main definitions

* `Pifo.Transition`: the ways of a request
* `Pifo.SameControl`: schedulers that differ at most in their sub-queues
* `Pifo.Headroom`: room for a number of requests
* `Pifo.StaysInWord`: what is counted up stays a machine word

## Main results

* `Pifo.exists_transition`: every request has a way
* `Pifo.Transition.run_iff`: a way is taken exactly when all that it counts up stays a machine word
* `Pifo.transition_of_run`, `Pifo.exists_run`: a request that is answered takes its way, and one
  with headroom is answered
* `Pifo.serve_cons`, `Pifo.serve_append`, `Pifo.exists_run_serve`: the same of a list of requests
-/

namespace TwoFlow

/-! ## Counters before and after a request -/

theorem Stats.get_default (c : Counter) : ({} : Stats).get c = 0 := by
  cases c with
  | served flow => cases flow <;> rfl
  | _ => rfl

theorem Stats.get_bump_le (s : Stats) (c d : Counter) : (s.bump c).get d ≤ s.get d + 1 := by
  by_cases h : d = c
  · rw [h]
    exact Nat.le_of_eq (get_bump_self s c)
  · rw [get_bump_of_ne s h]
    exact Nat.le_succ _

theorem Stats.get_bump_bump_le (s : Stats) {c d : Counter} (h : d ≠ c) (x : Counter) :
    ((s.bump c).bump d).get x ≤ s.get x + 1 := by
  by_cases hx : x = d
  · rw [hx, get_bump_self]
    exact Nat.le_of_eq (congrArg (· + 1) (get_bump_of_ne s h))
  · rw [get_bump_of_ne _ hx]
    exact get_bump_le s c x

/-- A counter grows by as often as it is raised. -/
theorem Stats.get_foldl_bump (raised : List Counter) (s : Stats) (c : Counter) :
    (raised.foldl bump s).get c = s.get c + raised.count c := by
  induction raised generalizing s with
  | nil => rfl
  | cons d raised ih =>
    rw [List.foldl_cons, ih, List.count_cons]
    by_cases h : c = d
    · rw [h, get_bump_self, if_pos BEq.rfl]
      omega
    · rw [get_bump_of_ne s h, if_neg (fun hd => h (eq_of_beq hd).symm)]
      rfl

namespace Pifo

variable {V Q₀ Q₁ : Type}

/-! ## Control and headroom -/

/-- Two schedulers that differ at most in their sub-queues. -/
structure SameControl (p q : Pifo V Q₀ Q₁) : Prop where
  classifier : q.classifier = p.classifier
  hot : q.hot = p.hot
  len : q.len = p.len
  capacity : q.capacity = p.capacity
  stats : q.stats = p.stats

theorem SameControl.trans {p q r : Pifo V Q₀ Q₁} (h : SameControl p q) (h' : SameControl q r) :
    SameControl p r where
  classifier := h'.classifier.trans h.classifier
  hot := h'.hot.trans h.hot
  len := h'.len.trans h.len
  capacity := h'.capacity.trans h.capacity
  stats := h'.stats.trans h.stats

/-- Room for `n` more requests: no counter gets to the end of the machine word on the way. -/
structure Headroom (n : Nat) (p : Pifo V Q₀ Q₁) : Prop where
  capacity : p.capacity < wordLimit
  stats : ∀ c, p.stats.get c + n < wordLimit

theorem Headroom.mono {m n : Nat} {p : Pifo V Q₀ Q₁} (h : Headroom n p) (hmn : m ≤ n) :
    Headroom m p where
  capacity := h.capacity
  stats c := by
    have := h.stats c
    omega

/-- **What is counted up stays a machine word**: whatever is larger in `p'` than in `p` is one. -/
structure StaysInWord (p p' : Pifo V Q₀ Q₁) : Prop where
  len : p.len < p'.len → p'.len < wordLimit
  stats : ∀ c, p.stats.get c < p'.stats.get c → p'.stats.get c < wordLimit

theorem run_grow (p : Pifo V Q₀ Q₁) :
    grow.run p =
      if p.len < p.capacity then
        if p.len + 1 < wordLimit then ⟨{ p with len := p.len + 1 }, [], .ok ()⟩
        else ⟨p, [], .error .addOverflow⟩
      else ⟨p, [], .error .lengthAboveCapacity⟩ := by
  by_cases h : p.len < p.capacity
  · by_cases hw : p.len + 1 < wordLimit <;> simp [grow, checkedAdd, h, hw]
  · simp [grow, h]

/-- A delivery counts the value out, once in the length and once for the flow. -/
theorem run_deliver {flow : Flow} {v : V} {p : Pifo V Q₀ Q₁} (hlen : p.len ≠ 0) :
    (deliver flow v).run p =
      if p.stats.get (.served flow) + 1 < wordLimit then
        ⟨{ p with len := p.len - 1, stats := p.stats.bump (.served flow) },
          [.popped flow p.hot (p.len - 1)], .ok (.ok v)⟩
      else ⟨{ p with len := p.len - 1 }, [], .error .addOverflow⟩ := by
  have hpos : 0 < p.len := Nat.pos_of_ne_zero hlen
  by_cases hw : p.stats.get (.served flow) + 1 < wordLimit
  · simp [deliver, run_shrink, run_count, hpos, hw]
  · simp [deliver, run_shrink, run_count, hpos, hw]

variable [SubQueue Q₀ V] [SubQueue Q₁ V]

/-! ## Asking a sub-queue

Asking is silent, never faults, and leaves everything but the sub-queue asked alone. -/

theorem exists_subPush (flow : Flow) (v : V) (p : Pifo V Q₀ Q₁) :
    ∃ q a, (subPush flow v).run p = ⟨q, [], .ok a⟩ := ⟨_, _, rfl⟩

theorem exists_subPop (flow : Flow) (p : Pifo V Q₀ Q₁) :
    ∃ q a, (subPop flow).run p = ⟨q, [], .ok a⟩ := ⟨_, _, rfl⟩

theorem exists_subPeek (flow : Flow) (p : Pifo V Q₀ Q₁) :
    ∃ q a, (subPeek flow).run p = ⟨q, [], .ok a⟩ := ⟨_, _, rfl⟩

theorem sameControl_of_subPush {p q : Pifo V Q₀ Q₁} {flow : Flow} {v : V} {a : Answer Unit}
    (h : (subPush flow v).run p = ⟨q, [], .ok a⟩) : SameControl p q := by
  cases flow <;> cases h <;> exact ⟨rfl, rfl, rfl, rfl, rfl⟩

theorem sameControl_of_subPop {p q : Pifo V Q₀ Q₁} {flow : Flow} {a : Answer V}
    (h : (subPop flow).run p = ⟨q, [], .ok a⟩) : SameControl p q := by
  cases flow <;> cases h <;> exact ⟨rfl, rfl, rfl, rfl, rfl⟩

theorem sameControl_of_subPeek {p q : Pifo V Q₀ Q₁} {flow : Flow} {a : Answer V}
    (h : (subPeek flow).run p = ⟨q, [], .ok a⟩) : SameControl p q := by
  cases flow <;> cases h <;> exact ⟨rfl, rfl, rfl, rfl, rfl⟩

/-! ## Building -/

omit [SubQueue Q₀ V] [SubQueue Q₁ V] in
theorem checkQueue_eq_ok_iff {c : Config V} (flow : Flow) {capacity len : Nat} :
    checkQueue c flow capacity len = .ok () ↔ capacity = c.flowCapacity ∧ len = 0 := by
  by_cases hcap : capacity = c.flowCapacity
  · by_cases hlen : len = 0 <;> simp [checkQueue, hcap, hlen]
  · simp [checkQueue, hcap]

/-- A scheduler is built of a valid configuration and sub-queues that report its capacity and no
values. -/
theorem build_eq_ok_iff {c : Config V} {queue0 : Q₀} {queue1 : Q₁} {p : Pifo V Q₀ Q₁} :
    build c queue0 queue1 = .ok p ↔
      c.validate = .ok () ∧ (SubQueue.capacity queue0 = c.flowCapacity ∧ SubQueue.len queue0 = 0) ∧
        (SubQueue.capacity queue1 = c.flowCapacity ∧ SubQueue.len queue1 = 0) ∧
        p = { queue0, queue1, classifier := c.classifier, capacity := c.totalCapacity } := by
  rw [← checkQueue_eq_ok_iff .zero, ← checkQueue_eq_ok_iff .one, build]
  cases c.validate with
  | error e => simp [bind, Except.bind]
  | ok u =>
    cases checkQueue c .zero (SubQueue.capacity queue0) (SubQueue.len queue0) with
    | error e => simp [bind, Except.bind]
    | ok u =>
      cases checkQueue c .one (SubQueue.capacity queue1) (SubQueue.len queue1) with
      | error e => simp [bind, Except.bind]
      | ok u => simp [bind, Except.bind, pure, Except.pure, eq_comm]

omit [SubQueue Q₀ V] [SubQueue Q₁ V] in
/-- A valid configuration gives a scheduler over the stock queues. -/
theorem exists_withFifos {c : Config V} (h : c.validate = .ok ()) : ∃ p, withFifos c = .ok p :=
  ⟨_, build_eq_ok_iff.mpr ⟨h, ⟨rfl, rfl⟩, ⟨rfl, rfl⟩, rfl⟩⟩

/-! ## The ways of a request -/

variable [LE V] [DecidableLE V]

/-- **The ways of a request** that ends without a fault: the scheduler before it, the request, the
scheduler after it, the events reported and the response. -/
inductive Transition :
    Pifo V Q₀ Q₁ → Request V → Pifo V Q₀ Q₁ → List Event → Response V → Prop
  /-- The scheduler is full. -/
  | pushFull {p : Pifo V Q₀ Q₁} {v : V} (full : p.capacity ≤ p.len) :
    Transition p (.push v) { p with stats := p.stats.bump .pushesRejectedFull }
      [.pushRejectedFull p.len] (.error (.overflow p.len p.capacity))
  /-- The sub-queue of the value refuses it. -/
  | pushRefused {p q : Pifo V Q₀ Q₁} {v : V} {e : QueueError} (room : p.len < p.capacity)
      (asked : (subPush (p.classifier.classify v) v).run p = ⟨q, [], .ok (.error e)⟩) :
    Transition p (.push v) { q with stats := q.stats.bump .pushesRejectedFlow }
      [.pushRejectedByFlow (p.classifier.classify v) e] (.error e)
  /-- The sub-queue of the value takes it. -/
  | pushAccepted {p q : Pifo V Q₀ Q₁} {v : V} (room : p.len < p.capacity)
      (asked : (subPush (p.classifier.classify v) v).run p = ⟨q, [], .ok (.ok ())⟩) :
    Transition p (.push v) { q with len := q.len + 1, stats := q.stats.bump .pushesAccepted }
      [.pushed (p.classifier.classify v) (q.len + 1)] (.ok none)
  /-- The scheduler counts no value to pop. -/
  | popEmpty {p : Pifo V Q₀ Q₁} (empty : p.len = 0) :
    Transition p .pop { p with stats := p.stats.bump .popUnderflows } [.popRejectedEmpty]
      (.error .underflow)
  /-- The hot flow hands a value out. -/
  | popPrimary {p q : Pifo V Q₀ Q₁} {v : V} (holds : p.len ≠ 0)
      (asked : (subPop p.hot).run p = ⟨q, [], .ok (.ok v)⟩) :
    Transition p .pop
      { q with
        hot := q.hot.other, len := q.len - 1
        stats := (q.stats.bump .popsPrimary).bump (.served p.hot) }
      [.popped p.hot q.hot.other (q.len - 1)] (.ok (some v))
  /-- The hot flow fails and the other one hands a value out. -/
  | popFallback {p q q' : Pifo V Q₀ Q₁} {e : QueueError} {v : V} (holds : p.len ≠ 0)
      (asked : (subPop p.hot).run p = ⟨q, [], .ok (.error e)⟩)
      (askedOther : (subPop p.hot.other).run q = ⟨q', [], .ok (.ok v)⟩) :
    Transition p .pop
      { q' with
        len := q'.len - 1, stats := (q'.stats.bump .popsFallback).bump (.served p.hot.other) }
      [.fallingBack p.hot p.hot.other, .popped p.hot.other q'.hot (q'.len - 1)] (.ok (some v))
  /-- Both flows fail although the scheduler counts a value. -/
  | popFailed {p q q' : Pifo V Q₀ Q₁} {e e' : QueueError} (holds : p.len ≠ 0)
      (asked : (subPop p.hot).run p = ⟨q, [], .ok (.error e)⟩)
      (askedOther : (subPop p.hot.other).run q = ⟨q', [], .ok (.error e')⟩) :
    Transition p .pop { q' with stats := q'.stats.bump .popUnderflows }
      [.fallingBack p.hot p.hot.other, .bothFailed p.len e'] (.error e')
  /-- The scheduler counts no value to show. -/
  | peekEmpty {p : Pifo V Q₀ Q₁} (empty : p.len = 0) :
    Transition p .peek p [] (.error .underflow)
  /-- The hot flow shows a value. -/
  | peekPrimary {p q : Pifo V Q₀ Q₁} {v : V} (holds : p.len ≠ 0)
      (asked : (subPeek p.hot).run p = ⟨q, [], .ok (.ok v)⟩) :
    Transition p .peek q [] (.ok (some v))
  /-- The hot flow fails and the answer is that of the other one. -/
  | peekFallback {p q q' : Pifo V Q₀ Q₁} {e : QueueError} {a : Answer V} (holds : p.len ≠ 0)
      (asked : (subPeek p.hot).run p = ⟨q, [], .ok (.error e)⟩)
      (askedOther : (subPeek p.hot.other).run q = ⟨q', [], .ok a⟩) :
    Transition p .peek q' [] (a.map some)

/-- Every request has a way, whatever the counters say. -/
theorem exists_transition (p : Pifo V Q₀ Q₁) (r : Request V) :
    ∃ p' es a, Transition p r p' es a := by
  cases r with
  | push v =>
    by_cases hfull : p.capacity ≤ p.len
    · exact ⟨_, _, _, .pushFull hfull⟩
    · obtain ⟨q, a, asked⟩ := exists_subPush (p.classifier.classify v) v p
      have room := Nat.lt_of_not_le hfull
      cases a with
      | ok u => exact ⟨_, _, _, .pushAccepted room asked⟩
      | error e => exact ⟨_, _, _, .pushRefused room asked⟩
  | pop =>
    by_cases hempty : p.len = 0
    · exact ⟨_, _, _, .popEmpty hempty⟩
    · obtain ⟨q, a, asked⟩ := exists_subPop p.hot p
      cases a with
      | ok v => exact ⟨_, _, _, .popPrimary hempty asked⟩
      | error e =>
        obtain ⟨q', b, askedOther⟩ := exists_subPop p.hot.other q
        cases b with
        | ok v => exact ⟨_, _, _, .popFallback hempty asked askedOther⟩
        | error e' => exact ⟨_, _, _, .popFailed hempty asked askedOther⟩
  | peek =>
    by_cases hempty : p.len = 0
    · exact ⟨_, _, _, .peekEmpty hempty⟩
    · obtain ⟨q, a, asked⟩ := exists_subPeek p.hot p
      cases a with
      | ok v => exact ⟨_, _, _, .peekPrimary hempty asked⟩
      | error e =>
        obtain ⟨q', b, askedOther⟩ := exists_subPeek p.hot.other q
        exact ⟨_, _, _, .peekFallback hempty asked askedOther⟩

/-! ## Taking the way -/

omit [SubQueue Q₀ V] [SubQueue Q₁ V] [LE V] [DecidableLE V] in
/-- It does if it does so for each counter raised. -/
theorem staysInWord_iff {p p' : Pifo V Q₀ Q₁} (raised : List Counter)
    (once : ∀ c ∈ raised, raised.count c = 1)
    (hstats : p'.stats = raised.foldl Stats.bump p.stats) :
    StaysInWord p p' ↔
      (p.len < p'.len → p'.len < wordLimit) ∧ ∀ c ∈ raised, p.stats.get c + 1 < wordLimit := by
  have hget : ∀ c, p'.stats.get c = p.stats.get c + raised.count c := fun c => by
    rw [hstats, Stats.get_foldl_bump]
  constructor
  · intro h
    refine ⟨h.len, fun c hc => ?_⟩
    have hraised := h.stats c
    rw [hget, once c hc] at hraised
    exact hraised (Nat.lt_succ_self _)
  · rintro ⟨hlen, hraised⟩
    refine ⟨hlen, fun c hlt => ?_⟩
    rw [hget] at hlt ⊢
    have hc : c ∈ raised := List.count_pos_iff.mp (by omega)
    rw [once c hc]
    exact hraised c hc

/-- A push takes its way, or it faults where a counter or the length would leave the machine
word. -/
theorem Transition.run_push_or_fault {p p' : Pifo V Q₀ Q₁} {v : V} {es : List Event}
    {a : Response V} (h : Transition p (.push v) p' es a) :
    StaysInWord p p' ∧ (handle (.push v)).run p = ⟨p', es, .ok a⟩ ∨
      ¬ StaysInWord p p' ∧ ((handle (.push v)).run p).outcome = .error .addOverflow := by
  cases h with
  | pushFull full =>
    rw [staysInWord_iff [.pushesRejectedFull] (by simp) rfl]
    by_cases hw : p.stats.get .pushesRejectedFull + 1 < wordLimit
    · exact .inl (by simp [handle, push, full, run_count, hw, Except.map])
    · exact .inr (by simp [handle, push, full, run_count, hw])
  | @pushRefused q _ e room asked =>
    have same := sameControl_of_subPush asked
    have hfull : ¬ p.capacity ≤ p.len := Nat.not_le.mpr room
    rw [staysInWord_iff [.pushesRejectedFlow] (by simp) (by rw [← same.stats]; rfl),
      ← same.stats, ← same.len]
    by_cases hw : q.stats.get .pushesRejectedFlow + 1 < wordLimit
    · exact .inl (by simp [handle, push, hfull, asked, run_count, hw, Except.map])
    · exact .inr (by simp [handle, push, hfull, asked, run_count, hw])
  | @pushAccepted q _ room asked =>
    have same := sameControl_of_subPush asked
    have hfull : ¬ p.capacity ≤ p.len := Nat.not_le.mpr room
    have hroom : q.len < q.capacity := by rw [same.len, same.capacity]; exact room
    rw [staysInWord_iff [.pushesAccepted] (by simp) (by rw [← same.stats]; rfl),
      ← same.stats, ← same.len]
    by_cases hlen : q.len + 1 < wordLimit
    · by_cases hw : q.stats.get .pushesAccepted + 1 < wordLimit
      · exact .inl (by
          simp [handle, push, hfull, asked, run_grow, hroom, hlen, run_count, hw, Except.map])
      · exact .inr (by simp [handle, push, hfull, asked, run_grow, hroom, hlen, run_count, hw])
    · exact .inr (by simp [handle, push, hfull, asked, run_grow, hroom, hlen])

/-- A pop takes its way, or it faults where a counter would leave the machine word. -/
theorem Transition.run_pop_or_fault {p p' : Pifo V Q₀ Q₁} {es : List Event} {a : Response V}
    (h : Transition p .pop p' es a) :
    StaysInWord p p' ∧ (handle .pop).run p = ⟨p', es, .ok a⟩ ∨
      ¬ StaysInWord p p' ∧ ((handle .pop).run p).outcome = .error .addOverflow := by
  cases h with
  | popEmpty empty =>
    rw [staysInWord_iff [.popUnderflows] (by simp) rfl]
    by_cases hw : p.stats.get .popUnderflows + 1 < wordLimit
    · exact .inl (by simp [handle, pop, empty, run_count, hw, Except.map])
    · exact .inr (by simp [handle, pop, empty, run_count, hw])
  | @popPrimary q v holds asked =>
    have same := sameControl_of_subPop asked
    have hq : q.len ≠ 0 := by rw [same.len]; exact holds
    have hlen : ¬ q.len < q.len - 1 := Nat.not_lt.mpr (Nat.sub_le _ _)
    -- Two counters are raised; the first leaves the second as it was.
    have hserved := Stats.get_bump_of_ne q.stats
      (show Counter.served p.hot ≠ .popsPrimary by simp)
    rw [staysInWord_iff [.popsPrimary, .served p.hot] (by simp) (by rw [← same.stats]; rfl),
      ← same.stats, ← same.len]
    by_cases hw : q.stats.get .popsPrimary + 1 < wordLimit
    · by_cases hs : q.stats.get (.served p.hot) + 1 < wordLimit
      · exact .inl (by
          simp [handle, pop, holds, asked, flip, run_deliver, hq, hlen, run_count, hw, hserved, hs,
            Except.map])
      · exact .inr (by
          simp [handle, pop, holds, asked, flip, run_deliver, hq, run_count, hw, hserved, hs])
    · exact .inr (by simp [handle, pop, holds, asked, flip, run_count, hw])
  | @popFallback q q' e v holds asked askedOther =>
    have same := (sameControl_of_subPop asked).trans (sameControl_of_subPop askedOther)
    have hq : q'.len ≠ 0 := by rw [same.len]; exact holds
    have hlen : ¬ q'.len < q'.len - 1 := Nat.not_lt.mpr (Nat.sub_le _ _)
    have hserved := Stats.get_bump_of_ne q'.stats
      (show Counter.served p.hot.other ≠ .popsFallback by simp)
    rw [staysInWord_iff [.popsFallback, .served p.hot.other] (by simp)
      (by rw [← same.stats]; rfl), ← same.stats, ← same.len]
    by_cases hw : q'.stats.get .popsFallback + 1 < wordLimit
    · by_cases hs : q'.stats.get (.served p.hot.other) + 1 < wordLimit
      · exact .inl (by
          simp [handle, pop, holds, asked, askedOther, run_deliver, hq, hlen, run_count, hw,
            hserved, hs, Except.map])
      · exact .inr (by
          simp [handle, pop, holds, asked, askedOther, run_deliver, hq, run_count, hw, hserved, hs])
    · exact .inr (by simp [handle, pop, holds, asked, askedOther, run_count, hw])
  | @popFailed q q' e e' holds asked askedOther =>
    have same := (sameControl_of_subPop asked).trans (sameControl_of_subPop askedOther)
    rw [staysInWord_iff [.popUnderflows] (by simp) (by rw [← same.stats]; rfl), ← same.stats]
    by_cases hw : q'.stats.get .popUnderflows + 1 < wordLimit
    · exact .inl (by
        simp [handle, pop, holds, asked, askedOther, run_count, hw, same.len, Except.map])
    · exact .inr (by simp [handle, pop, holds, asked, askedOther, run_count, hw])

/-- A peek counts nothing, so it always takes its way. -/
theorem Transition.run_peek {p p' : Pifo V Q₀ Q₁} {es : List Event} {a : Response V}
    (h : Transition p .peek p' es a) :
    StaysInWord p p' ∧ (handle .peek).run p = ⟨p', es, .ok a⟩ := by
  cases h with
  | peekEmpty empty =>
    rw [staysInWord_iff [] (by simp) rfl]
    simp [handle, peek, empty, Except.map]
  | peekPrimary holds asked =>
    have same := sameControl_of_subPeek asked
    rw [staysInWord_iff [] (by simp) same.stats, same.len]
    simp [handle, peek, holds, asked, Except.map]
  | peekFallback holds asked askedOther =>
    have same := (sameControl_of_subPeek asked).trans (sameControl_of_subPeek askedOther)
    rw [staysInWord_iff [] (by simp) same.stats, same.len]
    simp [handle, peek, holds, asked, askedOther]

/-- A request takes its way, or it faults where something that it counts up would leave the machine
word. The fault is always that of a sum: the length counter is only raised below the capacity and
only lowered above zero. -/
theorem Transition.run_or_fault {p p' : Pifo V Q₀ Q₁} {r : Request V} {es : List Event}
    {a : Response V} (h : Transition p r p' es a) :
    StaysInWord p p' ∧ (handle r).run p = ⟨p', es, .ok a⟩ ∨
      ¬ StaysInWord p p' ∧ ((handle r).run p).outcome = .error .addOverflow := by
  cases r with
  | push v => exact h.run_push_or_fault
  | pop => exact h.run_pop_or_fault
  | peek => exact .inl h.run_peek

/-- **A way is taken exactly when all that it counts up stays a machine word.** -/
theorem Transition.run_iff {p p' : Pifo V Q₀ Q₁} {r : Request V} {es : List Event}
    {a : Response V} (h : Transition p r p' es a) :
    (handle r).run p = ⟨p', es, .ok a⟩ ↔ StaysInWord p p' := by
  rcases h.run_or_fault with ⟨hwords, hrun⟩ | ⟨hwords, hfault⟩
  · exact ⟨fun _ => hwords, fun _ => hrun⟩
  · refine ⟨fun hrun => ?_, fun hyes => absurd hyes hwords⟩
    rw [hrun] at hfault
    cases hfault

/-- **A request that is answered takes its way.** -/
theorem transition_of_run {p p' : Pifo V Q₀ Q₁} {r : Request V} {es : List Event} {a : Response V}
    (h : (handle r).run p = ⟨p', es, .ok a⟩) : Transition p r p' es a := by
  -- The request has some way; it took that one, since it did not fault.
  obtain ⟨q, fs, b, way⟩ := exists_transition p r
  rcases way.run_or_fault with ⟨-, hrun⟩ | ⟨-, hfault⟩
  · rw [h] at hrun
    cases hrun
    exact way
  · rw [h] at hfault
    cases hfault

/-! ## Headroom along a run -/

/-- A request raises no counter by more than one. -/
theorem Transition.get_stats_le {p p' : Pifo V Q₀ Q₁} {r : Request V} {es : List Event}
    {a : Response V} (h : Transition p r p' es a) (c : Counter) :
    p'.stats.get c ≤ p.stats.get c + 1 := by
  cases h with
  | pushFull | popEmpty => exact Stats.get_bump_le _ _ _
  | pushRefused _ asked | pushAccepted _ asked =>
    rw [← (sameControl_of_subPush asked).stats]
    exact Stats.get_bump_le _ _ _
  | popPrimary _ asked =>
    rw [← (sameControl_of_subPop asked).stats]
    exact Stats.get_bump_bump_le _ (by simp) _
  | popFallback _ asked askedOther =>
    rw [← ((sameControl_of_subPop asked).trans (sameControl_of_subPop askedOther)).stats]
    exact Stats.get_bump_bump_le _ (by simp) _
  | popFailed _ asked askedOther =>
    rw [← ((sameControl_of_subPop asked).trans (sameControl_of_subPop askedOther)).stats]
    exact Stats.get_bump_le _ _ _
  | peekEmpty => exact Nat.le_succ _
  | peekPrimary _ asked =>
    rw [(sameControl_of_subPeek asked).stats]
    exact Nat.le_succ _
  | peekFallback _ asked askedOther =>
    rw [((sameControl_of_subPeek asked).trans (sameControl_of_subPeek askedOther)).stats]
    exact Nat.le_succ _

/-- A request that lengthens the queue leaves it within the capacity. -/
theorem Transition.len_le {p p' : Pifo V Q₀ Q₁} {r : Request V} {es : List Event}
    {a : Response V} (h : Transition p r p' es a) (longer : p.len < p'.len) :
    p'.len ≤ p.capacity := by
  cases h with
  | pushFull | popEmpty | peekEmpty => exact absurd longer (Nat.lt_irrefl _)
  | pushRefused _ asked | pushAccepted room asked =>
    have hlen := (sameControl_of_subPush asked).len
    dsimp only at longer ⊢
    omega
  | popPrimary _ asked =>
    have hlen := (sameControl_of_subPop asked).len
    dsimp only at longer
    omega
  | popFallback _ asked askedOther | popFailed _ asked askedOther =>
    have hlen := ((sameControl_of_subPop asked).trans (sameControl_of_subPop askedOther)).len
    dsimp only at longer
    omega
  | peekPrimary _ asked =>
    have hlen := (sameControl_of_subPeek asked).len
    omega
  | peekFallback _ asked askedOther =>
    have hlen := ((sameControl_of_subPeek asked).trans (sameControl_of_subPeek askedOther)).len
    omega

/-- **A request with headroom is answered.** -/
theorem exists_run {p : Pifo V Q₀ Q₁} (h : Headroom 1 p) (r : Request V) :
    ∃ p' es a, (handle r).run p = ⟨p', es, .ok a⟩ := by
  obtain ⟨p', es, a, way⟩ := exists_transition p r
  refine ⟨p', es, a, way.run_iff.mpr ⟨fun longer => ?_, fun c _ => ?_⟩⟩
  · exact Nat.lt_of_le_of_lt (way.len_le longer) h.capacity
  · exact Nat.lt_of_le_of_lt (way.get_stats_le c) (h.stats c)

/-- No request changes the capacity or the classifier. -/
theorem Transition.fixed {p p' : Pifo V Q₀ Q₁} {r : Request V} {es : List Event} {a : Response V}
    (h : Transition p r p' es a) : p'.capacity = p.capacity ∧ p'.classifier = p.classifier := by
  cases h with
  | pushFull | popEmpty | peekEmpty => exact ⟨rfl, rfl⟩
  | pushRefused _ asked | pushAccepted _ asked =>
    have same := sameControl_of_subPush asked
    exact ⟨same.capacity, same.classifier⟩
  | popPrimary _ asked =>
    have same := sameControl_of_subPop asked
    exact ⟨same.capacity, same.classifier⟩
  | popFallback _ asked askedOther | popFailed _ asked askedOther =>
    have same := (sameControl_of_subPop asked).trans (sameControl_of_subPop askedOther)
    exact ⟨same.capacity, same.classifier⟩
  | peekPrimary _ asked =>
    have same := sameControl_of_subPeek asked
    exact ⟨same.capacity, same.classifier⟩
  | peekFallback _ asked askedOther =>
    have same := (sameControl_of_subPeek asked).trans (sameControl_of_subPeek askedOther)
    exact ⟨same.capacity, same.classifier⟩

/-- A request uses up one unit of headroom. -/
theorem Transition.headroom {p p' : Pifo V Q₀ Q₁} {r : Request V} {es : List Event}
    {a : Response V} {n : Nat} (h : Transition p r p' es a) (room : Headroom (n + 1) p) :
    Headroom n p' where
  capacity := h.fixed.1 ▸ room.capacity
  stats c := by
    have hle := h.get_stats_le c
    have hlt := room.stats c
    omega

/-! ## Lists of requests -/

/-- A list of requests is answered if its first request and then the others are. -/
theorem serve_cons {p p' : Pifo V Q₀ Q₁} {r : Request V} {rest : List (Request V)}
    {es : List Event} {answers : List (Response V)} :
    (serve (r :: rest)).run p = ⟨p', es, .ok answers⟩ ↔
      ∃ q es₁ a es₂ later, (handle r).run p = ⟨q, es₁, .ok a⟩ ∧
        (serve rest).run q = ⟨p', es₂, .ok later⟩ ∧ es = es₁ ++ es₂ ∧ answers = a :: later := by
  constructor
  · intro h
    -- A fault of the first request, or of a later one, would be the outcome of the list.
    rcases hr : (handle r).run p with ⟨q, es₁, _ | a⟩
    · simp [serve, hr] at h
    · rcases hrest : (serve rest).run q with ⟨q', es₂, _ | later⟩
      · simp [serve, hr, hrest] at h
      · simp only [serve, Action.run_bind, hr, hrest, Action.run_pure, Step.andThen_ok,
          List.append_nil, Step.mk.injEq, Except.ok.injEq] at h
        obtain ⟨rfl, rfl, rfl⟩ := h
        exact ⟨q, es₁, a, es₂, later, rfl, hrest, rfl, rfl⟩
  · rintro ⟨q, es₁, a, es₂, later, hr, hrest, rfl, rfl⟩
    simp [serve, hr, hrest]

/-- Two lists of requests one after the other are answered if the first and then the second is. -/
theorem serve_append {p p' : Pifo V Q₀ Q₁} {requests rest : List (Request V)} {es : List Event}
    {answers : List (Response V)} :
    (serve (requests ++ rest)).run p = ⟨p', es, .ok answers⟩ ↔
      ∃ q es₁ answers₁ es₂ answers₂, (serve requests).run p = ⟨q, es₁, .ok answers₁⟩ ∧
        (serve rest).run q = ⟨p', es₂, .ok answers₂⟩ ∧ es = es₁ ++ es₂ ∧
        answers = answers₁ ++ answers₂ := by
  induction requests generalizing p es answers with
  | nil =>
    constructor
    · intro h
      exact ⟨p, [], [], es, answers, rfl, h, rfl, rfl⟩
    · rintro ⟨q, es₁, answers₁, es₂, answers₂, hnil, hrest, rfl, rfl⟩
      cases hnil
      exact hrest
  | cons r requests ih =>
    constructor
    · intro h
      obtain ⟨q, es₁, a, es₂, later, hr, hlater, rfl, rfl⟩ := serve_cons.mp h
      obtain ⟨q', es₃, answers₃, es₄, answers₄, hfirst, hrest, rfl, rfl⟩ := ih.mp hlater
      refine ⟨q', es₁ ++ es₃, a :: answers₃, es₄, answers₄, ?_, hrest, ?_, rfl⟩
      · exact serve_cons.mpr ⟨q, es₁, a, es₃, answers₃, hr, hfirst, rfl, rfl⟩
      · exact (List.append_assoc ..).symm
    · rintro ⟨q', es₁, answers₁, es₂, answers₂, hfirst, hrest, rfl, rfl⟩
      obtain ⟨q, es₃, a, es₄, later, hr, hlater, rfl, rfl⟩ := serve_cons.mp hfirst
      refine serve_cons.mpr ⟨q, es₃, a, es₄ ++ es₂, later ++ answers₂, hr, ?_, ?_, rfl⟩
      · exact ih.mpr ⟨q', es₄, later, es₂, answers₂, hlater, hrest, rfl, rfl⟩
      · exact List.append_assoc ..

theorem length_of_serve {p p' : Pifo V Q₀ Q₁} {requests : List (Request V)} {es : List Event}
    {answers : List (Response V)} (h : (serve requests).run p = ⟨p', es, .ok answers⟩) :
    answers.length = requests.length := by
  induction requests generalizing p es answers with
  | nil =>
    cases h
    rfl
  | cons r rest ih =>
    obtain ⟨q, es₁, a, es₂, later, -, hlater, rfl, rfl⟩ := serve_cons.mp h
    exact congrArg (· + 1) (ih hlater)

/-- **Requests with headroom are answered**, each of them. -/
theorem exists_run_serve (requests : List (Request V)) {p : Pifo V Q₀ Q₁}
    (room : Headroom requests.length p) :
    ∃ p' es answers, (serve requests).run p = ⟨p', es, .ok answers⟩ := by
  induction requests generalizing p with
  | nil => exact ⟨p, [], [], rfl⟩
  | cons r rest ih =>
    obtain ⟨q, es₁, a, hr⟩ := exists_run (room.mono (by simp)) r
    obtain ⟨p', es₂, later, hrest⟩ := ih ((transition_of_run hr).headroom room)
    exact ⟨p', es₁ ++ es₂, a :: later, serve_cons.mpr ⟨q, es₁, a, es₂, later, hr, hrest, rfl, rfl⟩⟩

end Pifo

end TwoFlow
