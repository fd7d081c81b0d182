import TwoFlow.Proofs.Accounts
import TwoFlow.Proofs.Transparency

/-!
# The record of the checker over queues that reorder

A sub-queue may hand its values out in any order it likes, as long as it hands out what it holds.
The checker reports that and goes on: it takes a value off its record that equals the one handed
out, the oldest of those, which need not be the one that the sub-queue has removed. So the record
and the sub-queue soon differ in their order. What they hold is the same for all that, value for
value, and the record keeps its own order, that of the pushes. It stays as long as the scheduler,
whatever has been reported.

## Main definitions

* `SubQueue.Unordered`: a sub-queue that appends what it takes in and hands out any value that it
  holds
* `Pifo.held`: what the sub-queue of each flow holds
* `Pifo.Moves`: what a request does to what is held
* `Property.Checker.noting`: what an exchange does to the record
* `Property.Matches`: the record holds what the sub-queues hold, in the order of the pushes
* `Stack`: a queue that hands its newest value out first

## Main results

* `Pifo.Transition.moves`: every request moves a value in, moves one out, or moves none
* `Property.Checker.exists_assess_noting`: what is on record does not depend on what is found wrong
* `Property.Matches.step`, `Property.Matches.run`: a request, and any requests, keep the record
  matching
* `Property.record_survives_reordering`: the record over sub-queues that reorder
-/

namespace TwoFlow

/-- **A sub-queue without an order of its own**: it appends what it accepts, and hands out some
value that it holds, from whatever place. A rejection leaves what it holds alone, and a peek leaves
the whole queue alone; what a peek answers is free, and so is when to reject. -/
class SubQueue.Unordered (Q : Type) {V : outParam Type} [SubQueue Q V] where
  /-- The values held. -/
  items : Q → List V
  len_eq (q : Q) : SubQueue.len q = (items q).length
  items_of_push {q q' : Q} {v : V} (accepted : SubQueue.push q v = (q', .ok ())) :
    items q' = items q ++ [v]
  items_of_push_error {q q' : Q} {v : V} {e : QueueError}
    (rejected : SubQueue.push q v = (q', .error e)) : items q' = items q
  items_of_pop {q q' : Q} {v : V} (handed : SubQueue.pop q = (q', .ok v)) :
    ∃ older newer, items q = older ++ v :: newer ∧ items q' = older ++ newer
  items_of_pop_error {q q' : Q} {e : QueueError} (failed : SubQueue.pop q = (q', .error e)) :
    items q' = items q
  peek_fst (q : Q) : (SubQueue.peek q).1 = q

instance {Q V : Type} [SubQueue Q V] [SubQueue.Unordered Q] : SubQueue.Steady Q where
  peek_fst := SubQueue.Unordered.peek_fst
  len_of_pop_error failed := by
    rw [SubQueue.Unordered.len_eq, SubQueue.Unordered.len_eq,
      SubQueue.Unordered.items_of_pop_error failed]

namespace Pifo

variable {V Q₀ Q₁ : Type} [SubQueue Q₀ V] [SubQueue Q₁ V] [SubQueue.Unordered Q₀]
  [SubQueue.Unordered Q₁] {p p' : Pifo V Q₀ Q₁} {f : Flow} {v : V} {e : QueueError}

/-- What the sub-queue of each flow holds. -/
def held (p : Pifo V Q₀ Q₁) : PerFlow (List V) :=
  ⟨SubQueue.Unordered.items p.queue0, SubQueue.Unordered.items p.queue1⟩

theorem flowLen_eq_length_held (p : Pifo V Q₀ Q₁) (f : Flow) :
    p.flowLen f = (p.held.get f).length := by
  cases f <;> exact SubQueue.Unordered.len_eq _

/-! ## Asking -/

theorem held_of_subPush (asked : (subPush f v).run p = ⟨p', [], .ok (.ok ())⟩) :
    p'.held = p.held.set f (p.held.get f ++ [v]) := by
  cases f with
  | zero | one =>
    simp only [subPush, Action.run_ofState, Step.mk.injEq, Except.ok.injEq] at asked
    obtain ⟨rfl, -, hanswer⟩ := asked
    simp only [held, SubQueue.Unordered.items_of_push (Prod.ext rfl hanswer)]
    rfl

theorem held_of_subPush_error (asked : (subPush f v).run p = ⟨p', [], .ok (.error e)⟩) :
    p'.held = p.held := by
  cases f with
  | zero | one =>
    simp only [subPush, Action.run_ofState, Step.mk.injEq, Except.ok.injEq] at asked
    obtain ⟨rfl, -, hanswer⟩ := asked
    simp only [held, SubQueue.Unordered.items_of_push_error (Prod.ext rfl hanswer)]

theorem exists_held_of_subPop (asked : (subPop f).run p = ⟨p', [], .ok (.ok v)⟩) :
    ∃ older newer, p.held.get f = older ++ v :: newer ∧
      p'.held = p.held.set f (older ++ newer) := by
  cases f with
  | zero | one =>
    simp only [subPop, Action.run_ofState, Step.mk.injEq, Except.ok.injEq] at asked
    obtain ⟨rfl, -, hanswer⟩ := asked
    obtain ⟨older, newer, hholds, hleft⟩ := SubQueue.Unordered.items_of_pop (Prod.ext rfl hanswer)
    refine ⟨older, newer, hholds, ?_⟩
    simp only [held, hleft]
    rfl

theorem held_of_subPop_error (asked : (subPop f).run p = ⟨p', [], .ok (.error e)⟩) :
    p'.held = p.held := by
  cases f with
  | zero | one =>
    simp only [subPop, Action.run_ofState, Step.mk.injEq, Except.ok.injEq] at asked
    obtain ⟨rfl, -, hanswer⟩ := asked
    simp only [held, SubQueue.Unordered.items_of_pop_error (Prod.ext rfl hanswer)]

theorem held_of_subPeek {a : Answer V} (asked : (subPeek f).run p = ⟨p', [], .ok a⟩) :
    p'.held = p.held := by
  cases f with
  | zero | one =>
    simp only [subPeek, Action.run_ofState, Step.mk.injEq, Except.ok.injEq] at asked
    obtain ⟨rfl, -, -⟩ := asked
    simp only [held, SubQueue.Unordered.peek_fst]

/-! ## The count -/

/-- **The scheduler counts what its sub-queues hold**, and is set up as its configuration says. -/
structure Counts (c : Config V) (p : Pifo V Q₀ Q₁) : Prop where
  valid : c.validate = .ok ()
  classifier : p.classifier = c.classifier
  capacity : p.capacity = c.flowCapacity * 2
  len : p.len = Backlog.len ⟨p.held, p.hot⟩
  len_le : p.len ≤ p.capacity

namespace Counts

variable {c : Config V}

theorem flowLen_le (h : Counts c p) (f : Flow) : p.flowLen f ≤ p.len := by
  have hlen := Backlog.len_eq ⟨p.held, p.hot⟩ f
  rw [flowLen_eq_length_held, h.len, hlen]
  exact Nat.le_add_right _ _

/-- The capacity of the whole is an even number, so one value more than it is still counted by a
machine word. -/
theorem len_succ_lt (h : Counts c p) : p.len + 1 < wordLimit := by
  have hcap := ((Config.validate_eq_ok_iff c).mp h.valid).2
  have hle := h.len_le
  rw [h.capacity] at hle
  have hlimit : wordLimit = 2 * 9223372036854775808 := rfl
  omega

theorem len_eq_add_flowLen (h : Counts c p) : p.len = p.flowLen .zero + p.flowLen .one := by
  rw [flowLen_eq_length_held, flowLen_eq_length_held, h.len]
  rfl

end Counts

theorem counts_of_build {c : Config V} {queue0 : Q₀} {queue1 : Q₁}
    (built : build c queue0 queue1 = .ok p) : Counts c p ∧ ∀ f, p.held.get f = [] := by
  obtain ⟨valid, ⟨-, hlen₀⟩, ⟨-, hlen₁⟩, rfl⟩ := build_eq_ok_iff.mp built
  rw [SubQueue.Unordered.len_eq, List.length_eq_zero_iff] at hlen₀ hlen₁
  refine ⟨⟨valid, rfl, Config.totalCapacity_of_validate valid, ?_, Nat.zero_le _⟩, ?_⟩
  · simp only [held, Backlog.len, hlen₀, hlen₁]
    rfl
  · intro f
    cases f with
    | zero => exact hlen₀
    | one => exact hlen₁

/-! ## What a request moves -/

variable [LE V] [DecidableLE V] {r : Request V} {a : Response V} {es : List Event}

/-- **What a request moves**: a value into the sub-queue of its flow, some value out of some
sub-queue, or nothing. -/
inductive Moves (p p' : Pifo V Q₀ Q₁) : Request V → Response V → Prop
  | taken {v : V} (room : p.len < p.capacity)
      (held : p'.held = p.held.set (p.classifier.classify v)
        (p.held.get (p.classifier.classify v) ++ [v]))
      (len : p'.len = p.len + 1) :
    Moves p p' (.push v) (.ok none)
  | handed {v : V} {f : Flow} {older newer : List V} (holds : p.held.get f = older ++ v :: newer)
      (held : p'.held = p.held.set f (older ++ newer)) (len : p'.len = p.len - 1) :
    Moves p p' .pop (.ok (some v))
  | idle {r : Request V} {a : Response V} (idle : r = .peek ∨ ∃ e, a = .error e)
      (held : p'.held = p.held) (len : p'.len = p.len) :
    Moves p p' r a

/-- **Every request moves a value in, moves one out, or moves none.** -/
theorem Transition.moves (way : Transition p r p' es a) : Moves p p' r a := by
  cases way with
  | pushFull => exact .idle (.inr ⟨_, rfl⟩) rfl rfl
  | pushRefused _ asked =>
    have hheld := held_of_subPush_error asked
    exact .idle (.inr ⟨_, rfl⟩) hheld (sameControl_of_subPush asked).len
  | pushAccepted room asked =>
    have hheld := held_of_subPush asked
    exact .taken room hheld (congrArg (· + 1) (sameControl_of_subPush asked).len)
  | popEmpty => exact .idle (.inr ⟨_, rfl⟩) rfl rfl
  | popPrimary _ asked =>
    obtain ⟨older, newer, hholds, hleft⟩ := exists_held_of_subPop asked
    exact .handed hholds hleft (congrArg (· - 1) (sameControl_of_subPop asked).len)
  | popFallback _ asked askedOther =>
    have same := (sameControl_of_subPop asked).trans (sameControl_of_subPop askedOther)
    obtain ⟨older, newer, hholds, hleft⟩ := exists_held_of_subPop askedOther
    -- The hot flow was asked in vain and has not lost anything by it.
    rw [held_of_subPop_error asked] at hholds hleft
    exact .handed hholds hleft (congrArg (· - 1) same.len)
  | popFailed _ asked askedOther =>
    have same := (sameControl_of_subPop asked).trans (sameControl_of_subPop askedOther)
    have hheld := (held_of_subPop_error askedOther).trans (held_of_subPop_error asked)
    exact .idle (.inr ⟨_, rfl⟩) hheld same.len
  | peekEmpty => exact .idle (.inl rfl) rfl rfl
  | peekPrimary _ asked =>
    exact .idle (.inl rfl) (held_of_subPeek asked) (sameControl_of_subPeek asked).len
  | peekFallback _ asked askedOther =>
    have same := (sameControl_of_subPeek asked).trans (sameControl_of_subPeek askedOther)
    exact .idle (.inl rfl) ((held_of_subPeek askedOther).trans (held_of_subPeek asked)) same.len

/-- **A request keeps the count right.** -/
theorem Counts.transition {c : Config V} (h : Counts c p) (way : Transition p r p' es a) :
    Counts c p' := by
  have hlen := h.len
  have hle := h.len_le
  refine ⟨h.valid, way.fixed.2.trans h.classifier, way.fixed.1.trans h.capacity, ?_, ?_⟩
  · cases way.moves with
    | idle _ hheld hsame =>
      rw [hsame, hlen, hheld]
      rfl
    | taken _ hheld hgrown =>
      rw [hgrown, hlen, hheld]
      exact (Backlog.len_set_append ⟨p.held, p.hot⟩ _ _ _).symm
    | @handed v f older newer hholds hheld hshrunk =>
      have hbefore := Backlog.len_eq ⟨p.held, p.hot⟩ f
      have hafter := Backlog.len_set ⟨p.held, p.hot⟩ f p'.hot (older ++ newer)
      simp only [hholds, List.length_append, List.length_cons] at hbefore hafter
      rw [hshrunk, hheld, hafter]
      omega
  · rw [way.fixed.1]
    cases way.moves with
    | idle _ _ hsame =>
      rw [hsame]
      exact hle
    | taken room _ hgrown =>
      rw [hgrown]
      exact room
    | handed _ _ hshrunk => omega

end Pifo

theorem accepted_of_idle {V : Type} {r : Request V} {a : Response V}
    (idle : r = .peek ∨ ∃ e, a = .error e) : accepted [(r, a)] = [] := by
  rcases idle with rfl | ⟨e, rfl⟩
  · rfl
  · exact accepted_error r e []

namespace Property

/-! ## What an exchange does to the record -/

namespace Checker

/-- What an exchange does to the record: a value accepted goes on record, and one handed out is
taken off it. -/
def noting (c : Checker) : Request Value → Response Value → Checker
  | .push v, .ok none => c.accept v
  | .pop, .ok (some v) => c.release v
  | _, _ => c

theorem noting_of_idle (c : Checker) {r : Request Value} {a : Response Value}
    (idle : r = .peek ∨ ∃ e, a = .error e) : c.noting r a = c := by
  rcases idle with rfl | ⟨e, rfl⟩
  · rfl
  · cases r <;> rfl

theorem noting_steps (c : Checker) (r : Request Value) (a : Response Value) :
    (c.noting r a).steps = c.steps := by
  fun_cases noting c r a <;> rfl

/-- A flow that a value is accepted for has it as its newest on record. -/
theorem toList_accept (c : Checker) (v : Value) (f : Flow) :
    ((c.accept v).accepted.get f).toList =
      (c.accepted.get f).toList ++ c.classifier.ofFlow f [v] := by
  by_cases hf : f = c.classifier.classify v
  · rw [accept, hf, PerFlow.get_set_self, Queue.toList_push, Classifier.ofFlow_singleton_self rfl]
  · rw [accept, PerFlow.get_set_of_ne _ _ hf, Classifier.ofFlow_singleton_of_ne rfl hf,
      List.append_nil]

theorem toList_release_self {c : Checker} {v : Value} {f : Flow}
    (hf : c.classifier.classify v = f) :
    ((c.release v).accepted.get f).toList = (c.accepted.get f).toList.erase v := by
  rw [release, hf, PerFlow.get_set_self, Queue.toList_erase]

theorem get_release_of_ne {c : Checker} {v : Value} {f : Flow} (hf : f ≠ c.classifier.classify v) :
    (c.release v).accepted.get f = c.accepted.get f :=
  PerFlow.get_set_of_ne _ _ hf

theorem exists_lengthened {x : Exchange} {f : Flow} (word : x.before.len + 1 < wordLimit)
    (flowWord : x.before.flowLen f + 1 < wordLimit) : ∃ grown, lengthened x f = .ok grown := by
  have hlen : checkedAdd x.before.len 1 = .ok (x.before.len + 1) :=
    checkedAdd_eq_ok_iff.mpr ⟨word, rfl⟩
  have hflow : checkedAdd (x.before.flowLen f) 1 = .ok (x.before.flowLen f + 1) :=
    checkedAdd_eq_ok_iff.mpr ⟨flowWord, rfl⟩
  unfold lengthened
  rw [hlen, hflow]
  simp only [bind, Except.bind]
  split <;> exact ⟨_, rfl⟩

/-- **An assessment notes the exchange**, whatever it finds wrong with it. -/
theorem exists_assess_noting (x : Exchange) (c : Checker) (word : x.before.len + 1 < wordLimit)
    (flowWord : ∀ f, x.before.flowLen f + 1 < wordLimit) :
    ∃ found, (assess x).run c = ⟨c.noting x.request x.response, [], .ok found⟩ := by
  obtain ⟨n, r, predicted, a, before, after⟩ := x
  rw [assess, Action.run_get_bind]
  rcases r with _ | _ | v <;> rcases a with e | (_ | w) <;> dsimp only
  case push.ok.none =>
    -- The one assessment that adds lengths up, and so the one that might fault.
    obtain ⟨grown, hgrown⟩ := exists_lengthened (f := c.classifier.classify v) word (flowWord _)
    rw [assessPush, Action.run_get_bind]
    simp only [Action.run_bind, Action.run_set, Step.andThen_ok, Action.run_lift, hgrown,
      Action.run_pure]
    exact ⟨_, rfl⟩
  all_goals exact ⟨_, rfl⟩

end Checker

theorem exists_checkState {n flowCapacity : Nat} {o : Observation}
    (sum : o.flow0Len + o.flow1Len < wordLimit) (total : flowCapacity * 2 < wordLimit) :
    ∃ marks, checkState n o flowCapacity = .ok marks := by
  have hsum : checkedAdd o.flow0Len o.flow1Len = .ok (o.flow0Len + o.flow1Len) :=
    checkedAdd_eq_ok_iff.mpr ⟨sum, rfl⟩
  have htotal : checkedMul flowCapacity 2 = .ok (flowCapacity * 2) :=
    checkedMul_eq_ok_iff.mpr ⟨total, rfl⟩
  unfold checkState
  rw [hsum, htotal]
  exact ⟨_, rfl⟩

/-! ## The record matches -/

variable {Q₀ Q₁ : Type} [SubQueue Q₀ Value] [SubQueue Q₁ Value] [SubQueue.Unordered Q₀]
  [SubQueue.Unordered Q₁] {c : Config Value} {s s' : Inspection Q₀ Q₁} {p' : Pifo Value Q₀ Q₁}
  {r : Request Value} {a : Response Value} {es : List Event} {requests : List (Request Value)}
  {taken : List Value}

/-- **The record matches what the sub-queues hold**: it has the same values for each flow, in the
order in which they were taken in. -/
structure Matches (c : Config Value) (s : Inspection Q₀ Q₁) (taken : List Value) : Prop where
  classifier : s.checker.classifier = c.classifier
  flowCapacity : s.checker.flowCapacity = c.flowCapacity
  counts : s.pifo.Counts c
  perm : ∀ f, (s.checker.accepted.get f).toList.Perm (s.pifo.held.get f)
  sublist : ∀ f, (s.checker.accepted.get f).toList.Sublist (c.classifier.ofFlow f taken)

namespace Matches

/-- A flow holds values of its own only: they are on record for it. -/
theorem classify_eq (h : Matches c s taken) {f : Flow} {v : Value} (hv : v ∈ s.pifo.held.get f) :
    c.classifier.classify v = f := by
  have hmem := (h.sublist f).subset ((h.perm f).mem_iff.mpr hv)
  exact of_decide_eq_true (List.mem_filter.mp hmem).2

theorem expectedLen_eq (h : Matches c s taken) : s.checker.expectedLen = s.pifo.len := by
  have hzero : s.checker.accepted.zero.toList.length = s.pifo.held.zero.length :=
    (h.perm .zero).length_eq
  have hone : s.checker.accepted.one.toList.length = s.pifo.held.one.length :=
    (h.perm .one).length_eq
  rw [h.counts.len, Checker.expectedLen, Queue.length_eq_length_toList,
    Queue.length_eq_length_toList, hzero, hone]
  rfl

/-- **An exchange that is noted keeps the record matching**, whatever is reported. -/
theorem noting (h : Matches c s taken) (way : Pifo.Transition s.pifo r p' es a) (n : Nat)
    (found : List Violation) :
    Matches c ⟨(Checker.noting { s.checker with steps := n } r a).report found, p'⟩
      (taken ++ accepted [(r, a)]) := by
  have hcounts := h.counts.transition way
  cases way.moves with
  | idle hidle hheld _ =>
    rw [Checker.noting_of_idle _ hidle, accepted_of_idle hidle, List.append_nil]
    refine ⟨h.classifier, h.flowCapacity, hcounts, ?_, h.sublist⟩
    intro f
    show (s.checker.accepted.get f).toList.Perm (p'.held.get f)
    rw [hheld]
    exact h.perm f
  | @taken v _ hheld _ =>
    rw [h.counts.classifier] at hheld
    refine ⟨h.classifier, h.flowCapacity, hcounts, ?_, ?_⟩
    · intro f
      show (((s.checker.accept v).accepted.get f).toList).Perm (p'.held.get f)
      rw [Checker.toList_accept, h.classifier, hheld,
        Backlog.get_set_append ⟨s.pifo.held, s.pifo.hot⟩ c v f]
      exact (h.perm f).append_right _
    · intro f
      show (((s.checker.accept v).accepted.get f).toList).Sublist _
      rw [Checker.toList_accept, h.classifier, Classifier.ofFlow_append]
      exact (h.sublist f).append (List.Sublist.refl _)
  | @handed v g older newer hholds hheld _ =>
    -- The value lay in `g`, so it is on record for `g`.
    have hclass : s.checker.classifier.classify v = g := by
      rw [h.classifier]
      exact h.classify_eq (hholds ▸ List.mem_append_right _ List.mem_cons_self)
    rw [accepted_pop, accepted_nil, List.append_nil]
    refine ⟨h.classifier, h.flowCapacity, hcounts, ?_, ?_⟩
    · intro f
      show (((s.checker.release v).accepted.get f).toList).Perm (p'.held.get f)
      by_cases hf : f = g
      · -- Which of the equal values goes is no matter: the others are the same values.
        have hperm := ((h.perm g).trans (hholds ▸ List.perm_middle)).erase v
        rw [List.erase_cons_head] at hperm
        rw [hf, Checker.toList_release_self hclass, hheld, PerFlow.get_set_self]
        exact hperm
      · rw [Checker.get_release_of_ne (hclass ▸ hf), hheld, PerFlow.get_set_of_ne _ _ hf]
        exact h.perm f
    · intro f
      show (((s.checker.release v).accepted.get f).toList).Sublist _
      by_cases hf : f = g
      · rw [hf, Checker.toList_release_self hclass]
        exact (List.erase_sublist ..).trans (h.sublist g)
      · rw [Checker.get_release_of_ne (hclass ▸ hf)]
        exact h.sublist f

/-- **The checker notes what the scheduler does**: an inspected request is served as it would be
alone, the exchange is noted, and what was wrong with it is reported. -/
theorem exists_step (h : Matches c s taken) (count : s.checker.steps + 1 < wordLimit)
    (hr : (Pifo.handle r).run s.pifo = ⟨p', es, .ok a⟩) :
    ∃ found, (step r).run s =
      ⟨⟨(Checker.noting { s.checker with steps := s.checker.steps + 1 } r a).report found, p'⟩, es,
        .ok a⟩ := by
  have hcounts := h.counts.transition (Pifo.transition_of_run hr)
  obtain ⟨predicted, hpeek⟩ := Pifo.exists_peek_self s.pifo
  obtain ⟨marks, hstate⟩ :
      ∃ marks, checkState s.checker.steps p'.observe s.checker.flowCapacity = .ok marks := by
    apply exists_checkState
    · have hword := hcounts.len_succ_lt
      rw [hcounts.len_eq_add_flowLen] at hword
      exact Nat.lt_of_succ_lt hword
    · rw [h.flowCapacity]
      exact ((Config.validate_eq_ok_iff c).mp h.counts.valid).2
  obtain ⟨found, hassess⟩ := Checker.exists_assess_noting
    ⟨s.checker.steps, r, predicted, a, s.pifo.observe, p'.observe⟩
    { s.checker with steps := s.checker.steps + 1 } h.counts.len_succ_lt (by
      intro f
      rw [Pifo.flowLen_observe]
      exact Nat.lt_of_le_of_lt (Nat.succ_le_succ (h.counts.flowLen_le f)) h.counts.len_succ_lt)
  exact ⟨marks ++ found, run_step count hpeek hr hstate hassess⟩

/-- **An inspected request keeps the record matching.** -/
theorem step (h : Matches c s taken) (hstep : (step r).run s = ⟨s', es, .ok a⟩) :
    (Pifo.handle r).run s.pifo = ⟨s'.pifo, es, .ok a⟩ ∧
      s'.checker.steps = s.checker.steps + 1 ∧ Matches c s' (taken ++ accepted [(r, a)]) := by
  obtain ⟨count, -, p', -, -, -, -, hr, -⟩ := step_eq_ok_iff.mp hstep
  -- There is one way to inspect a request, and it notes the exchange.
  obtain ⟨found, hnoted⟩ := h.exists_step count hr
  cases hstep.symm.trans hnoted
  exact ⟨hr, Checker.noting_steps _ _ _, h.noting (Pifo.transition_of_run hr) _ _⟩

/-- **Inspected requests are served to their end**, as far as the words of the counters go. -/
theorem exists_run (h : Matches c s taken) (room : s.pifo.Headroom requests.length)
    (count : s.checker.steps + requests.length < wordLimit) :
    ∃ s' es, (run requests).run s = ⟨s', es, .ok ()⟩ := by
  induction requests generalizing s taken with
  | nil => exact ⟨s, [], rfl⟩
  | cons r rest ih =>
    rw [List.length_cons] at room count
    obtain ⟨p', es₁, a, hr⟩ := Pifo.exists_run (room.mono (Nat.le_add_left 1 _)) r
    obtain ⟨found, hstep⟩ := h.exists_step (by omega) hr
    obtain ⟨-, hsteps, hnext⟩ := h.step hstep
    obtain ⟨s', es₂, hrest⟩ :=
      ih hnext ((Pifo.transition_of_run hr).headroom room) (by omega)
    exact ⟨s', es₁ ++ es₂, run_cons.mpr ⟨_, es₁, a, es₂, hstep, hrest, rfl⟩⟩

/-- **Inspected requests keep the record matching**, one after the other. -/
theorem run (h : Matches c s taken) (hrun : (run requests).run s = ⟨s', es, .ok ()⟩) :
    ∃ answers, (inspect requests).run s = ⟨s', es, .ok answers⟩ ∧
      (Pifo.serve requests).run s.pifo = ⟨s'.pifo, es, .ok answers⟩ ∧
      Matches c s' (taken ++ accepted (requests.zip answers)) := by
  induction requests generalizing s es taken with
  | nil =>
    cases hrun
    rw [← List.append_nil taken] at h
    exact ⟨[], rfl, rfl, h⟩
  | cons r rest ih =>
    obtain ⟨t, es₁, a, es₂, hstep, hrest, rfl⟩ := run_cons.mp hrun
    obtain ⟨hr, -, hnext⟩ := h.step hstep
    obtain ⟨later, hinspect, hserve, hlast⟩ := ih hnext hrest
    refine ⟨a :: later, ?_, ?_, ?_⟩
    · simp [inspect, hstep, hinspect]
    · exact Pifo.serve_cons.mpr ⟨t.pifo, es₁, a, es₂, later, hr, hserve, rfl, rfl⟩
    · rw [List.zip_cons_cons, accepted_cons, ← List.append_assoc]
      exact hlast

end Matches

theorem matches_of_build {queue0 : Q₀} {queue1 : Q₁} {p₀ : Pifo Value Q₀ Q₁}
    (built : Pifo.build c queue0 queue1 = .ok p₀) : Matches c ⟨.ofConfig c, p₀⟩ [] := by
  obtain ⟨hcounts, hempty⟩ := Pifo.counts_of_build built
  refine ⟨rfl, rfl, hcounts, ?_, ?_⟩
  · intro f
    rw [hempty]
    cases f <;> exact List.Perm.nil
  · intro f
    cases f <;> exact List.nil_sublist _

/-- **The record survives reordering.** Let a scheduler over sub-queues that append what they take
in, and hand out whatever they like of it, be inspected by a checker of its own configuration.
Requests that a machine word counts are served to their end. After whatever requests have been
served, the record of each flow has the values that its sub-queue holds, each as many times, and is
the list of the values accepted for the flow with some of them left out. So the record is as long as
the scheduler, whatever violations have been found. -/
theorem record_survives_reordering {queue0 : Q₀} {queue1 : Q₁} {p₀ : Pifo Value Q₀ Q₁}
    (built : Pifo.build c queue0 queue1 = .ok p₀) (requests : List (Request Value)) :
    (requests.length < wordLimit →
      ∃ s es, (run requests).run ⟨.ofConfig c, p₀⟩ = ⟨s, es, .ok ()⟩) ∧
    ∀ s es, (run requests).run ⟨.ofConfig c, p₀⟩ = ⟨s, es, .ok ()⟩ →
      ∃ answers, (inspect requests).run ⟨.ofConfig c, p₀⟩ = ⟨s, es, .ok answers⟩ ∧
        (Pifo.serve requests).run p₀ = ⟨s.pifo, es, .ok answers⟩ ∧
        (∀ f, (s.checker.accepted.get f).toList.Perm (s.pifo.held.get f) ∧
          (s.checker.accepted.get f).toList.Sublist
            (c.classifier.ofFlow f (accepted (requests.zip answers)))) ∧
        s.checker.expectedLen = s.pifo.len := by
  have hfresh := matches_of_build built
  constructor
  · intro few
    apply hfresh.exists_run (Pifo.headroom_of_build built few)
    rw [← Nat.zero_add requests.length] at few
    exact few
  · intro s es hrun
    obtain ⟨answers, hinspect, hserve, hlast⟩ := hfresh.run hrun
    exact ⟨answers, hinspect, hserve, fun f => ⟨hlast.perm f, hlast.sublist f⟩,
      hlast.expectedLen_eq⟩

end Property

/-! ## A queue that reorders -/

/-- A bounded queue that hands its newest value out first. -/
structure Stack (V : Type) where
  capacity : Nat
  /-- The values held, from the oldest to the newest. -/
  items : List V := []

namespace Stack

variable {V : Type}

/-- The newest value held. -/
def newest (q : Stack V) : Answer V :=
  match q.items.getLast? with
  | some v => .ok v
  | none => .error .underflow

instance : SubQueue (Stack V) V where
  push q v :=
    if q.items.length < q.capacity then ({ q with items := q.items ++ [v] }, .ok ())
    else (q, .error (.overflow q.items.length q.capacity))
  pop q := ({ q with items := q.items.dropLast }, q.newest)
  peek q := (q, q.newest)
  len q := q.items.length
  capacity := capacity

theorem newest_eq_ok_iff {q : Stack V} {v : V} :
    q.newest = .ok v ↔ ∃ older, q.items = older ++ [v] := by
  rw [newest, ← List.getLast?_eq_some_iff]
  cases q.items.getLast? <;> simp

theorem newest_eq_error {q : Stack V} {e : QueueError} (h : q.newest = .error e) :
    q.items = [] := by
  cases hlast : q.items.getLast? with
  | none => exact List.getLast?_eq_none_iff.mp hlast
  | some v =>
    rw [newest, hlast] at h
    cases h

instance : SubQueue.Unordered (Stack V) where
  items := items
  len_eq _ := rfl
  items_of_push {q q' v} accepted := by
    simp only [SubQueue.push] at accepted
    split at accepted
    · cases accepted
      rfl
    · cases accepted
  items_of_push_error {q q' v e} rejected := by
    simp only [SubQueue.push] at rejected
    split at rejected
    · cases rejected
    · cases rejected
      rfl
  items_of_pop {q q' v} handed := by
    obtain ⟨rfl, hnewest⟩ := Prod.mk.inj handed
    obtain ⟨older, hitems⟩ := newest_eq_ok_iff.mp hnewest
    refine ⟨older, [], hitems, ?_⟩
    simp [hitems]
  items_of_pop_error {q q' e} failed := by
    obtain ⟨rfl, hnewest⟩ := Prod.mk.inj failed
    simp [newest_eq_error hnewest]
  peek_fst _ := rfl

end Stack

namespace Property

/-- A value pushed twice, with another one between: the stack hands the newer of the two out and the
checker takes the older one off its record, so that the two are left with the same values in
different orders. -/
theorem record_survives_reordering_twice :
    ∃ p₀ : Pifo Value (Stack Value) (Stack Value),
      Pifo.build ⟨4, 200⟩ ⟨4, []⟩ ⟨4, []⟩ = .ok p₀ ∧
      ∃ s es, (run [.push 1, .push 2, .push 1, .push 3, .pop, .pop]).run ⟨.ofConfig ⟨4, 200⟩, p₀⟩ =
          ⟨s, es, .ok ()⟩ ∧
        s.checker.violations = [.fifoOrder 4 .zero (some 1) 3] ∧
        s.checker.accepted.zero.toList = [2, 1] ∧ s.pifo.queue0.items = [1, 2] ∧
        (s.checker.accepted.get .zero).toList.Perm (s.pifo.held.get .zero) ∧
        s.checker.expectedLen = s.pifo.len := by
  obtain ⟨p₀, built⟩ : ∃ p₀ : Pifo Value (Stack Value) (Stack Value),
      Pifo.build ⟨4, 200⟩ ⟨4, []⟩ ⟨4, []⟩ = .ok p₀ := ⟨_, rfl⟩
  obtain ⟨-, hall⟩ :=
    record_survives_reordering built [.push 1, .push 2, .push 1, .push 3, .pop, .pop]
  cases built
  obtain ⟨answers, -, -, hrecord, hlen⟩ := hall _ _ rfl
  exact ⟨_, rfl, _, _, rfl, rfl, rfl, rfl, (hrecord .zero).1, hlen⟩

end Property

end TwoFlow
