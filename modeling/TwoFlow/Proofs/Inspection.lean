import TwoFlow.Property.Checker
import TwoFlow.Proofs.Lawful

/-!
# Requests served under inspection

The checker looks at a scheduler from outside and peeks into it. Over a *steady* sub-queue this does
no harm: a peek leaves the sub-queue as it is, and so the peeks around a request are silent and
agree with each other. What is left of an inspected request is the request itself, the check of the
state that it leaves, and the assessment of its answer.

An assessment that finds nothing wrong takes one of five ways. They are listed once, as the
constructors of `Checker.Passes`, with what each of them has checked.

## Main definitions

* `SubQueue.Steady`: a peek changes nothing, and a pop that fails does not change the length
* `Property.Checker.Passes`: the ways of an assessment that finds nothing wrong

## Main results

* `Pifo.Transition.flowLen_of_pop`: the length that a pop cannot have changed
* `Property.step_eq_ok_iff`: an inspected request, taken apart
* `Property.run_cons`, `Property.run_append`: the same of a list of requests
* `Property.Checker.passes_of_assess`: an assessment that finds nothing wrong takes its way
-/

namespace TwoFlow

/-! ## Steady sub-queues -/

/-- **A steady sub-queue**: a peek leaves it as it is, and a pop that fails leaves its length.
Nothing is assumed of a push, of the values answered, or of a pop that succeeds. -/
class SubQueue.Steady (Q : Type) {V : outParam Type} [SubQueue Q V] : Prop where
  peek_fst (q : Q) : (SubQueue.peek q).1 = q
  len_of_pop_error {q q' : Q} {e : QueueError} (failed : SubQueue.pop q = (q', .error e)) :
    SubQueue.len q' = SubQueue.len q

instance {V : Type} : SubQueue.Steady (Fifo V) where
  peek_fst _ := rfl
  len_of_pop_error {q q' e} failed := by
    obtain ⟨r, hpop, hitems, -⟩ := SubQueue.Lawful.pop_eq q
    obtain ⟨rfl, hanswer⟩ := Prod.mk.inj (hpop.symm.trans failed)
    -- It failed for want of values, and has none afterwards.
    rw [SubQueue.Lawful.len_eq, SubQueue.Lawful.len_eq, hitems,
      (Answer.ofHead_eq_error_iff.mp hanswer).1]
    rfl

namespace Pifo

variable {V Q₀ Q₁ : Type} [SubQueue Q₀ V] [SubQueue Q₁ V] {p p' : Pifo V Q₀ Q₁} {f : Flow}

@[simp] theorem flowLen_observe (p : Pifo V Q₀ Q₁) (f : Flow) :
    p.observe.flowLen f = p.flowLen f := by
  cases f <;> rfl

theorem flowLen_other_of_subPop {a : Answer V}
    (asked : (subPop f).run p = ⟨p', [], .ok a⟩) : p'.flowLen f.other = p.flowLen f.other := by
  cases f <;> cases asked <;> rfl

section Steady

variable [SubQueue.Steady Q₀] [SubQueue.Steady Q₁]

theorem flowLen_of_subPop_failed {e : QueueError}
    (asked : (subPop f).run p = ⟨p', [], .ok (.error e)⟩) : p'.flowLen f = p.flowLen f := by
  cases f with
  | zero | one =>
    simp only [subPop, Action.run_ofState, Step.mk.injEq, Except.ok.injEq] at asked
    obtain ⟨rfl, -, hanswer⟩ := asked
    exact SubQueue.Steady.len_of_pop_error (Prod.ext rfl hanswer)

theorem exists_subPeek_self (f : Flow) (p : Pifo V Q₀ Q₁) :
    ∃ a, (subPeek f).run p = ⟨p, [], .ok a⟩ := by
  cases f with
  | zero | one =>
    simp only [subPeek, Action.run_ofState, SubQueue.Steady.peek_fst]
    exact ⟨_, rfl⟩

/-- **A peek into steady sub-queues changes nothing.** -/
theorem exists_peek_self (p : Pifo V Q₀ Q₁) : ∃ a, peek.run p = ⟨p, [], .ok a⟩ := by
  by_cases hempty : p.len = 0
  · exact ⟨.error .underflow, by simp [peek, hempty]⟩
  · obtain ⟨a, ha⟩ := exists_subPeek_self p.hot p
    obtain ⟨b, hb⟩ := exists_subPeek_self p.hot.other p
    cases a with
    | ok v => exact ⟨.ok v, by simp [peek, hempty, ha]⟩
    | error e => exact ⟨b, by simp [peek, hempty, ha, hb]⟩

variable [LE V] [DecidableLE V]

omit [SubQueue.Steady Q₀] [SubQueue.Steady Q₁] in
theorem run_handle_peek {es : List Event} {a : Answer V} (h : peek.run p = ⟨p', es, .ok a⟩) :
    (handle .peek).run p = ⟨p', es, .ok (a.map some)⟩ := by
  simp [handle, h]

/-- **The length that a pop cannot have changed.** Where the hot flow served, it is that of the
other flow, which was not asked; where the other flow served, it is that of the hot flow, which
failed. The turn tells the two apart. -/
theorem Transition.flowLen_of_pop {es : List Event} {v : V}
    (way : Transition p .pop p' es (.ok (some v))) :
    p'.hot = p.hot.other ∧ p'.flowLen p.hot.other = p.flowLen p.hot.other ∨
      p'.hot = p.hot ∧ p'.flowLen p.hot = p.flowLen p.hot := by
  cases way with
  | @popPrimary q _ _ asked =>
    have same := sameControl_of_subPop asked
    have hlen : q.flowLen p.hot.other = p.flowLen p.hot.other := flowLen_other_of_subPop asked
    refine .inl ⟨congrArg Flow.other same.hot, ?_⟩
    rw [← hlen]
    cases p.hot.other <;> rfl
  | @popFallback q q' _ _ _ asked askedOther =>
    have same := (sameControl_of_subPop asked).trans (sameControl_of_subPop askedOther)
    have hfailed : q.flowLen p.hot = p.flowLen p.hot := flowLen_of_subPop_failed asked
    have hother := flowLen_other_of_subPop askedOther
    rw [Flow.other_other] at hother
    refine .inr ⟨same.hot, ?_⟩
    rw [← hfailed, ← hother]
    cases p.hot <;> rfl

end Steady

end Pifo

namespace Property

/-! ## Assessments that find nothing wrong -/

/-- A state in which nothing is wrong: its length is the sum of the lengths of the flows, and no
flow is above its capacity. -/
theorem of_checkState_eq_ok_nil {n flowCapacity : Nat} {o : Observation}
    (h : checkState n o flowCapacity = .ok []) :
    o.len = o.flow0Len + o.flow1Len ∧ ∀ f, o.flowLen f ≤ flowCapacity := by
  unfold checkState at h
  obtain ⟨flowSum, hsum, h⟩ := exists_of_bind_eq_ok h
  obtain ⟨capacity, -, h⟩ := exists_of_bind_eq_ok h
  obtain ⟨-, rfl⟩ := checkedAdd_eq_ok_iff.mp hsum
  obtain ⟨hlens, hflows⟩ := List.append_eq_nil_iff.mp (Except.ok.inj h)
  obtain ⟨hlen, -⟩ := List.append_eq_nil_iff.mp hlens
  refine ⟨by simpa using hlen, ?_⟩
  intro f
  have hflow := List.flatMap_eq_nil_iff.mp hflows f (by cases f <;> simp [Flow.all])
  simpa using hflow

namespace Checker

/-- **The ways of an assessment that finds nothing wrong**: the checker before it, what a peek gave
before the request, the states around the request, the request, the response and the checker after
it. -/
inductive Passes (c : Checker) (predicted : Answer Value) (before after : Observation) :
    Request Value → Response Value → Checker → Prop
  | pushAccepted {v : Value} (len : after.len = before.len + 1)
      (flowLen : after.flowLen (c.classifier.classify v) =
        before.flowLen (c.classifier.classify v) + 1)
      (hot : after.hot = before.hot) :
    Passes c predicted before after (.push v) (.ok none) (c.accept v)
  | pushRejected {v : Value} {e : QueueError}
      (full : c.flowCapacity * 2 ≤ before.len ∨
        c.flowCapacity ≤ before.flowLen (c.classifier.classify v))
      (overflow : e.isOverflow) (unchanged : after = before) :
    Passes c predicted before after (.push v) (.error e) c
  | popped {v : Value} (foreseen : predicted = .ok v)
      (oldest : (c.accepted.get (c.classifier.classify v)).head? = some v)
      (holds : 0 < before.len) (len : after.len = before.len - 1)
      (turn : c.classifier.classify v = before.hot ∧ after.hot = before.hot.other ∨
        c.classifier.classify v ≠ before.hot ∧ before.flowLen before.hot = 0 ∧
          after.hot = before.hot) :
    Passes c predicted before after .pop (.ok (some v)) (c.release v)
  | shown {v : Value} (oldest : (c.accepted.get (c.classifier.classify v)).head? = some v)
      (unchanged : after = before) :
    Passes c predicted before after .peek (.ok (some v)) c
  | empty {r : Request Value} {e : QueueError} (request : r = .pop ∨ r = .peek)
      (len : before.len = 0) (underflow : e.isUnderflow) (unchanged : after = before) :
    Passes c predicted before after r (.error e) c

theorem checkOldest_eq_nil_iff {c : Checker} {n : Nat} {v : Value} :
    c.checkOldest n v = [] ↔ (c.accepted.get (c.classifier.classify v)).head? = some v := by
  simp [checkOldest]

theorem checkUnchanged_eq_nil_iff {x : Exchange} :
    checkUnchanged x = [] ↔ x.after = x.before := by
  simp [checkUnchanged]

theorem checkTurn_eq_nil_iff {x : Exchange} {served : Flow} :
    checkTurn x served = [] ↔
      served = x.before.hot ∧ x.after.hot = x.before.hot.other ∨
        served ≠ x.before.hot ∧ x.before.flowLen x.before.hot = 0 ∧
          x.after.hot = x.before.hot := by
  by_cases hserved : served = x.before.hot <;> simp [checkTurn, hserved]

theorem assessRejectedPush_eq_nil_iff {c : Checker} {x : Exchange} {v : Value} {e : QueueError} :
    c.assessRejectedPush x v e = [] ↔
      ((c.flowCapacity * 2 ≤ x.before.len ∨
          c.flowCapacity ≤ x.before.flowLen (c.classifier.classify v)) ∧ e.isOverflow) ∧
        x.after = x.before := by
  simp [assessRejectedPush, checkUnchanged_eq_nil_iff]

theorem assessEmpty_eq_nil_iff {x : Exchange} {e : QueueError} :
    assessEmpty x e = [] ↔ (x.before.len = 0 ∧ e.isUnderflow) ∧ x.after = x.before := by
  simp [assessEmpty, checkUnchanged_eq_nil_iff]

theorem lengthened_eq_ok_true {x : Exchange} {flow : Flow} (h : lengthened x flow = .ok true) :
    x.after.len = x.before.len + 1 ∧ x.after.flowLen flow = x.before.flowLen flow + 1 := by
  unfold lengthened at h
  obtain ⟨len, hlen, h⟩ := exists_of_bind_eq_ok h
  obtain ⟨-, rfl⟩ := checkedAdd_eq_ok_iff.mp hlen
  split at h
  · rename_i hafter
    obtain ⟨flowLen, hflow, h⟩ := exists_of_bind_eq_ok h
    obtain ⟨-, rfl⟩ := checkedAdd_eq_ok_iff.mp hflow
    exact ⟨hafter, of_decide_eq_true (Except.ok.inj h)⟩
  · cases h

theorem assessPush_eq_ok_nil {x : Exchange} {v : Value} {c c' : Checker} {es : List Event}
    (h : (assessPush x v).run c = ⟨c', es, .ok []⟩) :
    c' = c.accept v ∧ lengthened x (c.classifier.classify v) = .ok true ∧
      x.after.hot = x.before.hot := by
  cases hgrown : lengthened x (c.classifier.classify v) with
  | error e => simp [assessPush, hgrown] at h
  | ok grown =>
    simp only [assessPush, hgrown, Action.run_bind, Action.run_get, Action.run_set, Action.run_lift,
      Action.run_pure, Step.andThen_ok, Step.mk.injEq, Except.ok.injEq, List.append_eq_nil_iff] at h
    obtain ⟨rfl, -, hlen, hhot⟩ := h
    exact ⟨rfl, by simpa using hlen, by simpa using hhot⟩

theorem assessPop_eq_ok_nil {x : Exchange} {v : Value} {c c' : Checker} {es : List Event}
    (h : (assessPop x v).run c = ⟨c', es, .ok []⟩) :
    c' = c.release v ∧ x.predicted = .ok v ∧ c.checkOldest x.step v = [] ∧
      (0 < x.before.len ∧ x.after.len = x.before.len - 1) ∧
      checkTurn x (c.classifier.classify v) = [] := by
  simp only [assessPop, Action.run_bind, Action.run_get, Action.run_set, Action.run_pure,
    Step.andThen_ok, Step.mk.injEq, Except.ok.injEq, List.append_eq_nil_iff] at h
  obtain ⟨rfl, -, ⟨⟨hpredicted, holdest⟩, hlen⟩, hturn⟩ := h
  exact ⟨rfl, by simpa using hpredicted, holdest, by simpa using hlen, hturn⟩

/-- **An assessment that finds nothing wrong takes its way.** -/
theorem passes_of_assess {x : Exchange} {c c' : Checker} {es : List Event}
    (h : (assess x).run c = ⟨c', es, .ok []⟩) :
    Passes c x.predicted x.before x.after x.request x.response c' := by
  obtain ⟨n, r, predicted, a, before, after⟩ := x
  rw [assess, Action.run_get_bind] at h
  rcases r with _ | _ | v <;> rcases a with e | (_ | w) <;> dsimp only at h ⊢
  case push.ok.none =>
    obtain ⟨rfl, hgrown, hhot⟩ := assessPush_eq_ok_nil h
    obtain ⟨hlen, hflow⟩ := lengthened_eq_ok_true hgrown
    exact .pushAccepted hlen hflow hhot
  case push.error =>
    obtain ⟨rfl, hnil⟩ := Action.eq_of_run_pure h
    obtain ⟨⟨hfull, hoverflow⟩, hunchanged⟩ := assessRejectedPush_eq_nil_iff.mp hnil
    exact .pushRejected hfull hoverflow hunchanged
  case pop.ok.some =>
    obtain ⟨rfl, hpredicted, holdest, ⟨hholds, hlen⟩, hturn⟩ := assessPop_eq_ok_nil h
    exact .popped hpredicted (checkOldest_eq_nil_iff.mp holdest) hholds hlen
      (checkTurn_eq_nil_iff.mp hturn)
  case peek.ok.some =>
    obtain ⟨rfl, hnil⟩ := Action.eq_of_run_pure h
    obtain ⟨holdest, hunchanged⟩ := List.append_eq_nil_iff.mp hnil
    exact .shown (checkOldest_eq_nil_iff.mp holdest) (checkUnchanged_eq_nil_iff.mp hunchanged)
  case pop.error =>
    obtain ⟨rfl, hnil⟩ := Action.eq_of_run_pure h
    obtain ⟨⟨hlen, hunderflow⟩, hunchanged⟩ := assessEmpty_eq_nil_iff.mp hnil
    exact .empty (.inl rfl) hlen hunderflow hunchanged
  case peek.error =>
    obtain ⟨rfl, hnil⟩ := Action.eq_of_run_pure h
    obtain ⟨⟨hlen, hunderflow⟩, hunchanged⟩ := assessEmpty_eq_nil_iff.mp hnil
    exact .empty (.inr rfl) hlen hunderflow hunchanged
  -- A response of the wrong kind is always reported.
  all_goals cases (Action.eq_of_run_pure h).2

/-- **An assessment changes nothing but what is on record**, and reports no event. -/
theorem exists_run_assess (x : Exchange) (c : Checker) :
    ∃ accepted outcome, (assess x).run c = ⟨{ c with accepted }, [], outcome⟩ := by
  obtain ⟨n, r, predicted, a, before, after⟩ := x
  rw [assess, Action.run_get_bind]
  rcases r with _ | _ | v <;> rcases a with e | (_ | w) <;> dsimp only
  case push.ok.none =>
    -- The lengths are added up in words, so this one may fault; the value is on record by then.
    rw [assessPush, Action.run_get_bind]
    cases lengthened _ (c.classifier.classify v) <;> exact ⟨_, _, rfl⟩
  case pop.ok.some =>
    exact ⟨_, _, rfl⟩
  all_goals exact ⟨c.accepted, _, rfl⟩

end Checker

/-! ## Inspected requests -/

variable {Q₀ Q₁ α : Type} [SubQueue Q₀ Value] [SubQueue Q₁ Value]

omit [SubQueue Q₀ Value] [SubQueue Q₁ Value] in
@[simp] theorem run_onPifo (x : Action Event (Pifo Value Q₀ Q₁) α) (s : Inspection Q₀ Q₁) :
    (onPifo x).run s =
      ⟨{ s with pifo := (x.run s.pifo).state }, (x.run s.pifo).events, (x.run s.pifo).outcome⟩ := by
  simp [onPifo, Action.focus, Action.run]

omit [SubQueue Q₀ Value] [SubQueue Q₁ Value] in
@[simp] theorem run_onChecker (x : Action Event Checker α) (s : Inspection Q₀ Q₁) :
    (onChecker x).run s =
      ⟨{ s with checker := (x.run s.checker).state }, (x.run s.checker).events,
        (x.run s.checker).outcome⟩ := by
  simp [onChecker, Action.focus, Action.run]

@[simp] theorem run_look (s : Inspection Q₀ Q₁) : look.run s = ⟨s, [], .ok s.pifo.observe⟩ := rfl

variable [SubQueue.Steady Q₀] [SubQueue.Steady Q₁] {s s' : Inspection Q₀ Q₁} {r : Request Value}
  {requests rest : List (Request Value)} {es : List Event} {a : Response Value}

theorem run_checkPeeks (n : Nat) (s : Inspection Q₀ Q₁) :
    (checkPeeks n s.pifo.observe).run s = ⟨s, [], .ok []⟩ := by
  obtain ⟨a, ha⟩ := Pifo.exists_peek_self s.pifo
  simp [checkPeeks, ha]

theorem run_step {predicted : Answer Value} {p' : Pifo Value Q₀ Q₁} {marks found : List Violation}
    {c' : Checker} (room : s.checker.steps + 1 < wordLimit)
    (hpeek : Pifo.peek.run s.pifo = ⟨s.pifo, [], .ok predicted⟩)
    (hr : (Pifo.handle r).run s.pifo = ⟨p', es, .ok a⟩)
    (hstate : checkState s.checker.steps p'.observe s.checker.flowCapacity = .ok marks)
    (hassess : (Checker.assess
        ⟨s.checker.steps, r, predicted, a, s.pifo.observe, p'.observe⟩).run
      { s.checker with steps := s.checker.steps + 1 } = ⟨c', [], .ok found⟩) :
    (step r).run s = ⟨⟨c'.report (marks ++ found), p'⟩, es, .ok a⟩ := by
  have hpeeks := run_checkPeeks s.checker.steps (⟨c', p'⟩ : Inspection Q₀ Q₁)
  simp [step, Checker.beginStep, checkedAdd, room, hpeek, hr, hstate, hassess, hpeeks]

/-- **An inspected request, taken apart.** The scheduler serves it as it would alone. -/
theorem step_eq_ok_iff :
    (step r).run s = ⟨s', es, .ok a⟩ ↔
      s.checker.steps + 1 < wordLimit ∧ ∃ predicted p' marks c' found,
        Pifo.peek.run s.pifo = ⟨s.pifo, [], .ok predicted⟩ ∧
        (Pifo.handle r).run s.pifo = ⟨p', es, .ok a⟩ ∧
        checkState s.checker.steps p'.observe s.checker.flowCapacity = .ok marks ∧
        (Checker.assess ⟨s.checker.steps, r, predicted, a, s.pifo.observe, p'.observe⟩).run
          { s.checker with steps := s.checker.steps + 1 } = ⟨c', [], .ok found⟩ ∧
        s' = ⟨c'.report (marks ++ found), p'⟩ := by
  constructor
  · intro h
    obtain ⟨predicted, hpeek⟩ := Pifo.exists_peek_self s.pifo
    -- Each part ended with a value, since a fault would be the outcome of the step.
    by_cases room : s.checker.steps + 1 < wordLimit
    · rcases hr : (Pifo.handle r).run s.pifo with ⟨p', es₁, _ | b⟩
      · simp [step, Checker.beginStep, checkedAdd, room, hpeek, hr] at h
      · rcases hstate : checkState s.checker.steps p'.observe s.checker.flowCapacity with _ | marks
        · simp [step, Checker.beginStep, checkedAdd, room, hpeek, hr, hstate] at h
        · obtain ⟨accepted, _ | found, hassess⟩ := Checker.exists_run_assess
            ⟨s.checker.steps, r, predicted, b, s.pifo.observe, p'.observe⟩
            { s.checker with steps := s.checker.steps + 1 }
          · simp [step, Checker.beginStep, checkedAdd, room, hpeek, hr, hstate, hassess] at h
          · cases h.symm.trans (run_step room hpeek hr hstate hassess)
            exact ⟨room, predicted, p', marks, _, found, hpeek, rfl, hstate, hassess, rfl⟩
    · simp [step, Checker.beginStep, checkedAdd, room] at h
  · rintro ⟨room, predicted, p', marks, c', found, hpeek, hr, hstate, hassess, rfl⟩
    exact run_step room hpeek hr hstate hassess

/-- No violation is taken back. -/
theorem violations_prefix_of_step (h : (step r).run s = ⟨s', es, .ok a⟩) :
    s.checker.violations <+: s'.checker.violations := by
  obtain ⟨-, predicted, p', marks, c', found, -, -, -, hassess, rfl⟩ := step_eq_ok_iff.mp h
  obtain ⟨accepted, outcome, hrecord⟩ := Checker.exists_run_assess
    ⟨s.checker.steps, r, predicted, a, s.pifo.observe, p'.observe⟩
    { s.checker with steps := s.checker.steps + 1 }
  cases hassess.symm.trans hrecord
  exact List.prefix_append _ _

omit [SubQueue.Steady Q₀] [SubQueue.Steady Q₁] in
/-- A list of requests is inspected to its end if its first request and then the others are. -/
theorem run_cons :
    (run (r :: rest)).run s = ⟨s', es, .ok ()⟩ ↔
      ∃ t es₁ a es₂, (step r).run s = ⟨t, es₁, .ok a⟩ ∧ (run rest).run t = ⟨s', es₂, .ok ()⟩ ∧
        es = es₁ ++ es₂ := by
  constructor
  · intro h
    rcases hr : (step r).run s with ⟨t, es₁, _ | a⟩
    · simp [run, hr] at h
    · simp only [run, Action.run_bind, hr, Step.andThen_ok, Step.mk.injEq] at h
      obtain ⟨rfl, rfl, hok⟩ := h
      refine ⟨t, es₁, a, ((run rest).run t).events, rfl, ?_, rfl⟩
      rw [← hok]
  · rintro ⟨t, es₁, a, es₂, hr, hrest, rfl⟩
    simp [run, hr, hrest]

omit [SubQueue.Steady Q₀] [SubQueue.Steady Q₁] in
theorem run_append :
    (run (requests ++ rest)).run s = ⟨s', es, .ok ()⟩ ↔
      ∃ t es₁ es₂, (run requests).run s = ⟨t, es₁, .ok ()⟩ ∧
        (run rest).run t = ⟨s', es₂, .ok ()⟩ ∧ es = es₁ ++ es₂ := by
  induction requests generalizing s es with
  | nil =>
    constructor
    · intro h
      exact ⟨s, [], es, rfl, h, rfl⟩
    · rintro ⟨t, es₁, es₂, hnil, hrest, rfl⟩
      cases hnil
      exact hrest
  | cons r requests ih =>
    constructor
    · intro h
      obtain ⟨t, es₁, a, es₂, hr, hlater, rfl⟩ := run_cons.mp h
      obtain ⟨u, es₃, es₄, hfirst, hrest, rfl⟩ := ih.mp hlater
      refine ⟨u, es₁ ++ es₃, es₄, ?_, hrest, (List.append_assoc ..).symm⟩
      exact run_cons.mpr ⟨t, es₁, a, es₃, hr, hfirst, rfl⟩
    · rintro ⟨u, es₁, es₂, hfirst, hrest, rfl⟩
      obtain ⟨t, es₃, a, es₄, hr, hlater, rfl⟩ := run_cons.mp hfirst
      refine run_cons.mpr ⟨t, es₃, a, es₄ ++ es₂, hr, ?_, List.append_assoc ..⟩
      exact ih.mpr ⟨u, es₄, es₂, hlater, hrest, rfl⟩

theorem violations_prefix_of_run (h : (run requests).run s = ⟨s', es, .ok ()⟩) :
    s.checker.violations <+: s'.checker.violations := by
  induction requests generalizing s es with
  | nil =>
    cases h
    exact List.prefix_refl _
  | cons r rest ih =>
    obtain ⟨t, es₁, a, es₂, hr, hrest, -⟩ := run_cons.mp h
    exact (violations_prefix_of_step hr).trans (ih hrest)

theorem clean_of_step (h : (step r).run s = ⟨s', es, .ok a⟩) (clean : s'.checker.violations = []) :
    s.checker.violations = [] := by
  have hprefix := violations_prefix_of_step h
  rw [clean] at hprefix
  exact List.prefix_nil.mp hprefix

theorem clean_of_run (h : (run requests).run s = ⟨s', es, .ok ()⟩)
    (clean : s'.checker.violations = []) : s.checker.violations = [] := by
  have hprefix := violations_prefix_of_run h
  rw [clean] at hprefix
  exact List.prefix_nil.mp hprefix

/-- **A step that finds nothing wrong**: the assessment takes its way, and nothing is wrong with the
state that the request leaves. -/
theorem passes_of_step (h : (step r).run s = ⟨s', es, .ok a⟩) (clean : s'.checker.violations = []) :
    ∃ predicted, Pifo.peek.run s.pifo = ⟨s.pifo, [], .ok predicted⟩ ∧
      (Pifo.handle r).run s.pifo = ⟨s'.pifo, es, .ok a⟩ ∧
      Checker.Passes { s.checker with steps := s.checker.steps + 1 } predicted s.pifo.observe
        s'.pifo.observe r a s'.checker ∧
      s'.pifo.len = s'.pifo.flowLen .zero + s'.pifo.flowLen .one ∧
      ∀ f, s'.pifo.flowLen f ≤ s.checker.flowCapacity := by
  obtain ⟨-, predicted, p', marks, c', found, hpeek, hr, hstate, hassess, rfl⟩ :=
    step_eq_ok_iff.mp h
  obtain ⟨hviolations, hnew⟩ := List.append_eq_nil_iff.mp clean
  obtain ⟨rfl, rfl⟩ := List.append_eq_nil_iff.mp hnew
  obtain ⟨hsum, hle⟩ := of_checkState_eq_ok_nil hstate
  refine ⟨predicted, hpeek, hr, ?_, hsum, fun f => ?_⟩
  · have hpasses := Checker.passes_of_assess hassess
    rw [Checker.report, List.append_nil, List.append_nil]
    exact hpasses
  · rw [← Pifo.flowLen_observe]
    exact hle f

end Property

end TwoFlow
