import TwoFlow.Proofs.Soundness

/-!
# The checker raises no false alarm and leaves no trace

A scheduler over lawful sub-queues takes the turns of its backlog, and a turn of a sound backlog
passes every check: its lengths move as they must, a value handed out is the oldest one on record, a
push is refused only by a full flow, and the turn is passed on only by the hot flow. So an inspected
request finds nothing wrong, and with nothing wrong the record follows the backlog, as it does for
any scheduler that is not reported.

That the scheduler does not notice the inspection needs sub-queues that are steady as well: the
peeks around a request then leave the very same scheduler behind, and not only one that holds the
same values.

## Main definitions

* `Property.inspect`: inspected requests with their responses
* `Property.Quiet`: nothing has been reported, and the record holds what the sub-queues hold

## Main results

* `Property.Checker.run_assess_of_passes`: what passes is not reported
* `Property.Tracks.exists_passes`: a turn of a sound backlog passes
* `Property.Quiet.exists_step`, `Property.Quiet.exists_inspect`: a request, and any requests, are
  served under inspection as they are without it
* `Property.run_raises_no_alarm`: the checker over the stock queues
-/

namespace TwoFlow

namespace Backlog

variable {V : Type} {b : Backlog V} {f : Flow}

theorem len_pos {v : V} {rest : List V} (hf : b.flows.get f = v :: rest) : 0 < b.len := by
  rw [len_eq b f, hf, List.length_cons]
  omega

theorem len_eq_zero (hf : b.flows.get f = []) (hother : b.flows.get f.other = []) : b.len = 0 := by
  rw [len_eq b f, hf, hother]
  rfl

variable [LE V] [DecidableLE V] {c : Config V}

/-- What a sound backlog of a valid configuration holds is counted by a machine word. -/
theorem Sound.len_lt (h : b.Sound c) (valid : c.validate = .ok ()) : b.len < wordLimit :=
  Nat.lt_of_le_of_lt h.len_le ((Config.validate_eq_ok_iff c).mp valid).2

theorem Sound.length_lt (h : b.Sound c) (valid : c.validate = .ok ()) (f : Flow) :
    (b.flows.get f).length < wordLimit := by
  have hlen := h.len_lt valid
  rw [len_eq b f] at hlen
  exact Nat.lt_of_le_of_lt (Nat.le_add_right _ _) hlen

end Backlog

namespace Property

/-! ## What passes is not reported -/

/-- The state of a sound backlog has nothing wrong with it. -/
theorem checkState_observe {c : Config Value} {b : Backlog Value} (hb : b.Sound c)
    (valid : c.validate = .ok ()) (n : Nat) : checkState n b.observe c.flowCapacity = .ok [] := by
  have hword : c.flowCapacity * 2 < wordLimit := ((Config.validate_eq_ok_iff c).mp valid).2
  have hsum : checkedAdd b.observe.flow0Len b.observe.flow1Len = .ok b.observe.len :=
    checkedAdd_eq_ok_iff.mpr ⟨hb.len_lt valid, rfl⟩
  have htotal : checkedMul c.flowCapacity 2 = .ok (c.flowCapacity * 2) :=
    checkedMul_eq_ok_iff.mpr ⟨hword, rfl⟩
  have hlen : ¬ c.flowCapacity * 2 < b.observe.len := Nat.not_lt.mpr hb.len_le
  have hflow : ∀ f, ¬ c.flowCapacity < b.observe.flowLen f := by
    intro f
    rw [Backlog.flowLen_observe]
    exact Nat.not_lt.mpr (hb.length_le f)
  simp only [checkState, hsum, htotal, hlen, hflow, bind, Except.bind, if_true, if_false]
  rfl

namespace Checker

theorem lengthened_eq_true {x : Exchange} {flow : Flow} (len : x.after.len = x.before.len + 1)
    (flowLen : x.after.flowLen flow = x.before.flowLen flow + 1) (word : x.after.len < wordLimit)
    (flowWord : x.after.flowLen flow < wordLimit) : lengthened x flow = .ok true := by
  have hlen : checkedAdd x.before.len 1 = .ok x.after.len :=
    checkedAdd_eq_ok_iff.mpr ⟨len ▸ word, len⟩
  have hflow : checkedAdd (x.before.flowLen flow) 1 = .ok (x.after.flowLen flow) :=
    checkedAdd_eq_ok_iff.mpr ⟨flowLen ▸ flowWord, flowLen⟩
  simp only [lengthened, hlen, hflow, bind, Except.bind, if_true, decide_true]
  rfl

/-- **What passes is not reported**, as long as the lengths after the request are machine words. -/
theorem run_assess_of_passes {x : Exchange} {c c' : Checker}
    (h : Passes c x.predicted x.before x.after x.request x.response c')
    (word : x.after.len < wordLimit) (flowWord : ∀ f, x.after.flowLen f < wordLimit) :
    (assess x).run c = ⟨c', [], .ok []⟩ := by
  obtain ⟨n, r, predicted, a, before, after⟩ := x
  dsimp only at h word flowWord
  rw [assess, Action.run_get_bind]
  cases h with
  | @pushAccepted v len flowLen hot =>
    have hgrown : lengthened ⟨n, .push v, predicted, .ok none, before, after⟩
        (c.classifier.classify v) = .ok true :=
      lengthened_eq_true len flowLen word (flowWord _)
    simp [assessPush, hgrown, hot]
  | @pushRejected v e full overflow unchanged =>
    have hnil : c.assessRejectedPush ⟨n, .push v, predicted, .error e, before, after⟩ v e = [] :=
      assessRejectedPush_eq_nil_iff.mpr ⟨⟨full, overflow⟩, unchanged⟩
    simp [hnil]
  | @popped v foreseen oldest holds len turn =>
    have hturn : checkTurn ⟨n, .pop, predicted, .ok (some v), before, after⟩
        (c.classifier.classify v) = [] := checkTurn_eq_nil_iff.mpr turn
    have holdest : c.checkOldest n v = [] := checkOldest_eq_nil_iff.mpr oldest
    subst foreseen
    simp [assessPop, hturn, holdest, holds, len]
  | @shown v oldest unchanged =>
    have holdest : c.checkOldest n v = [] := checkOldest_eq_nil_iff.mpr oldest
    have hunchanged : checkUnchanged ⟨n, .peek, predicted, .ok (some v), before, after⟩ = [] :=
      checkUnchanged_eq_nil_iff.mpr unchanged
    simp [holdest, hunchanged]
  | @empty r e request len underflow unchanged =>
    have hnil : assessEmpty ⟨n, r, predicted, .error e, before, after⟩ e = [] :=
      assessEmpty_eq_nil_iff.mpr ⟨⟨len, underflow⟩, unchanged⟩
    rcases request with rfl | rfl
    · simp [hnil]
    · simp [hnil]

end Checker

/-! ## Turns pass -/

variable {Q₀ Q₁ : Type} [SubQueue Q₀ Value] [SubQueue Q₁ Value] {c : Config Value}
  {s s' : Inspection Q₀ Q₁} {b : Backlog Value} {es : List Event}
  {requests : List (Request Value)} {answers : List (Response Value)}

theorem eq_ok_of_map_some {answer : Answer Value} {v : Value}
    (h : answer.map some = .ok (some v)) : answer = .ok v := by
  cases answer with
  | error e => cases h
  | ok w =>
    cases h
    rfl

/-- The oldest value of a flow is the oldest one on record for the flow of the value. -/
theorem Tracks.oldest (h : Tracks c s b) {f : Flow} {v : Value} {rest : List Value}
    (hf : b.flows.get f = v :: rest) :
    s.checker.classifier.classify v = f ∧
      (s.checker.accepted.get (s.checker.classifier.classify v)).head? = some v := by
  have hclass : s.checker.classifier.classify v = f := by
    rw [h.classifier]
    exact h.sound.classify_eq f v (hf ▸ List.mem_cons_self)
  refine ⟨hclass, ?_⟩
  rw [hclass]
  exact h.head?_eq_some_iff.mpr ⟨rest, hf⟩

/-- **A turn of a sound backlog passes**, where a peek has shown what the turn of a peek shows. -/
theorem Tracks.exists_passes (h : Tracks c s b) {predicted : Answer Value}
    (hpredicted : predicted.map some = (b.turn c .peek).response) (n : Nat) (r : Request Value) :
    ∃ checker, Checker.Passes { s.checker with steps := n } predicted b.observe
      (b.turn c r).next.observe r (b.turn c r).response checker := by
  cases r with
  | push v =>
    rcases Backlog.turn_push_cases c b v with ⟨hfull, hturn⟩ | ⟨-, hflow, hturn⟩ | ⟨-, -, hturn⟩ <;>
      rw [hturn]
    · refine ⟨_, .pushRejected (.inl ?_) rfl rfl⟩
      rw [← h.flowCapacity] at hfull
      exact Nat.le_of_eq hfull.symm
    · refine ⟨_, .pushRejected (.inr ?_) rfl rfl⟩
      rw [Backlog.flowLen_observe, h.classifier, hflow]
      exact Nat.le_of_eq h.flowCapacity
    · refine ⟨_, .pushAccepted (Backlog.len_set_append ..) ?_ rfl⟩
      rw [Backlog.flowLen_observe, Backlog.flowLen_observe, h.classifier, PerFlow.get_set_self,
        List.length_append]
      rfl
  | pop =>
    rw [Backlog.response_turn_peek] at hpredicted
    rcases Backlog.turn_pop_cases c b with
      ⟨v, rest, hhot, hturn⟩ | ⟨v, rest, hhot, hother, hturn⟩ | ⟨hhot, hother, hturn⟩ <;>
      rw [hturn] at hpredicted ⊢
    · obtain ⟨hclass, holdest⟩ := h.oldest hhot
      refine ⟨_, .popped (eq_ok_of_map_some hpredicted) holdest (Backlog.len_pos hhot)
        (Backlog.len_set_rest hhot _) (.inl ⟨hclass, rfl⟩)⟩
    · -- The value is of the other flow, and the hot flow has none.
      obtain ⟨hclass, holdest⟩ := h.oldest hother
      refine ⟨_, .popped (eq_ok_of_map_some hpredicted) holdest (Backlog.len_pos hother)
        (Backlog.len_set_rest hother _) (.inr ⟨?_, ?_, rfl⟩)⟩
      · exact fun heq => Flow.other_ne _ (hclass.symm.trans heq)
      · rw [Backlog.flowLen_observe]
        exact List.length_eq_zero_iff.mpr hhot
    · exact ⟨_, .empty (.inl rfl) (Backlog.len_eq_zero hhot hother) rfl rfl⟩
  | peek =>
    rw [Backlog.response_turn_peek, Backlog.turn_peek]
    rcases Backlog.turn_pop_cases c b with
      ⟨v, rest, hhot, hturn⟩ | ⟨v, rest, hhot, hother, hturn⟩ | ⟨hhot, hother, hturn⟩ <;> rw [hturn]
    · exact ⟨_, .shown (h.oldest hhot).2 rfl⟩
    · exact ⟨_, .shown (h.oldest hother).2 rfl⟩
    · exact ⟨_, .empty (.inr rfl) (Backlog.len_eq_zero hhot hother) rfl rfl⟩

/-! ## Requests under inspection -/

/-- Serves requests under inspection, and gives the responses. -/
def inspect : List (Request Value) → Action Event (Inspection Q₀ Q₁) (List (Response Value))
  | [] => return []
  | r :: rest => do
    let response ← step r
    return response :: (← inspect rest)

/-- The checker's own run does the same and keeps the responses to itself. -/
theorem run_of_inspect (h : (inspect requests).run s = ⟨s', es, .ok answers⟩) :
    (run requests).run s = ⟨s', es, .ok ()⟩ := by
  induction requests generalizing s es answers with
  | nil =>
    cases h
    rfl
  | cons r rest ih =>
    unfold inspect at h
    obtain ⟨t, es₁, a, es₂, hr, hlater, rfl⟩ := Action.exists_of_run_bind h
    obtain ⟨t', es₃, later, es₄, hrest, hdone, rfl⟩ := Action.exists_of_run_bind hlater
    cases hdone
    rw [List.append_nil]
    exact run_cons.mpr ⟨t, es₁, a, es₃, hr, ih hrest, rfl⟩

variable [SubQueue.Lawful Q₀] [SubQueue.Lawful Q₁] [SubQueue.Steady Q₀] [SubQueue.Steady Q₁]

/-- **A quiet inspection**: the scheduler is sound, the record holds what its sub-queues hold, and
nothing has been reported. -/
structure Quiet (c : Config Value) (s : Inspection Q₀ Q₁) : Prop where
  sound : s.pifo.Sound c
  tracks : Tracks c s s.pifo.backlog
  clean : s.checker.violations = []

/-- **A request keeps an inspection quiet**, and the scheduler serves it as it would alone. -/
theorem Quiet.exists_step (h : Quiet c s) (room : s.pifo.Headroom 1)
    (count : s.checker.steps + 1 < wordLimit) (r : Request Value) :
    ∃ s' es a, (step r).run s = ⟨s', es, .ok a⟩ ∧
      (Pifo.handle r).run s.pifo = ⟨s'.pifo, es, .ok a⟩ ∧ Quiet c s' ∧
      s'.checker.steps = s.checker.steps + 1 := by
  obtain ⟨p', es, a, hr⟩ := Pifo.exists_run room r
  have way := Pifo.transition_of_run hr
  have taken := h.sound.takes way
  have hsound := h.sound.transition way
  obtain ⟨predicted, hpeek⟩ := Pifo.exists_peek_self s.pifo
  have shown := h.sound.takes (Pifo.transition_of_run (Pifo.run_handle_peek hpeek))
  obtain ⟨checker, hpasses⟩ := h.tracks.exists_passes shown.response (s.checker.steps + 1) r
  -- The states around the request are those of the backlog before and after its turn.
  have hnext : (s.pifo.backlog.turn c r).next.Sound c := h.sound.backlog.turn r
  have hafter : p'.observe = (s.pifo.backlog.turn c r).next.observe := by
    rw [hsound.observe_eq, taken.backlog]
  rw [← h.sound.observe_eq, ← hafter, ← taken.response] at hpasses
  have hassess := Checker.run_assess_of_passes
    (x := ⟨s.checker.steps, r, predicted, a, s.pifo.observe, p'.observe⟩) hpasses
    (by
      rw [hafter]
      exact hnext.len_lt h.sound.valid)
    (fun f => by
      rw [hafter, Backlog.flowLen_observe]
      exact hnext.length_lt h.sound.valid f)
  have hstate : checkState s.checker.steps p'.observe s.checker.flowCapacity = .ok [] := by
    rw [hafter, h.tracks.flowCapacity]
    exact checkState_observe hnext h.sound.valid _
  have hstep := run_step count hpeek hr hstate hassess
  -- An assessment writes nothing but the record.
  obtain ⟨accepted, outcome, hrecord⟩ := Checker.exists_run_assess
    ⟨s.checker.steps, r, predicted, a, s.pifo.observe, p'.observe⟩
    { s.checker with steps := s.checker.steps + 1 }
  cases hassess.symm.trans hrecord
  have hclean : s.checker.violations ++ [] = [] := by
    rw [h.clean]
    rfl
  have htracks := (h.tracks.step hstep hclean).1
  rw [← taken.backlog] at htracks
  exact ⟨_, es, a, hstep, hr, ⟨hsound, htracks, hclean⟩, rfl⟩

/-- **Any requests keep an inspection quiet**, and the scheduler serves them as it would alone. -/
theorem Quiet.exists_inspect (h : Quiet c s) (room : s.pifo.Headroom requests.length)
    (count : s.checker.steps + requests.length < wordLimit) :
    ∃ s' es answers, (inspect requests).run s = ⟨s', es, .ok answers⟩ ∧
      (Pifo.serve requests).run s.pifo = ⟨s'.pifo, es, .ok answers⟩ ∧ Quiet c s' ∧
      s'.checker.steps = s.checker.steps + requests.length := by
  induction requests generalizing s with
  | nil => exact ⟨s, [], [], rfl, rfl, h, rfl⟩
  | cons r rest ih =>
    rw [List.length_cons] at room count
    obtain ⟨t, es₁, a, hstep, hr, hquiet, hsteps⟩ :=
      h.exists_step (room.mono (by omega)) (by omega) r
    obtain ⟨s', es₂, later, hinspect, hserve, hquiet', hsteps'⟩ :=
      ih hquiet ((Pifo.transition_of_run hr).headroom room) (by omega)
    refine ⟨s', es₁ ++ es₂, a :: later, ?_, ?_, hquiet', ?_⟩
    · simp [inspect, hstep, hinspect]
    · exact Pifo.serve_cons.mpr ⟨t.pifo, es₁, a, es₂, later, hr, hserve, rfl, rfl⟩
    · rw [hsteps', hsteps, List.length_cons]
      omega

omit [SubQueue.Steady Q₀] [SubQueue.Steady Q₁] in
theorem Quiet.expectedLen_eq (h : Quiet c s) : s.checker.expectedLen = s.pifo.len := by
  have hzero : s.checker.accepted.zero.toList = s.pifo.items.zero := h.tracks.accepted .zero
  have hone : s.checker.accepted.one.toList = s.pifo.items.one := h.tracks.accepted .one
  rw [h.sound.len, Checker.expectedLen, Queue.length_eq_length_toList,
    Queue.length_eq_length_toList, hzero, hone]
  rfl

omit [SubQueue.Steady Q₀] [SubQueue.Steady Q₁] in
theorem quiet_of_build {queue0 : Q₀} {queue1 : Q₁} {p₀ : Pifo Value Q₀ Q₁}
    (built : Pifo.build c queue0 queue1 = .ok p₀) : Quiet c ⟨.ofConfig c, p₀⟩ := by
  obtain ⟨hsound, hempty, -⟩ := Pifo.sound_of_build built
  refine ⟨hsound, ?_, rfl⟩
  rw [hempty]
  exact tracks_of_build built

/-- **No false alarm, and no trace.** Let a scheduler over the stock queues and a checker be built
of the same valid configuration, and let requests that a machine word counts be served under
inspection. Every one of them is served to its end. After each of them no violation has been found,
the steps are counted, and the record holds what the sub-queues hold, value for value, so that its
length is that of the scheduler. The responses, the events and the scheduler itself, with its
sub-queues, its turn, its length and its statistics, are those of the same requests without the
checker. -/
theorem run_raises_no_alarm {c : Config Value} (valid : c.validate = .ok ())
    (requests : List (Request Value)) (few : requests.length < wordLimit) :
    ∃ p₀, Pifo.withFifos c = .ok p₀ ∧ ∀ served, served <+: requests →
      ∃ s es answers, (run served).run ⟨.ofConfig c, p₀⟩ = ⟨s, es, .ok ()⟩ ∧
        s.checker.violations = [] ∧ s.checker.steps = served.length ∧
        s.checker.accepted.zero.toList = s.pifo.queue0.items.toList ∧
        s.checker.accepted.one.toList = s.pifo.queue1.items.toList ∧
        s.checker.expectedLen = s.pifo.len ∧
        (inspect served).run ⟨.ofConfig c, p₀⟩ = ⟨s, es, .ok answers⟩ ∧
        (Pifo.serve served).run p₀ = ⟨s.pifo, es, .ok answers⟩ := by
  obtain ⟨p₀, built⟩ := Pifo.exists_withFifos valid
  refine ⟨p₀, built, fun served hserved => ?_⟩
  obtain ⟨hsound, -, hstats⟩ := Pifo.sound_of_build built
  have hfew : served.length < wordLimit := Nat.lt_of_le_of_lt hserved.length_le few
  obtain ⟨s, es, answers, hinspect, hserve, hquiet, hsteps⟩ :=
    (quiet_of_build built).exists_inspect (hsound.headroom hstats hfew) (by
      show 0 + served.length < wordLimit
      omega)
  exact ⟨s, es, answers, run_of_inspect hinspect, hquiet.clean, hsteps.trans (Nat.zero_add _),
    hquiet.tracks.accepted .zero, hquiet.tracks.accepted .one, hquiet.expectedLen_eq, hinspect,
    hserve⟩

/-- At flow capacity one: a pop that falls back, a push that its flow refuses, one that finds both
flows full, a peek, a pop of each flow and one that finds none. -/
theorem run_raises_no_alarm_one :
    (⟨1, 10⟩ : Config Value).validate = .ok () ∧
      ∃ p₀, Pifo.withFifos (⟨1, 10⟩ : Config Value) = .ok p₀ ∧
        ∃ s es answers,
          (run [.push 11, .pop, .push 4, .push 10, .push 12, .push 7, .peek, .pop, .pop, .pop]).run
              ⟨.ofConfig ⟨1, 10⟩, p₀⟩ = ⟨s, es, .ok ()⟩ ∧
            s.checker.violations = [] ∧ s.checker.steps = 10 ∧
            (Pifo.serve
              [.push 11, .pop, .push 4, .push 10, .push 12, .push 7, .peek, .pop,
                .pop, .pop]).run p₀ =
                ⟨s.pifo, es, .ok answers⟩ := by
  refine ⟨rfl, ?_⟩
  obtain ⟨p₀, built, hrun⟩ := run_raises_no_alarm (c := ⟨1, 10⟩) rfl
    [.push 11, .pop, .push 4, .push 10, .push 12, .push 7, .peek, .pop, .pop, .pop] (by decide)
  obtain ⟨s, es, answers, hinspected, hclean, hsteps, -, -, -, -, hserve⟩ :=
    hrun _ (List.prefix_refl _)
  exact ⟨p₀, built, s, es, answers, hinspected, hclean, hsteps, hserve⟩

end Property

end TwoFlow
