import TwoFlow.Proofs.Inspection
import TwoFlow.Proofs.Refinement

/-!
# Soundness of the checker

The checker runs no model. It adds lengths up, compares states before and after a request, follows
the turn, and keeps its own record of what was accepted. Over steady sub-queues these checks are
enough: if none of them fails, every push and every pop was answered as the reference model answers
it, and the states in between are those of the model. Nothing is assumed of the values that the
sub-queues hold or hand out.

The argument follows one backlog along the run. It is what the record holds, and it is what the
scheduler looks like from outside; each check rules out one way of leaving it.

Peeks are checked less. The value that a peek shows has to be the oldest one of its flow, but nobody
asks whether it is the turn of that flow. A hot flow that hides its values is found out only by a
pop.

## Main definitions

* `Property.Tracks`: the record and the state agree with a backlog
* `Property.Follows`: the record and the state agree with a model
* `Property.Blind`: a sub-queue that hides its values

## Main results

* `Property.Tracks.step`, `Property.Tracks.run`: without a violation, requests are turns of the
  backlog
* `Property.clean_run_follows_model`: the checker is sound for pushes, pops and states
* `Property.clean_peek_agrees_iff`: when a peek that was not reported is right
* `Property.blind_peek_unreported`: a wrong peek that is not reported
-/

namespace TwoFlow

namespace Backlog

variable {V : Type}

@[simp] theorem flowLen_observe (b : Backlog V) (f : Flow) :
    b.observe.flowLen f = (b.flows.get f).length := by
  cases f <;> rfl

/-- A state whose lengths add up looks like a backlog if one of its flows does. -/
theorem eq_observe {b : Backlog V} {o : Observation} (hot : o.hot = b.hot) (len : o.len = b.len)
    (sum : o.len = o.flow0Len + o.flow1Len) {f : Flow}
    (flowLen : o.flowLen f = (b.flows.get f).length) : o = b.observe := by
  have hsum : o.len = o.flowLen f + o.flowLen f.other := by
    cases f with
    | zero => exact sum
    | one => exact sum.trans (Nat.add_comm _ _)
  have htotal := b.len_eq f
  have hboth : ∀ g, o.flowLen g = (b.flows.get g).length := by
    intro g
    by_cases hg : g = f
    · rw [hg]
      exact flowLen
    · rw [Flow.eq_other_of_ne hg]
      omega
  rw [observe, ← hot, ← len, ← hboth, ← hboth]
  rfl

variable [LE V] [DecidableLE V] {c : Config V} {b : Backlog V}

/-- A push that finds no room is rejected, and the backlog stays. -/
theorem Sound.turn_push_of_full (h : b.Sound c) {v : V}
    (full : c.flowCapacity * 2 ≤ b.len ∨
      c.flowCapacity ≤ (b.flows.get (c.classifier.classify v)).length) :
    (b.turn c (.push v)).next = b ∧
      ∃ len capacity, (b.turn c (.push v)).response = .error (.overflow len capacity) := by
  rcases turn_push_cases c b v with ⟨-, hturn⟩ | ⟨-, -, hturn⟩ | ⟨hlen, hflow, -⟩
  · rw [hturn]
    exact ⟨rfl, _, _, rfl⟩
  · rw [hturn]
    exact ⟨rfl, _, _, rfl⟩
  · -- Nothing is above its capacity, so what is full is so exactly.
    rcases full with full | full
    · exact absurd (Nat.le_antisymm h.len_le full) hlen
    · exact absurd (Nat.le_antisymm (h.length_le _) full) hflow

end Backlog

theorem Result.ofResponse_of_isOverflow {e : QueueError} (h : e.isOverflow) :
    ofResponse (.error e) = overflow := by
  cases e with
  | overflow => rfl
  | underflow => cases h

theorem QueueError.eq_underflow {e : QueueError} (h : e.isUnderflow) : e = underflow := by
  cases e with
  | overflow => cases h
  | underflow => rfl

namespace Property

variable {Q₀ Q₁ : Type} [SubQueue Q₀ Value] [SubQueue Q₁ Value] {c : Config Value}
  {s s' : Inspection Q₀ Q₁} {b : Backlog Value} {r : Request Value} {es : List Event}
  {a : Response Value} {requests before rest : List (Request Value)}

/-- **The checker and its scheduler are on a backlog**: the record holds its values, and the
scheduler looks like it from outside. What the sub-queues hold is another matter. -/
structure Tracks (c : Config Value) (s : Inspection Q₀ Q₁) (b : Backlog Value) : Prop where
  classifier : s.checker.classifier = c.classifier
  flowCapacity : s.checker.flowCapacity = c.flowCapacity
  accepted : ∀ f, (s.checker.accepted.get f).toList = b.flows.get f
  observe : s.pifo.observe = b.observe
  sound : b.Sound c

namespace Tracks

theorem unchanged (h : Tracks c s b) {n : Nat}
    (hchecker : s'.checker = { s.checker with steps := n })
    (hobserve : s'.pifo.observe = b.observe) : Tracks c s' b where
  classifier := by rw [hchecker]; exact h.classifier
  flowCapacity := by rw [hchecker]; exact h.flowCapacity
  accepted f := by rw [hchecker]; exact h.accepted f
  observe := hobserve
  sound := h.sound

theorem set (h : Tracks c s b) {n : Nat} {f hot : Flow} {q : Queue Value} {l : List Value}
    (hchecker : s'.checker =
      { s.checker with steps := n, accepted := s.checker.accepted.set f q })
    (hitems : q.toList = l) (hobserve : s'.pifo.observe = Backlog.observe ⟨b.flows.set f l, hot⟩)
    (hsound : Backlog.Sound c ⟨b.flows.set f l, hot⟩) : Tracks c s' ⟨b.flows.set f l, hot⟩ where
  classifier := by rw [hchecker]; exact h.classifier
  flowCapacity := by rw [hchecker]; exact h.flowCapacity
  accepted g := by
    rw [hchecker]
    by_cases hg : g = f
    · rw [hg, PerFlow.get_set_self, PerFlow.get_set_self]
      exact hitems
    · rw [PerFlow.get_set_of_ne _ _ hg, PerFlow.get_set_of_ne _ _ hg]
      exact h.accepted g
  observe := hobserve
  sound := hsound

theorem flowLen_eq (h : Tracks c s b) (f : Flow) : s.pifo.flowLen f = (b.flows.get f).length := by
  rw [← Pifo.flowLen_observe, h.observe, Backlog.flowLen_observe]

theorem head?_eq_some_iff (h : Tracks c s b) {f : Flow} {v : Value} :
    (s.checker.accepted.get f).head? = some v ↔ ∃ rest, b.flows.get f = v :: rest := by
  rw [Queue.head?_eq, h.accepted, List.head?_eq_some_iff]

/-- An accepted push that nothing was wrong with is one of the backlog. The flow of the value ended
within its capacity, so there was room; and since the lengths add up, the other flow stayed as it
was. -/
theorem pushAccepted (h : Tracks c s b) {n : Nat} {v : Value}
    (hchecker : s'.checker = Checker.accept { s.checker with steps := n } v)
    (hlen : s'.pifo.len = b.len + 1)
    (hflow : s'.pifo.flowLen (c.classifier.classify v) =
      (b.flows.get (c.classifier.classify v)).length + 1)
    (hhot : s'.pifo.hot = b.hot)
    (hsum : s'.pifo.len = s'.pifo.flowLen .zero + s'.pifo.flowLen .one)
    (hle : s'.pifo.flowLen (c.classifier.classify v) ≤ c.flowCapacity) :
    Tracks c s' (b.turn c (.push v)).next ∧ (b.turn c (.push v)).response = .ok none := by
  have room : (b.flows.get (c.classifier.classify v)).length < c.flowCapacity := by
    rw [hflow] at hle
    exact hle
  have hsound := h.sound.turn (.push v)
  rw [h.sound.turn_push_of_lt room] at hsound ⊢
  refine ⟨h.set (n := n) (q := (s.checker.accepted.get (c.classifier.classify v)).push v)
    ?_ ?_ ?_ hsound, rfl⟩
  · rw [← h.classifier]
    exact hchecker
  · rw [Queue.toList_push, h.accepted]
  · refine Backlog.eq_observe (f := c.classifier.classify v) hhot ?_ hsum ?_
    · rw [Backlog.len_set_append]
      exact hlen
    · rw [Pifo.flowLen_observe, hflow, PerFlow.get_set_self, List.length_append]
      rfl

/-- A value that is taken off the record leaves the rest of its flow, if the other flow keeps its
length. -/
theorem release (h : Tracks c s b) {n : Nat} {v : Value} {rest : List Value}
    (hchecker : s'.checker = Checker.release { s.checker with steps := n } v)
    (holdest : b.flows.get (c.classifier.classify v) = v :: rest)
    (hlen : s'.pifo.len = b.len - 1)
    (hsum : s'.pifo.len = s'.pifo.flowLen .zero + s'.pifo.flowLen .one)
    (hkept : s'.pifo.flowLen (c.classifier.classify v).other =
      s.pifo.flowLen (c.classifier.classify v).other) :
    Tracks c s' ⟨b.flows.set (c.classifier.classify v) rest, s'.pifo.hot⟩ := by
  refine h.set (n := n) (q := (s.checker.accepted.get (c.classifier.classify v)).erase v)
    ?_ ?_ ?_ (h.sound.set_rest holdest)
  · rw [← h.classifier]
    exact hchecker
  · rw [Queue.toList_erase, h.accepted, holdest, List.erase_cons_head]
  · refine Backlog.eq_observe (f := (c.classifier.classify v).other) rfl ?_ hsum ?_
    · rw [Backlog.len_set_rest holdest]
      exact hlen
    · rw [Pifo.flowLen_observe, hkept, h.flowLen_eq, PerFlow.get_set_of_ne _ _ (Flow.other_ne _)]

/-- A pop that nothing was wrong with is one of the backlog. The length of the flow that served is
not checked; the turn tells which flow was asked last, and so whose length cannot have changed. -/
theorem popped (h : Tracks c s b) {n : Nat} {v : Value}
    (hchecker : s'.checker = Checker.release { s.checker with steps := n } v)
    (holdest : (s.checker.accepted.get (c.classifier.classify v)).head? = some v)
    (hlen : s'.pifo.len = b.len - 1)
    (hsum : s'.pifo.len = s'.pifo.flowLen .zero + s'.pifo.flowLen .one)
    (hturn : c.classifier.classify v = b.hot ∧ s'.pifo.hot = b.hot.other ∨
      c.classifier.classify v ≠ b.hot ∧ b.flows.get b.hot = [] ∧ s'.pifo.hot = b.hot)
    (hkept : s'.pifo.hot = b.hot.other ∧
        s'.pifo.flowLen b.hot.other = s.pifo.flowLen b.hot.other ∨
      s'.pifo.hot = b.hot ∧ s'.pifo.flowLen b.hot = s.pifo.flowLen b.hot) :
    Tracks c s' (b.turn c .pop).next ∧ (b.turn c .pop).response = .ok (some v) := by
  obtain ⟨rest, hrest⟩ := h.head?_eq_some_iff.mp holdest
  rcases hturn with ⟨hserved, hflip⟩ | ⟨hserved, hempty, hstay⟩
  · -- The turn was passed on, so the other flow was not asked.
    have hother : s'.pifo.flowLen b.hot.other = s.pifo.flowLen b.hot.other := by
      rcases hkept with ⟨-, hkept⟩ | ⟨hstay, -⟩
      · exact hkept
      · exact absurd (hflip.symm.trans hstay) (Flow.other_ne _)
    rw [← hserved] at hother
    have htracks := h.release hchecker hrest hlen hsum hother
    rw [hflip, hserved] at htracks
    rw [hserved] at hrest
    rw [Backlog.turn_pop_primary hrest]
    exact ⟨htracks, rfl⟩
  · -- The turn stayed, so the hot flow was asked and failed.
    have hfailed : s'.pifo.flowLen b.hot = s.pifo.flowLen b.hot := by
      rcases hkept with ⟨hflip, -⟩ | ⟨-, hkept⟩
      · exact absurd (hflip.symm.trans hstay) (Flow.other_ne _)
      · exact hkept
    have hother : c.classifier.classify v = b.hot.other := Flow.eq_other_of_ne hserved
    rw [← Flow.other_other b.hot, ← hother] at hfailed
    have htracks := h.release hchecker hrest hlen hsum hfailed
    rw [hstay, hother] at htracks
    rw [hother] at hrest
    rw [Backlog.turn_pop_fallback hempty hrest]
    exact ⟨htracks, rfl⟩

variable [SubQueue.Steady Q₀] [SubQueue.Steady Q₁]

/-- **A request with which nothing is wrong is a turn of the backlog.** -/
theorem step (h : Tracks c s b) (served : (Property.step r).run s = ⟨s', es, .ok a⟩)
    (clean : s'.checker.violations = []) :
    Tracks c s' (b.turn c r).next ∧
      (r ≠ .peek → Result.ofResponse a = .ofResponse (b.turn c r).response) := by
  obtain ⟨predicted, -, hr, hpasses, hsum, hle⟩ := passes_of_step served clean
  rw [h.observe] at hpasses
  generalize hchecker : s'.checker = c' at hpasses
  cases hpasses with
  | pushAccepted hlen hflow hhot =>
    rw [Pifo.flowLen_observe, Backlog.flowLen_observe, h.classifier] at hflow
    rw [h.flowCapacity] at hle
    obtain ⟨htracks, hresponse⟩ := h.pushAccepted hchecker hlen hflow hhot hsum (hle _)
    exact ⟨htracks, fun _ => by rw [hresponse]⟩
  | pushRejected hfull hoverflow hunchanged =>
    rw [Backlog.flowLen_observe, h.classifier, h.flowCapacity] at hfull
    obtain ⟨hnext, len, capacity, hresponse⟩ := h.sound.turn_push_of_full hfull
    rw [hnext, hresponse, Result.ofResponse_of_isOverflow hoverflow]
    exact ⟨h.unchanged hchecker hunchanged, fun _ => rfl⟩
  | popped hforeseen holdest hholds hlen hturn =>
    rw [Backlog.flowLen_observe, List.length_eq_zero_iff, h.classifier] at hturn
    rw [h.classifier] at holdest
    have hkept := (Pifo.transition_of_run hr).flowLen_of_pop
    have hhot : s.pifo.hot = b.hot := congrArg Observation.hot h.observe
    rw [hhot] at hkept
    obtain ⟨htracks, hresponse⟩ := h.popped hchecker holdest hlen hsum hturn hkept
    exact ⟨htracks, fun _ => by rw [hresponse]⟩
  | shown holdest hunchanged =>
    exact ⟨h.unchanged hchecker hunchanged, fun hpeek => absurd rfl hpeek⟩
  | empty hrequest hlen hunderflow hunchanged =>
    rcases hrequest with rfl | rfl
    · rw [Backlog.turn_pop_empty (b.len_eq_zero_iff.mp hlen), QueueError.eq_underflow hunderflow]
      exact ⟨h.unchanged hchecker hunchanged, fun _ => rfl⟩
    · exact ⟨h.unchanged hchecker hunchanged, fun hpeek => absurd rfl hpeek⟩

/-- **Requests with which nothing is wrong are turns of the backlog.** -/
theorem run (h : Tracks c s b) (inspected : (Property.run requests).run s = ⟨s', es, .ok ()⟩)
    (clean : s'.checker.violations = []) : Tracks c s' (b.after c requests) := by
  induction requests generalizing s b es with
  | nil =>
    cases inspected
    exact h
  | cons r rest ih =>
    obtain ⟨t, es₁, a, es₂, hr, hrest, -⟩ := run_cons.mp inspected
    exact ih (h.step hr (clean_of_run hrest clean)).1 hrest

/-- What is known right before and right after a request of the list. -/
theorem run_split (h : Tracks c s b)
    (inspected : (Property.run (before ++ r :: rest)).run s = ⟨s', es, .ok ()⟩)
    (clean : s'.checker.violations = []) :
    ∃ t es₁ t' es₂ a es₃, (Property.run before).run s = ⟨t, es₁, .ok ()⟩ ∧
      (Property.step r).run t = ⟨t', es₂, .ok a⟩ ∧
      (Property.run rest).run t' = ⟨s', es₃, .ok ()⟩ ∧ t'.checker.violations = [] ∧
      Tracks c t (b.after c before) := by
  obtain ⟨t, es₁, es₂, hbefore, hafter, -⟩ := run_append.mp inspected
  obtain ⟨t', es₃, a, es₄, hr, hrest, -⟩ := run_cons.mp hafter
  have hclean := clean_of_run hrest clean
  exact ⟨t, es₁, t', es₃, a, es₄, hbefore, hr, hrest, hclean,
    h.run hbefore (clean_of_step hr hclean)⟩

end Tracks

theorem tracks_of_build {queue0 : Q₀} {queue1 : Q₁} {p₀ : Pifo Value Q₀ Q₁}
    (built : Pifo.build c queue0 queue1 = .ok p₀) : Tracks c ⟨.ofConfig c, p₀⟩ .empty := by
  obtain ⟨-, ⟨-, hlen0⟩, ⟨-, hlen1⟩, rfl⟩ := Pifo.build_eq_ok_iff.mp built
  refine ⟨rfl, rfl, fun f => by cases f <;> rfl, ?_, Backlog.sound_empty c⟩
  simp only [Pifo.observe, Pifo.flowLen, hlen0, hlen1]
  rfl

/-- **A checked scheduler is in step with a model**: it looks like the model from outside, and what
it is on record to have accepted and not handed out is what the model holds. -/
structure Follows (s : Inspection Q₀ Q₁) (m : Model) : Prop where
  observe : s.pifo.observe = m.state
  accepted : ∀ f, (s.checker.accepted.get f).toList = (m.flows.get f).toList

theorem Tracks.follows (h : Tracks c s b) {m : Model} (hm : m.backlog = b) : Follows s m where
  observe := by rw [h.observe, m.state_eq, hm]
  accepted f := by rw [h.accepted, ← hm, Model.backlog_get]

variable [SubQueue.Steady Q₀] [SubQueue.Steady Q₁]

/-- **What the checker lets pass follows the model.** Let a scheduler be built over any steady
sub-queues, whatever they do with the values, and let requests be inspected to their end without a
violation. Then after each of the requests the scheduler looks like the model that was given the
same ones, the record holds what the model holds, and each push and each pop was answered with the
result of the model. -/
theorem clean_run_follows_model {queue0 : Q₀} {queue1 : Q₁} {p₀ : Pifo Value Q₀ Q₁}
    (built : Pifo.build c queue0 queue1 = .ok p₀)
    (inspected : (run requests).run ⟨.ofConfig c, p₀⟩ = ⟨s, es, .ok ()⟩)
    (clean : s.checker.violations = []) :
    ∀ before r rest, requests = before ++ r :: rest →
      ∃ t es₁ t' es₂ a m results m' result,
        (run before).run ⟨.ofConfig c, p₀⟩ = ⟨t, es₁, .ok ()⟩ ∧
        (step r).run t = ⟨t', es₂, .ok a⟩ ∧
        (Model.ofConfig c).applyAll before = .ok (m, results) ∧
        m.apply r = .ok (m', result) ∧ Follows t' m' ∧
        (r ≠ .peek → Result.ofResponse a = result) := by
  rintro before r rest rfl
  obtain ⟨valid, -⟩ := Pifo.build_eq_ok_iff.mp built
  have hcap : c.flowCapacity * 2 < wordLimit := ((Config.validate_eq_ok_iff c).mp valid).2
  obtain ⟨t, es₁, t', es₂, a, es₃, hbefore, hr, -, hclean, htracks⟩ :=
    (tracks_of_build built).run_split inspected clean
  obtain ⟨m, happlyAll, hafter, hconfig⟩ := Model.applyAll_eq_turns (m := .ofConfig c) hcap before
  obtain ⟨m', happly, hnext, -⟩ := Model.apply_eq_turn (m := m) (hconfig ▸ hcap) r
  rw [hafter, hconfig] at happly hnext
  obtain ⟨htracks', hresponse⟩ := htracks.step hr hclean
  exact ⟨t, es₁, t', es₂, a, m, _, m', _, hbefore, hr, happlyAll, happly, htracks'.follows hnext,
    hresponse⟩

/-- At flow capacity one: an accepted push, one that its flow refuses, one for the other flow, one
that finds both flows full, a peek, a pop of each flow and one that finds none. -/
theorem clean_run_follows_model_one :
    ∃ p₀ s es, Pifo.build (⟨1, 10⟩ : Config Value) (Fifo.empty 1) (Fifo.empty 1) = .ok p₀ ∧
      (run [.push 4, .push 10, .push 11, .push 7, .peek, .pop, .pop, .pop]).run
          ⟨.ofConfig ⟨1, 10⟩, p₀⟩ = ⟨s, es, .ok ()⟩ ∧
      s.checker.violations = [] ∧
      ∃ t es₁ t' es₂ a m results m' result,
        (run [.push 4, .push 10, .push 11, .push 7, .peek, .pop]).run ⟨.ofConfig ⟨1, 10⟩, p₀⟩ =
          ⟨t, es₁, .ok ()⟩ ∧
        (step .pop).run t = ⟨t', es₂, .ok a⟩ ∧
        (Model.ofConfig ⟨1, 10⟩).applyAll
          [.push 4, .push 10, .push 11, .push 7, .peek, .pop] = .ok (m, results) ∧
        m.apply .pop = .ok (m', result) ∧ Follows t' m' ∧ Result.ofResponse a = result := by
  obtain ⟨p₀, built⟩ : ∃ p₀,
      Pifo.build (⟨1, 10⟩ : Config Value) (Fifo.empty 1) (Fifo.empty 1) = .ok p₀ := ⟨_, rfl⟩
  obtain ⟨s, es, inspected, clean⟩ : ∃ s es,
      (run [.push 4, .push 10, .push 11, .push 7, .peek, .pop, .pop, .pop]).run
        ⟨.ofConfig ⟨1, 10⟩, p₀⟩ = ⟨s, es, .ok ()⟩ ∧ s.checker.violations = [] := by
    cases built
    exact ⟨_, _, rfl, rfl⟩
  obtain ⟨t, es₁, t', es₂, a, m, results, m', result, hbefore, hr, hmodel, happly, hfollows,
    hresponse⟩ := clean_run_follows_model built inspected clean
      [.push 4, .push 10, .push 11, .push 7, .peek, .pop] .pop [.pop] rfl
  exact ⟨p₀, s, es, built, inspected, clean, t, es₁, t', es₂, a, m, results, m', result,
    hbefore, hr, hmodel, happly, hfollows, hresponse (by decide)⟩

/-! ## Peeks -/

/-- A sub-queue that hides its values: it is the given one, but a peek finds nothing. -/
structure Blind (Q : Type) where
  queue : Q

instance {Q V : Type} [SubQueue Q V] : SubQueue (Blind Q) V where
  push q v := let (queue, a) := SubQueue.push q.queue v; (⟨queue⟩, a)
  pop q := let (queue, a) := SubQueue.pop q.queue; (⟨queue⟩, a)
  peek q := (q, .error .underflow)
  len q := SubQueue.len q.queue
  capacity q := SubQueue.capacity q.queue

instance {Q V : Type} [SubQueue Q V] [SubQueue.Steady Q] : SubQueue.Steady (Blind Q) where
  peek_fst _ := rfl
  len_of_pop_error {q q' e} failed := by
    obtain ⟨rfl, hanswer⟩ := Prod.mk.inj failed
    have hpop : SubQueue.pop q.queue = ((SubQueue.pop q.queue).1, .error e) := Prod.ext rfl hanswer
    have hlen := SubQueue.Steady.len_of_pop_error hpop
    exact hlen

namespace Tracks

/-- A peek that nothing was wrong with showed the oldest value of some flow, or found none in
either. -/
theorem shown_or_empty (h : Tracks c s b) (served : (Property.step .peek).run s = ⟨s', es, .ok a⟩)
    (clean : s'.checker.violations = []) :
    (∃ v rest, a = .ok (some v) ∧ b.flows.get (c.classifier.classify v) = v :: rest) ∨
      a = .error .underflow ∧ ∀ f, b.flows.get f = [] := by
  obtain ⟨predicted, -, -, hpasses, -, -⟩ := passes_of_step served clean
  rw [h.observe] at hpasses
  generalize s'.checker = c' at hpasses
  cases hpasses with
  | @shown v holdest =>
    rw [h.classifier] at holdest
    obtain ⟨rest, hrest⟩ := h.head?_eq_some_iff.mp holdest
    exact .inl ⟨v, rest, rfl, hrest⟩
  | empty _ hlen hunderflow =>
    rw [QueueError.eq_underflow hunderflow]
    exact .inr ⟨rfl, b.len_eq_zero_iff.mp hlen⟩

/-- **When a peek is right**: unless it shows a value of the cold flow while the hot flow has
one. -/
theorem ofResponse_peek_iff (h : Tracks c s b)
    (served : (Property.step .peek).run s = ⟨s', es, .ok a⟩) (clean : s'.checker.violations = []) :
    Result.ofResponse a = .ofResponse (b.turn c .peek).response ↔
      ∀ v, a = .ok (some v) → c.classifier.classify v ≠ b.hot → b.flows.get b.hot = [] := by
  rw [Backlog.turn_peek]
  rcases h.shown_or_empty served clean with ⟨v, rest, rfl, hrest⟩ | ⟨rfl, hempty⟩
  · by_cases hflow : c.classifier.classify v = b.hot
    · rw [hflow] at hrest
      rw [hrest]
      refine ⟨fun _ w hw hne => ?_, fun _ => rfl⟩
      cases hw
      exact absurd hflow hne
    · rw [Flow.eq_other_of_ne hflow] at hrest
      rw [hrest]
      cases hhot : b.flows.get b.hot with
      | nil => exact ⟨fun _ _ _ _ => rfl, fun _ => rfl⟩
      | cons w later =>
        -- The oldest value of the hot flow is another one, since it belongs to another flow.
        have hw : c.classifier.classify w = b.hot :=
          h.sound.classify_eq b.hot w (by rw [hhot]; exact List.mem_cons_self)
        constructor
        · intro hsame
          have hvw : v = w := Result.value.inj hsame
          exact absurd (hvw ▸ hw) hflow
        · intro hall
          cases hall v rfl hflow
  · rw [hempty, hempty]
    refine ⟨fun _ v hv => ?_, fun _ => rfl⟩
    cases hv

/-- **A peek is right if a pop comes next** and nothing is wrong with that one: what a pop hands out
is compared with what a peek showed right before it. -/
theorem ofResponse_peek_of_pop (h : Tracks c s b) {t : Inspection Q₀ Q₁} {es' : List Event}
    {a' : Response Value} (peeked : (Property.step .peek).run s = ⟨t, es, .ok a⟩)
    (popped : (Property.step .pop).run t = ⟨s', es', .ok a'⟩) (clean : s'.checker.violations = []) :
    Result.ofResponse a = .ofResponse (b.turn c .peek).response := by
  have hclean := clean_of_step popped clean
  obtain ⟨htracks, -⟩ := h.step peeked hclean
  obtain ⟨-, hresponse⟩ := htracks.step popped clean
  have hpop : Result.ofResponse a' = .ofResponse (b.turn c .pop).response := hresponse (by simp)
  rw [Backlog.response_turn_peek, ← hpop]
  -- The peek left the scheduler alone, so the one before the pop shows the same.
  obtain ⟨predicted, hpeek, hr, -⟩ := passes_of_step peeked hclean
  obtain ⟨hpifo, -, ha⟩ := Step.mk.inj (hr.symm.trans (Pifo.run_handle_peek hpeek))
  obtain ⟨predicted', hpeek', -, hpasses, -⟩ := passes_of_step popped clean
  rw [hpifo] at hpeek' hpasses
  cases hpeek.symm.trans hpeek'
  rw [h.observe] at hpasses
  generalize s'.checker = c' at hpasses
  cases hpasses with
  | popped hforeseen =>
    rw [Except.ok.inj ha, hforeseen]
    rfl
  | empty _ hlen hunderflow =>
    have hempty := b.len_eq_zero_iff.mp hlen
    rcases h.shown_or_empty peeked hclean with ⟨v, rest, -, hrest⟩ | ⟨rfl, -⟩
    · rw [hempty] at hrest
      cases hrest
    · rw [QueueError.eq_underflow hunderflow]

end Tracks

/-- **What the checker lets pass of a peek.** Over any steady sub-queues, where requests were
inspected to their end without a violation, a value shown by a peek is the oldest one of its flow on
the model that was given the same requests. The peek has the result of the model unless it shows a
value of the cold flow while the hot flow holds one; with a pop as the next request that cannot have
happened. -/
theorem clean_peek_agrees_iff {queue0 : Q₀} {queue1 : Q₁} {p₀ : Pifo Value Q₀ Q₁}
    (built : Pifo.build c queue0 queue1 = .ok p₀)
    (inspected : (run requests).run ⟨.ofConfig c, p₀⟩ = ⟨s, es, .ok ()⟩)
    (clean : s.checker.violations = []) :
    ∀ before rest, requests = before ++ .peek :: rest →
      ∃ t es₁ t' es₂ a m results result,
        (run before).run ⟨.ofConfig c, p₀⟩ = ⟨t, es₁, .ok ()⟩ ∧
        (step .peek).run t = ⟨t', es₂, .ok a⟩ ∧
        (Model.ofConfig c).applyAll before = .ok (m, results) ∧
        m.apply .peek = .ok (m, result) ∧
        (∀ v, a = .ok (some v) → (m.flows.get (c.classifier.classify v)).toList.head? = some v) ∧
        (Result.ofResponse a = result ↔
          ∀ v, a = .ok (some v) → c.classifier.classify v ≠ m.hot →
            (m.flows.get m.hot).toList = []) ∧
        (∀ later, rest = .pop :: later → Result.ofResponse a = result) := by
  rintro before rest rfl
  obtain ⟨valid, -⟩ := Pifo.build_eq_ok_iff.mp built
  have hcap : c.flowCapacity * 2 < wordLimit := ((Config.validate_eq_ok_iff c).mp valid).2
  obtain ⟨t, es₁, t', es₂, a, es₃, hbefore, hr, hrest, hclean, htracks⟩ :=
    (tracks_of_build built).run_split inspected clean
  obtain ⟨m, happlyAll, hafter, hconfig⟩ := Model.applyAll_eq_turns (m := .ofConfig c) hcap before
  replace hafter : m.backlog = Backlog.empty.after c before := hafter
  rw [← hafter] at htracks
  refine ⟨t, es₁, t', es₂, a, m, _, _, hbefore, hr, happlyAll, rfl, ?_, ?_, ?_⟩
  · rintro v rfl
    rcases htracks.shown_or_empty hr hclean with ⟨w, later, hw, hlater⟩ | ⟨hw, -⟩
    · cases hw
      rw [← Model.backlog_get, hlater]
      rfl
    · cases hw
  · rw [m.peek_eq_turn, hconfig, ← Model.backlog_get]
    exact htracks.ofResponse_peek_iff hr hclean
  · rintro later rfl
    obtain ⟨u, es₄, a', es₅, hpop, hlater, -⟩ := run_cons.mp hrest
    rw [m.peek_eq_turn, hconfig]
    exact htracks.ofResponse_peek_of_pop hr hpop (clean_of_run hlater clean)

/-- Over a hot flow that hides its values: the first peek is right, since the hot flow is empty; the
second one shows the value of the cold flow again, although the hot flow has one by then. -/
theorem clean_peek_agrees_iff_blind :
    ∃ p₀ s es,
      Pifo.build (⟨2, 200⟩ : Config Value) (Blind.mk (Fifo.empty 2)) (Fifo.empty 2) = .ok p₀ ∧
      (run [.push 300, .peek, .push 1, .peek]).run ⟨.ofConfig ⟨2, 200⟩, p₀⟩ = ⟨s, es, .ok ()⟩ ∧
      s.checker.violations = [] ∧
      (∃ t es₁ t' es₂ a m results result,
        (run [.push 300]).run ⟨.ofConfig ⟨2, 200⟩, p₀⟩ = ⟨t, es₁, .ok ()⟩ ∧
        (step .peek).run t = ⟨t', es₂, .ok a⟩ ∧
        (Model.ofConfig ⟨2, 200⟩).applyAll [.push 300] = .ok (m, results) ∧
        m.apply .peek = .ok (m, result) ∧ Result.ofResponse a = result) ∧
      ∃ t es₁ t' es₂ a m results result,
        (run [.push 300, .peek, .push 1]).run ⟨.ofConfig ⟨2, 200⟩, p₀⟩ = ⟨t, es₁, .ok ()⟩ ∧
        (step .peek).run t = ⟨t', es₂, .ok a⟩ ∧
        (Model.ofConfig ⟨2, 200⟩).applyAll [.push 300, .peek, .push 1] = .ok (m, results) ∧
        m.apply .peek = .ok (m, result) ∧ Result.ofResponse a ≠ result := by
  obtain ⟨p₀, built⟩ : ∃ p₀,
      Pifo.build (⟨2, 200⟩ : Config Value) (Blind.mk (Fifo.empty 2)) (Fifo.empty 2) = .ok p₀ :=
    ⟨_, rfl⟩
  obtain ⟨s, es, inspected, clean⟩ : ∃ s es,
      (run [.push 300, .peek, .push 1, .peek]).run ⟨.ofConfig ⟨2, 200⟩, p₀⟩ = ⟨s, es, .ok ()⟩ ∧
        s.checker.violations = [] := by
    cases built
    exact ⟨_, _, rfl, rfl⟩
  have hpeeks := clean_peek_agrees_iff built inspected clean
  refine ⟨p₀, s, es, built, inspected, clean, ?_, ?_⟩
  · obtain ⟨t, es₁, t', es₂, a, m, results, result, hbefore, hr, hmodel, happly, -, hagrees, -⟩ :=
      hpeeks [.push 300] [.push 1, .peek] rfl
    refine ⟨t, es₁, t', es₂, a, m, results, result, hbefore, hr, hmodel, happly, hagrees.mpr ?_⟩
    intro v _ _
    cases hmodel
    rfl
  · obtain ⟨t, es₁, t', es₂, a, m, results, result, hbefore, hr, hmodel, happly, -, hagrees, -⟩ :=
      hpeeks [.push 300, .peek, .push 1] [] rfl
    refine ⟨t, es₁, t', es₂, a, m, results, result, hbefore, hr, hmodel, happly, ?_⟩
    intro hsame
    cases built
    cases hbefore
    cases hr
    cases hmodel
    cases hagrees.mp hsame 300 rfl (by decide)

/-- **A peek of the wrong flow goes unreported.** Flow zero is hot, hides its values and holds `1`;
a peek shows `300` of flow one, where the model gives `1`, and the checker has nothing to report. -/
theorem blind_peek_unreported :
    SubQueue.Steady (Blind (Fifo Value)) ∧ SubQueue.Steady (Fifo Value) ∧
    ∃ p₀ t es₁ s es₂ m results,
      Pifo.build (⟨2, 200⟩ : Config Value) (Blind.mk (Fifo.empty 2)) (Fifo.empty 2) = .ok p₀ ∧
      (run [.push 1, .push 300]).run ⟨.ofConfig ⟨2, 200⟩, p₀⟩ = ⟨t, es₁, .ok ()⟩ ∧
      (step .peek).run t = ⟨s, es₂, .ok (.ok (some 300))⟩ ∧ s.checker.violations = [] ∧
      (Model.ofConfig ⟨2, 200⟩).applyAll [.push 1, .push 300] = .ok (m, results) ∧
      m.apply .peek = .ok (m, .value 1) :=
  ⟨inferInstance, inferInstance, _, _, _, _, _, _, _, rfl, rfl, rfl, rfl, rfl, rfl⟩

end Property

end TwoFlow
