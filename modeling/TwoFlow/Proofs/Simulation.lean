import TwoFlow.Proofs.Backlog

/-!
# A scheduler runs as its backlog

A scheduler over lawful sub-queues that is *sound* for its configuration takes exactly the turns of
its backlog: the same responses, counters and events, the same values left. It is sound afterwards,
so a run of the scheduler is a run of its backlog, and no fault is met on the way as long as the
counters have headroom. A scheduler is sound as it is built.

That a pop never finds both sub-queues empty while the scheduler counts values is part of the
statement: no turn reports it.

## Main definitions

* `Pifo.backlog`: the backlog of a scheduler
* `Pifo.Sound`: the representation invariant
* `Pifo.Takes`: the scheduler goes through a turn

## Main results

* `Pifo.Sound.takes`, `Pifo.Sound.transition`: a sound scheduler takes the turns of its backlog and
  stays sound
* `Pifo.sound_of_build`: a scheduler is sound as it is built
* `Pifo.Sound.serve`: a run of a sound scheduler is a run of its backlog
* `Pifo.exists_run_of_build`: a scheduler serves every request from its building on
-/

namespace TwoFlow

namespace Pifo

variable {V Q₀ Q₁ : Type} [SubQueue Q₀ V] [SubQueue Q₁ V] [SubQueue.Lawful Q₀]
  [SubQueue.Lawful Q₁]

/-- What waits in the scheduler. -/
def backlog (p : Pifo V Q₀ Q₁) : Backlog V := ⟨p.items, p.hot⟩

@[simp] theorem backlog_flows (p : Pifo V Q₀ Q₁) : p.backlog.flows = p.items := rfl

@[simp] theorem backlog_hot (p : Pifo V Q₀ Q₁) : p.backlog.hot = p.hot := rfl

theorem backlog_eq {p : Pifo V Q₀ Q₁} {flows : PerFlow (List V)} {hot : Flow}
    (hitems : p.items = flows) (hhot : p.hot = hot) : p.backlog = ⟨flows, hot⟩ := by
  rw [backlog, hitems, hhot]

variable [LE V] [DecidableLE V]

/-- **The representation invariant.** The scheduler is set up as its configuration says, its own
count is the number of values waiting, and what waits is sound. -/
structure Sound (c : Config V) (p : Pifo V Q₀ Q₁) : Prop where
  valid : c.validate = .ok ()
  classifier : p.classifier = c.classifier
  capacity : p.capacity = c.flowCapacity * 2
  capacities : p.capacities = .both c.flowCapacity
  len : p.len = p.backlog.len
  backlog : p.backlog.Sound c

variable {c : Config V} {p p' : Pifo V Q₀ Q₁}

theorem Sound.capacity_lt (h : Sound c p) : p.capacity < wordLimit :=
  h.capacity ▸ ((Config.validate_eq_ok_iff c).mp h.valid).2

theorem Sound.capacities_get (h : Sound c p) (f : Flow) : p.capacities.get f = c.flowCapacity := by
  rw [h.capacities, PerFlow.get_both]

/-- A sound scheduler is full exactly when both flows are. -/
theorem Sound.full_iff (h : Sound c p) :
    p.capacity ≤ p.len ↔ p.backlog.len = c.flowCapacity * 2 := by
  have hle := h.backlog.len_le
  rw [h.capacity, h.len]
  omega

theorem Sound.empty_iff (h : Sound c p) : p.len = 0 ↔ ∀ f, p.items.get f = [] := by
  rw [h.len]
  exact p.backlog.len_eq_zero_iff

/-- The scheduler has gone through a turn: it was in `p`, is in `p'`, has reported `es` and given
the response `a`. -/
structure Takes (p : Pifo V Q₀ Q₁) (t : Turn V) (p' : Pifo V Q₀ Q₁) (es : List Event)
    (a : Response V) : Prop where
  backlog : p'.backlog = t.next
  response : a = t.response
  stats : p'.stats = t.raised.foldl Stats.bump p.stats
  events : es = t.events
  len : p'.len = t.next.len
  capacities : p'.capacities = p.capacities

theorem Sound.takes_push (h : Sound c p) {v : V} {es : List Event} {a : Response V}
    (way : Transition p (.push v) p' es a) : Takes p (p.backlog.turn c (.push v)) p' es a := by
  have hle := h.backlog.length_le (c.classifier.classify v)
  have hcap := h.capacities_get (c.classifier.classify v)
  cases way with
  | pushFull full =>
    have hfull := h.full_iff.mp full
    rw [Backlog.turn_push_full hfull]
    exact ⟨rfl, by rw [h.len, h.capacity, hfull], rfl, by rw [h.len], h.len, rfl⟩
  | pushRefused room asked =>
    have hfull := mt h.full_iff.mpr (Nat.not_le.mpr room)
    have same := sameControl_of_subPush asked
    rw [h.classifier] at asked ⊢
    obtain ⟨hcaps, ⟨-, hok, -⟩ | ⟨hge, herror, hitems⟩⟩ := items_of_subPush asked
    · cases hok
    · -- A flow is refused at its capacity and never above it.
      have hflow : (p.items.get (c.classifier.classify v)).length = c.flowCapacity :=
        Nat.le_antisymm hle (hcap ▸ hge)
      rw [hflow, hcap] at herror
      rw [Except.error.inj herror, Backlog.turn_push_refused hfull hflow]
      exact ⟨backlog_eq hitems same.hot, rfl, by rw [same.stats]; rfl, rfl,
        same.len.trans h.len, hcaps⟩
  | pushAccepted room asked =>
    have hfull := mt h.full_iff.mpr (Nat.not_le.mpr room)
    have same := sameControl_of_subPush asked
    rw [h.classifier] at asked ⊢
    obtain ⟨hcaps, ⟨hlt, -, hitems⟩ | ⟨-, herror, -⟩⟩ := items_of_subPush asked
    · have hflow := Nat.ne_of_lt (hcap ▸ hlt)
      rw [Backlog.turn_push_accepted hfull hflow]
      refine ⟨backlog_eq hitems same.hot, rfl, by rw [same.stats]; rfl, by rw [same.len, h.len],
        ?_, hcaps⟩
      rw [Backlog.len_set_append, same.len, h.len]
    · cases herror

theorem Sound.takes_pop (h : Sound c p) {es : List Event} {a : Response V}
    (way : Transition p .pop p' es a) : Takes p (p.backlog.turn c .pop) p' es a := by
  cases way with
  | popEmpty empty =>
    rw [Backlog.turn_pop_empty (h.empty_iff.mp empty)]
    exact ⟨rfl, rfl, rfl, rfl, h.len, rfl⟩
  | popPrimary holds asked =>
    have same := sameControl_of_subPop asked
    obtain ⟨hanswer, hitems, hcaps⟩ := items_of_subPop asked
    obtain ⟨rest, hhot⟩ := Answer.ofHead_eq_ok_iff.mp hanswer.symm
    rw [hhot, List.tail_cons] at hitems
    rw [Backlog.turn_pop_primary hhot]
    refine ⟨backlog_eq hitems (congrArg Flow.other same.hot), rfl, by rw [same.stats]; rfl, ?_, ?_,
      hcaps⟩
    · rw [same.hot, same.len, h.len]; rfl
    · rw [Backlog.len_set_rest hhot, same.len, h.len]
  | popFallback holds asked askedOther =>
    have same := (sameControl_of_subPop asked).trans (sameControl_of_subPop askedOther)
    -- Asked in vain, the hot flow was empty and stays so.
    obtain ⟨hanswer, hitems, hcaps⟩ := items_of_subPop asked
    obtain ⟨hhot, -⟩ := Answer.ofHead_eq_error_iff.mp hanswer.symm
    rw [hhot, List.tail_nil, ← hhot, PerFlow.set_get_self] at hitems
    obtain ⟨hanswer', hitems', hcaps'⟩ := items_of_subPop askedOther
    rw [hitems] at hanswer' hitems'
    obtain ⟨rest, hother⟩ := Answer.ofHead_eq_ok_iff.mp hanswer'.symm
    rw [hother, List.tail_cons] at hitems'
    rw [Backlog.turn_pop_fallback hhot hother]
    refine ⟨backlog_eq hitems' same.hot, rfl, by rw [same.stats]; rfl, ?_, ?_,
      hcaps'.trans hcaps⟩
    · rw [same.hot, same.len, h.len]; rfl
    · rw [Backlog.len_set_rest hother, same.len, h.len]
  | popFailed holds asked askedOther =>
    -- Both flows are empty, so the scheduler counts no value.
    obtain ⟨hanswer, hitems, -⟩ := items_of_subPop asked
    obtain ⟨hhot, -⟩ := Answer.ofHead_eq_error_iff.mp hanswer.symm
    rw [hhot, List.tail_nil, ← hhot, PerFlow.set_get_self] at hitems
    obtain ⟨hanswer', -, -⟩ := items_of_subPop askedOther
    rw [hitems] at hanswer'
    obtain ⟨hother, -⟩ := Answer.ofHead_eq_error_iff.mp hanswer'.symm
    refine absurd ?_ holds
    rw [h.len, Backlog.len_eq _ p.hot, backlog_flows, hhot, hother]
    rfl

theorem Sound.takes_peek (h : Sound c p) {es : List Event} {a : Response V}
    (way : Transition p .peek p' es a) : Takes p (p.backlog.turn c .peek) p' es a := by
  rw [Backlog.turn_peek]
  cases way with
  | peekEmpty empty =>
    -- Nothing waits, so the list of both flows has no head either.
    have hnil := h.empty_iff.mp empty
    exact ⟨rfl, by rw [backlog_flows, hnil, hnil]; rfl, rfl, rfl, h.len, rfl⟩
  | peekPrimary holds asked =>
    have same := sameControl_of_subPeek asked
    obtain ⟨hanswer, hitems, hcaps⟩ := items_of_subPeek asked
    obtain ⟨rest, hhot⟩ := Answer.ofHead_eq_ok_iff.mp hanswer.symm
    exact ⟨backlog_eq hitems same.hot, by rw [backlog_flows, backlog_hot, hhot]; rfl, same.stats,
      rfl, same.len.trans h.len, hcaps⟩
  | peekFallback holds asked askedOther =>
    have same := (sameControl_of_subPeek asked).trans (sameControl_of_subPeek askedOther)
    obtain ⟨hanswer, hitems, hcaps⟩ := items_of_subPeek asked
    obtain ⟨hhot, -⟩ := Answer.ofHead_eq_error_iff.mp hanswer.symm
    obtain ⟨hanswer', hitems', hcaps'⟩ := items_of_subPeek askedOther
    rw [hitems] at hanswer'
    refine ⟨backlog_eq (hitems'.trans hitems) same.hot, ?_, same.stats, rfl,
      same.len.trans h.len, hcaps'.trans hcaps⟩
    rw [hanswer', backlog_flows, backlog_hot, hhot, List.nil_append]

/-- **A sound scheduler takes the turns of its backlog.** -/
theorem Sound.takes (h : Sound c p) {r : Request V} {es : List Event} {a : Response V}
    (way : Transition p r p' es a) : Takes p (p.backlog.turn c r) p' es a := by
  cases r with
  | push v => exact h.takes_push way
  | pop => exact h.takes_pop way
  | peek => exact h.takes_peek way

/-- **A request keeps a scheduler sound.** -/
theorem Sound.transition (h : Sound c p) {r : Request V} {es : List Event} {a : Response V}
    (way : Transition p r p' es a) : Sound c p' := by
  have taken := h.takes way
  exact
    { valid := h.valid
      classifier := way.fixed.2.trans h.classifier
      capacity := way.fixed.1.trans h.capacity
      capacities := taken.capacities.trans h.capacities
      len := taken.len.trans (congrArg Backlog.len taken.backlog.symm)
      backlog := taken.backlog ▸ h.backlog.turn r }

/-! ## Runs -/

/-- **A run of a sound scheduler is a run of its backlog.** -/
theorem Sound.serve (h : Sound c p) {requests : List (Request V)} {es : List Event}
    {answers : List (Response V)} (run : (serve requests).run p = ⟨p', es, .ok answers⟩) :
    Sound c p' ∧ p'.backlog = p.backlog.after c requests ∧
      answers = (p.backlog.turns c requests).map (·.response) ∧
      es = (p.backlog.turns c requests).flatMap (·.events) ∧
      p'.stats = ((p.backlog.turns c requests).flatMap (·.raised)).foldl Stats.bump p.stats := by
  induction requests generalizing p es answers with
  | nil =>
    cases run
    exact ⟨h, rfl, rfl, rfl, rfl⟩
  | cons r rest ih =>
    -- The first request leaves a sound scheduler, and the others are a run of that one.
    obtain ⟨q, es₁, a, es₂, later, hr, hrest, rfl, rfl⟩ := serve_cons.mp run
    have taken := h.takes (transition_of_run hr)
    obtain ⟨hsound, hbacklog, hanswers, hevents, hstats⟩ :=
      ih (h.transition (transition_of_run hr)) hrest
    rw [taken.backlog] at hbacklog hanswers hevents hstats
    refine ⟨hsound, hbacklog, ?_, ?_, ?_⟩
    · rw [hanswers, taken.response]; rfl
    · rw [hevents, taken.events]; rfl
    · rw [hstats, taken.stats, Backlog.turns, List.flatMap_cons, List.foldl_append]

/-! ## Building -/

/-- **A scheduler is sound as it is built**, with nothing waiting and flow zero hot. -/
theorem sound_of_build {queue0 : Q₀} {queue1 : Q₁} (h : build c queue0 queue1 = .ok p) :
    Sound c p ∧ p.backlog = .empty ∧ p.stats = {} := by
  obtain ⟨hvalid, ⟨hcap₀, hlen₀⟩, ⟨hcap₁, hlen₁⟩, hp⟩ := build_eq_ok_iff.mp h
  rw [SubQueue.Lawful.len_eq] at hlen₀ hlen₁
  have hbacklog : p.backlog = .empty := by
    refine backlog_eq ?_ (by rw [hp])
    rw [hp, items, List.eq_nil_of_length_eq_zero hlen₀, List.eq_nil_of_length_eq_zero hlen₁]
    rfl
  refine ⟨?_, hbacklog, by rw [hp]⟩
  exact
    { valid := hvalid
      classifier := by rw [hp]
      capacity := by rw [hp, Config.totalCapacity_of_validate hvalid]
      capacities := by rw [hp, capacities, hcap₀, hcap₁]; rfl
      len := by rw [hbacklog, hp]; rfl
      backlog := by
        rw [hbacklog]
        exact Backlog.sound_empty c }

/-- Freshly built, a scheduler has headroom for any number of requests that is a machine word. -/
theorem Sound.headroom (h : Sound c p) (hstats : p.stats = {}) {n : Nat} (hn : n < wordLimit) :
    Headroom n p where
  capacity := h.capacity_lt
  stats counter := by
    rw [hstats, Stats.get_default, Nat.zero_add]
    exact hn

/-- **A scheduler from its building on.** Requests that are counted by a machine word are all
served, and what comes of them is read off the empty backlog. -/
theorem exists_run_of_build {queue0 : Q₀} {queue1 : Q₁} (h : build c queue0 queue1 = .ok p)
    {requests : List (Request V)} (few : requests.length < wordLimit) :
    ∃ p' es answers, (serve requests).run p = ⟨p', es, .ok answers⟩ ∧ Sound c p' ∧
      p'.backlog = Backlog.empty.after c requests ∧
      answers = (Backlog.empty.turns c requests).map (·.response) ∧
      es = (Backlog.empty.turns c requests).flatMap (·.events) := by
  obtain ⟨hsound, hempty, hstats⟩ := sound_of_build h
  obtain ⟨p', es, answers, hrun⟩ := exists_run_serve requests (hsound.headroom hstats few)
  obtain ⟨hsound', hbacklog, hanswers, hevents, -⟩ := hsound.serve hrun
  rw [hempty] at hbacklog hanswers hevents
  exact ⟨p', es, answers, hrun, hsound', hbacklog, hanswers, hevents⟩

end Pifo

end TwoFlow
