import TwoFlow.Proofs.NextPop
import TwoFlow.Proofs.Waiting

/-!
# A silent flow keeps its turn

A flow that has the turn and no value is *silent*. While it is, every pop falls back to the other
flow, and the turn does not move, however long the silence lasts and whatever else is asked for or
rejected meanwhile. So when the silent flow wakes, its value is the next one to be handed out,
before all that waits in the other flow, and with it the turn is passed on at last.

Two facts are put together here. The turn stays as long as the flow that has it serves no pop; this
is a matter of the books alone, over any sub-queues. And a flow that holds nothing and takes nothing
in serves no pop; this is the law of conservation.

## Main definitions

* `Pifo.Stays`: the turn has stayed, and a number of pops fell back
* `Pifo.ServedNext`: the value is what the next pop hands out, and it passes the turn on

## Main results

* `Pifo.stays_of_serve`: the turn stays as long as the flow that has it serves no pop
* `Pifo.Sound.silent_of_serve`: a flow that holds nothing and takes nothing in serves no pop
* `Pifo.Sound.servedNext`: the only value of the flow with the turn is served next
* `Pifo.silent_flow_keeps_its_turn`: both over the stock queues, and what happens when the flow
  wakes
-/

namespace TwoFlow

/-- Where there is no value of one flow, all are of the other one. -/
theorem Classifier.ofFlow_other_eq_self {V : Type} [LE V] [DecidableLE V]
    {c : Classifier V} {f : Flow} {l : List V} (none : c.ofFlow f l = []) :
    c.ofFlow f.other l = l := by
  apply List.filter_eq_self.mpr
  intro v hv
  have hne : c.classify v ≠ f := by simpa using List.filter_eq_nil_iff.mp none v hv
  simpa using Flow.eq_other_of_ne hne

namespace Pifo

variable {V Q₀ Q₁ : Type} {p p' q : Pifo V Q₀ Q₁}

/-! ## The turn stays -/

/-- **The turn has stayed**: no pop found a value in the flow that has it, and `n` pops fell
back. -/
structure Stays (n : Nat) (p p' : Pifo V Q₀ Q₁) : Prop where
  hot : p'.hot = p.hot
  popsPrimary : p'.stats.popsPrimary = p.stats.popsPrimary
  popsFallback : p'.stats.popsFallback = p.stats.popsFallback + n

theorem Stays.refl (p : Pifo V Q₀ Q₁) : Stays 0 p p := ⟨rfl, rfl, rfl⟩

theorem Stays.trans {m n : Nat} (h : Stays m p q) (h' : Stays n q p') : Stays (m + n) p p' where
  hot := h'.hot.trans h.hot
  popsPrimary := h'.popsPrimary.trans h.popsPrimary
  popsFallback := by rw [h'.popsFallback, h.popsFallback, Nat.add_assoc]

/-- A request keeps the turn unless the flow that has it serves the request. -/
theorem Effect.stays {r : Request V} {a : Response V} {served : List Flow}
    (h : Effect p p' r a served) (idle : p.hot ∉ served) : Stays served.length p p' := by
  cases h with
  | pushRejected raised hot _ stats =>
    rcases raised with rfl | rfl <;> exact ⟨hot, by rw [stats]; rfl, by rw [stats]; rfl⟩
  | pushAccepted _ hot _ stats | popRejected hot _ stats | popFallback _ hot _ stats =>
    exact ⟨hot, by rw [stats]; rfl, by rw [stats]; rfl⟩
  | peek hot _ stats => exact ⟨hot, by rw [stats], by rw [stats]; rfl⟩
  | popPrimary => exact absurd List.mem_cons_self idle

variable [SubQueue Q₀ V] [SubQueue Q₁ V] [LE V] [DecidableLE V] {c : Config V} {f : Flow}
  {requests : List (Request V)} {es : List Event} {answers : List (Response V)}

/-- **The turn stays as long as the flow that has it serves no pop**, over any sub-queues. -/
theorem stays_of_serve (run : (serve requests).run p = ⟨p', es, .ok answers⟩)
    (idle : p.hot ∉ es.filterMap Event.servedBy?) :
    Stays (es.filterMap Event.servedBy?).length p p' := by
  induction requests generalizing p es answers with
  | nil =>
    cases run
    exact .refl _
  | cons r rest ih =>
    obtain ⟨q, es₁, a, es₂, later, hr, hrest, rfl, -⟩ := serve_cons.mp run
    rw [List.filterMap_append, List.mem_append, not_or] at idle
    rw [List.filterMap_append, List.length_append]
    -- The first request has left the turn where it was, so the others find the same flow idle.
    have hfirst := (transition_of_run hr).effect.stays idle.1
    exact hfirst.trans (ih hrest (hfirst.hot.symm ▸ idle.2))

/-! ## Silent flows -/

/-- A flow that takes nothing in over some requests takes nothing in over the first of them. -/
theorem untouched_of_append {before rest : List (Request V)} {q : Pifo V Q₀ Q₁} {es₁ : List Event}
    {answers₁ answers₂ : List (Response V)} (run : (serve before).run p = ⟨q, es₁, .ok answers₁⟩)
    (untouched : c.classifier.ofFlow f
      (accepted ((before ++ rest).zip (answers₁ ++ answers₂))) = []) :
    c.classifier.ofFlow f (accepted (before.zip answers₁)) = [] := by
  rw [List.zip_append (length_of_serve run).symm, accepted_append, Classifier.ofFlow_append,
    List.append_eq_nil_iff] at untouched
  exact untouched.1

section Lawful

variable [SubQueue.Lawful Q₀] [SubQueue.Lawful Q₁]

/-- **A flow that holds nothing and takes nothing in** serves no pop, and holds nothing
afterwards. -/
theorem Sound.silent_of_serve (h : Sound c p)
    (run : (Pifo.serve requests).run p = ⟨p', es, .ok answers⟩)
    (silent : p.items.get f = [])
    (untouched : c.classifier.ofFlow f (accepted (requests.zip answers)) = []) :
    c.classifier.ofFlow f (popped (requests.zip answers)) = [] ∧ p'.items.get f = [] ∧
      f ∉ es.filterMap Event.servedBy? := by
  have hlaw := h.conserves run f
  rw [silent, untouched, List.append_nil, eq_comm, List.append_eq_nil_iff] at hlaw
  obtain ⟨hpopped, hitems⟩ := hlaw
  refine ⟨hpopped, hitems, ?_⟩
  -- A pop that the flow served would have handed out one of its values.
  rw [h.servedBy_eq run, List.mem_map]
  rintro ⟨v, hv, hclass⟩
  have hmem : v ∈ c.classifier.ofFlow f (popped (requests.zip answers)) :=
    List.mem_filter.mpr ⟨hv, by simpa using hclass⟩
  rw [hpopped] at hmem
  cases hmem

/-! ## Waking -/

/-- **The value is served next**: whatever pushes and peeks come in between, the next pop hands it
out, from the flow that has the turn, and passes the turn on. -/
def ServedNext (v : V) (p : Pifo V Q₀ Q₁) : Prop :=
  ∀ between : List (Request V), (∀ r ∈ between, r ≠ .pop) →
    ∀ q es₁ answers q' es₂ a, (serve between).run p = ⟨q, es₁, .ok answers⟩ →
      (handle .pop).run q = ⟨q', es₂, .ok a⟩ →
      a = .ok (some v) ∧ q.hot = p.hot ∧ q'.hot = p.hot.other ∧
        q'.stats.popsPrimary = q.stats.popsPrimary + 1

/-- The oldest value of the flow that has the turn is served next. -/
theorem Sound.servedNext (h : Sound c p) {v : V} {others : List V}
    (hhot : p.items.get p.hot = v :: others) : ServedNext v p := by
  intro between noPop q es₁ answers q' es₂ a hrun hpop
  have hturn := hot_of_serve hrun noPop
  -- What has joined stands behind the value.
  have hfront : q.backlog.flows.get q.backlog.hot =
      v :: (others ++ c.classifier.ofFlow p.hot (accepted (between.zip answers))) := by
    rw [backlog_flows, backlog_hot, hturn, h.items_of_serve hrun noPop, hhot, List.cons_append]
  have taken := (h.serve hrun).1.takes (transition_of_run hpop)
  rw [Backlog.turn_pop_primary hfront] at taken
  refine ⟨taken.response, hturn, ?_, ?_⟩
  · rw [← hturn]
    exact congrArg Backlog.hot taken.backlog
  · rw [taken.stats]
    rfl

/-- **A flow that holds nothing accepts any value of its own**, and then holds that value alone. -/
theorem Sound.push_of_silent (h : Sound c p) {v : V}
    (silent : p.items.get (c.classifier.classify v) = [])
    {a : Response V} (run : (handle (.push v)).run p = ⟨p', es, .ok a⟩) :
    a = .ok none ∧ p'.items.get (c.classifier.classify v) = [v] ∧ p'.hot = p.hot := by
  have hpos := ((Config.validate_eq_ok_iff c).mp h.valid).1
  have haccepted : a = .ok none := by
    rw [(h.push_accepted_iff (transition_of_run run)).1, flowLen_eq, silent, List.length_nil]
    exact Nat.ne_of_lt hpos
  rw [haccepted] at run
  obtain ⟨hitems, hhot⟩ := h.get_eq_append_of_push run
  rw [silent] at hitems
  exact ⟨haccepted, hitems, hhot⟩

end Lawful

/-! ## Silence over the stock queues -/

section Stock

variable {p₀ p : Pifo V (Fifo V) (Fifo V)}

/-- **A silent flow keeps its turn.** Let a scheduler over the stock queues have reached a state in
which flow `h` has the turn and no value, and let any requests follow. They are answered as long as
a machine word counts them all. If `h` takes no value in over them, then after each of them the turn
is still with `h`, which is still empty, and no pop was counted as primary. The values handed out
are those of the other flow, in order: what waited there, and then what joined; and each of these
pops was served by the other flow and fell back.

A value of `h` that is pushed then is accepted, and it is served next. -/
theorem silent_flow_keeps_its_turn (built : withFifos c = .ok p₀) {past : List (Request V)}
    {es₀ : List Event} {answers₀ : List (Response V)}
    (reached : (serve past).run p₀ = ⟨p, es₀, .ok answers₀⟩) {h : Flow} (hot : p.hot = h)
    (silent : p.items.get h = []) (requests : List (Request V)) :
    (past.length + requests.length < wordLimit →
      ∃ p₁ es answers, (serve requests).run p = ⟨p₁, es, .ok answers⟩) ∧
    ∀ p₁ es answers, (serve requests).run p = ⟨p₁, es, .ok answers⟩ →
      c.classifier.ofFlow h (accepted (requests.zip answers)) = [] →
      (∀ before rest, requests = before ++ rest →
        ∃ q es₁ answers₁, (serve before).run p = ⟨q, es₁, .ok answers₁⟩ ∧
          q.hot = h ∧ q.items.get h = [] ∧ q.stats.popsPrimary = p.stats.popsPrimary) ∧
      p.items.get h.other ++ accepted (requests.zip answers) =
        popped (requests.zip answers) ++ p₁.items.get h.other ∧
      es.filterMap Event.servedBy? =
        List.replicate (popped (requests.zip answers)).length h.other ∧
      p₁.stats.popsFallback = p.stats.popsFallback + (popped (requests.zip answers)).length ∧
      ∀ v, c.classifier.classify v = h →
        (∀ between : List (Request V),
          past.length + requests.length + 1 + between.length + 1 < wordLimit →
          ∃ p₂ es₂ a q es₃ answers₃ q' es₄ b, (handle (.push v)).run p₁ = ⟨p₂, es₂, .ok a⟩ ∧
            (serve between).run p₂ = ⟨q, es₃, .ok answers₃⟩ ∧
            (handle .pop).run q = ⟨q', es₄, .ok b⟩) ∧
        ∀ p₂ es₂ a, (handle (.push v)).run p₁ = ⟨p₂, es₂, .ok a⟩ →
          a = .ok none ∧ p₂.hot = h ∧ ServedNext v p₂ := by
  subst hot
  have hsound : Sound c p := ((sound_of_build built).1.serve reached).1
  refine ⟨exists_run_of_reached built reached, fun p₁ es answers hrun untouched => ?_⟩
  obtain ⟨hpopped, hempty, hidle⟩ := hsound.silent_of_serve hrun silent untouched
  have hstays := stays_of_serve hrun hidle
  have hsound₁ : Sound c p₁ := (hsound.serve hrun).1
  refine ⟨?_, ?_, ?_, ?_, ?_⟩
  · rintro before rest rfl
    obtain ⟨q, es₁, answers₁, es₂, answers₂, hbefore, -, rfl, rfl⟩ := serve_append.mp hrun
    obtain ⟨-, hempty₁, hidle₁⟩ :=
      hsound.silent_of_serve hbefore silent (untouched_of_append hbefore untouched)
    have hstays₁ := stays_of_serve hbefore hidle₁
    exact ⟨q, es₁, answers₁, hbefore, hstays₁.hot, hempty₁, hstays₁.popsPrimary⟩
  · have hlaw := hsound.conserves hrun p.hot.other
    rw [Classifier.ofFlow_other_eq_self untouched, Classifier.ofFlow_other_eq_self hpopped] at hlaw
    exact hlaw
  · rw [List.eq_replicate_iff, length_served_of_serve hrun]
    refine ⟨rfl, fun f hf => Flow.eq_other_of_ne ?_⟩
    rintro rfl
    exact hidle hf
  · rw [hstays.popsFallback, length_served_of_serve hrun]
  · rintro v hclass
    constructor
    · intro between few
      have few' :
          past.length + (requests ++ Request.push v :: (between ++ [.pop])).length < wordLimit := by
        simp only [List.length_append, List.length_cons, List.length_nil]
        omega
      -- The requests, the push, what comes in between and the pop, as one list and then taken
      -- apart.
      obtain ⟨_, _, _, hall⟩ := exists_run_of_reached built reached few'
      obtain ⟨p₁', _, _, _, _, hrun', hrest, -, -⟩ := serve_append.mp hall
      cases hrun.symm.trans hrun'
      obtain ⟨p₂, es₂, a, _, _, hpush, hrest, -, -⟩ := serve_cons.mp hrest
      obtain ⟨q, es₃, answers₃, _, _, hbetween, hrest, -, -⟩ := serve_append.mp hrest
      obtain ⟨q', es₄, b, _, _, hpop, -⟩ := serve_cons.mp hrest
      exact ⟨p₂, es₂, a, q, es₃, answers₃, q', es₄, b, hpush, hbetween, hpop⟩
    · intro p₂ es₂ a hpush
      obtain ⟨haccepted, hitems, hhot⟩ := hsound₁.push_of_silent (hclass ▸ hempty) hpush
      have hturn : p₂.hot = p.hot := hhot.trans hstays.hot
      have hwoken : p₂.items.get p₂.hot = [v] := by
        rw [hturn, ← hclass]
        exact hitems
      exact ⟨haccepted, hturn, (hsound₁.transition (transition_of_run hpush)).servedNext hwoken⟩

end Stock

/-- At flow capacity two, with the turn at flow one, which is silent, and a value of flow zero
waiting: two pops fall back and a third one finds nothing, while flow zero takes values in and
rejects one. Then flow one wakes with a fourteen, more of both flows join, and the next pop hands
the fourteen out. -/
theorem silent_flow_keeps_its_turn_long :
    ∃ p₀ p es₀ answers₀ p₁ es answers, withFifos (⟨2, 10⟩ : Config Nat) = .ok p₀ ∧
      (serve [.push 1, .pop, .push 2]).run p₀ = ⟨p, es₀, .ok answers₀⟩ ∧ p.hot = .one ∧
      p.items.get .one = [] ∧
      (serve [.push 3, .push 4, .pop, .peek, .pop, .pop, .push 5]).run p = ⟨p₁, es, .ok answers⟩ ∧
      popped (List.zip [.push 3, .push 4, .pop, .peek, .pop, .pop, .push 5] answers) = [2, 3] ∧
      p₁.stats.popsFallback = 2 ∧
      ∃ p₂ es₂, (handle (.push 14)).run p₁ = ⟨p₂, es₂, .ok (.ok none)⟩ ∧ p₂.hot = .one ∧
        ∃ q es₃ answers₃ q' es₄,
          (serve [.push 6, .push 15, .peek]).run p₂ = ⟨q, es₃, .ok answers₃⟩ ∧
          (handle .pop).run q = ⟨q', es₄, .ok (.ok (some 14))⟩ ∧ q'.hot = .zero := by
  obtain ⟨p₀, built⟩ : ∃ p₀, withFifos (⟨2, 10⟩ : Config Nat) = .ok p₀ := ⟨_, rfl⟩
  obtain ⟨p, es₀, answers₀, reached⟩ : ∃ p es₀ answers₀,
      (serve [.push 1, .pop, .push 2]).run p₀ = ⟨p, es₀, .ok answers₀⟩ := by
    cases built
    exact ⟨_, _, _, rfl⟩
  have hot : p.hot = .one := by
    cases built
    cases reached
    rfl
  have silent : p.items.get .one = [] := by
    cases built
    cases reached
    rfl
  obtain ⟨hruns, hsilent⟩ := silent_flow_keeps_its_turn built reached hot silent
    [.push 3, .push 4, .pop, .peek, .pop, .pop, .push 5]
  obtain ⟨p₁, es, answers, hrun⟩ := hruns (by decide)
  have untouched : Classifier.ofFlow ⟨10⟩ .one (accepted (List.zip
      [.push 3, .push 4, .pop, .peek, .pop, .pop, .push 5] answers)) = [] := by
    cases built
    cases reached
    cases hrun
    rfl
  have hpopped :
      popped (List.zip [.push 3, .push 4, .pop, .peek, .pop, .pop, .push 5] answers) = [2, 3] := by
    cases built
    cases reached
    cases hrun
    rfl
  obtain ⟨-, -, -, hfallback, hwakes⟩ := hsilent p₁ es answers hrun untouched
  obtain ⟨hanswered, hserved⟩ := hwakes 14 rfl
  obtain ⟨p₂, es₂, a, q, es₃, answers₃, q', es₄, b, hpush, hbetween, hpop⟩ :=
    hanswered [.push 6, .push 15, .peek] (by decide)
  obtain ⟨rfl, hturn, hnext⟩ := hserved p₂ es₂ a hpush
  obtain ⟨rfl, -, hpassed, -⟩ := hnext _ (by decide) q es₃ answers₃ q' es₄ b hbetween hpop
  have hbefore : p.stats.popsFallback = 0 := by
    cases built
    cases reached
    rfl
  rw [hpopped, hbefore] at hfallback
  exact ⟨p₀, p, es₀, answers₀, p₁, es, answers, built, reached, hot, silent, hrun, hpopped,
    hfallback, p₂, es₂, hpush, hturn, q, es₃, answers₃, q', es₄, hbetween, hpop,
    by rw [hpassed, hturn]; rfl⟩

end Pifo

end TwoFlow
