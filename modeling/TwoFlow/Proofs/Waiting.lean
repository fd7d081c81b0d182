import TwoFlow.Proofs.Service

/-!
# How long a value waits

A value that its flow takes in behind `k` others leaves by the pop number `k + 1` that the flow
serves from then on. How many pops that are in all is a question of service: as long as the value
waits, its flow is backlogged, so the other flow serves at most one pop more than the flow itself,
and not even that one if the turn was with the flow. Whatever comes in between, and however often
the other flow runs empty and wakes again, the value is gone after `2 * k + 1` pops or after
`2 * k + 2`.

Values may be equal, so that the pop hands out *this* value is said of what the flow holds when it
comes to it: the value itself in front, all that was ahead of it gone, and behind it just what the
flow has taken in since.

## Main definitions

* `Pifo.LeavesInTurn`: a value leaves by the pop that is due to it

## Main results

* `Pifo.Sound.backlogged_of_count_lt`: a flow that has not yet served all it held is backlogged
* `Pifo.exists_pop_served`: the pop of a given number that a flow serves
* `Pifo.pushed_value_leaves_in_turn`: bounded waiting
-/

namespace TwoFlow

/-- Among the flows of some values, a flow is met as often as it has values. -/
theorem Classifier.count_map_classify {V : Type} [LE V] [DecidableLE V]
    (c : Classifier V) (f : Flow) (l : List V) :
    (l.map c.classify).count f = (c.ofFlow f l).length := by
  rw [List.count_eq_countP, List.countP_map, List.countP_eq_length_filter, ofFlow]
  rfl

namespace Pifo

section Lawful

variable {V Q₀ Q₁ : Type} [SubQueue Q₀ V] [SubQueue Q₁ V] [SubQueue.Lawful Q₀] [SubQueue.Lawful Q₁]
  [LE V] [DecidableLE V] {c : Config V} {p p' : Pifo V Q₀ Q₁} {f : Flow}
  {requests : List (Request V)} {es : List Event} {answers : List (Response V)}

/-! ## Flows that have not served all they held -/

/-- The pops that a flow serves are those that are answered with its values. -/
theorem Sound.count_served (h : Sound c p)
    (run : (Pifo.serve requests).run p = ⟨p', es, .ok answers⟩) (f : Flow) :
    (es.filterMap Event.servedBy?).count f =
      (c.classifier.ofFlow f (popped (requests.zip answers))).length := by
  rw [h.servedBy_eq run, Classifier.count_map_classify]

/-- **A flow that has not yet served all it held is backlogged.** -/
theorem Sound.backlogged_of_count_lt (h : Sound c p)
    (run : (Pifo.serve requests).run p = ⟨p', es, .ok answers⟩)
    (hlt : (es.filterMap Event.servedBy?).count f < (p.items.get f).length) :
    Backlogged f p requests := by
  intro before rest hsplit q es₁ answers₁ hbefore q' es' v hpop
  -- Up to the pop in question the flow has served no more than it does over all the requests.
  have hle : (es₁.filterMap Event.servedBy?).count f ≤ (es.filterMap Event.servedBy?).count f := by
    rw [hsplit] at run
    obtain ⟨q₂, es₂, answers₂, es₃, answers₃, hbefore', -, rfl, -⟩ := serve_append.mp run
    cases hbefore.symm.trans hbefore'
    rw [List.filterMap_append, List.count_append]
    exact Nat.le_add_right _ _
  have hlaw := congrArg List.length (h.conserves hbefore f)
  rw [List.length_append, List.length_append, ← h.count_served hbefore f] at hlaw
  rw [flowLen_eq]
  omega

/-- A flow that has not served all it held serves every second pop. -/
theorem Sound.length_popped_le (h : Sound c p)
    (run : (Pifo.serve requests).run p = ⟨p', es, .ok answers⟩)
    (hlt : (es.filterMap Event.servedBy?).count f < (p.items.get f).length) :
    (popped (requests.zip answers)).length ≤
      2 * (es.filterMap Event.servedBy?).count f + if p.hot = f then 0 else 1 := by
  rw [← length_served_of_serve run]
  exact ((h.backlogged_of_count_lt run hlt).favours run).length_le

/-- A pop that a flow serves hands out the oldest value of the flow. -/
theorem Sound.get_eq_cons_of_pop (h : Sound c p) {v : V}
    (popped : (handle .pop).run p = ⟨p', es, .ok (.ok (some v))⟩)
    (served : es.filterMap Event.servedBy? = [f]) :
    p.items.get f = v :: p'.items.get f := by
  have run : (Pifo.serve [.pop]).run p = ⟨p', es, .ok [.ok (some v)]⟩ :=
    serve_cons.mpr ⟨p', es, _, [], [], popped, rfl, (List.append_nil es).symm, rfl⟩
  -- The flow that served the pop is the flow of the value.
  have hflow : [f] = [c.classifier.classify v] := served.symm.trans (h.servedBy_eq run)
  have hlaw := h.conserves run f
  rw [List.zip_cons_cons, accepted_pop, popped_pop_ok] at hlaw
  rw [List.singleton_inj.mp hflow] at hlaw ⊢
  simpa [Classifier.ofFlow] using hlaw

/-! ## The pop of a given number -/

omit [SubQueue.Lawful Q₀] [SubQueue.Lawful Q₁] in
/-- **The pop number `k + 1` that a flow serves**, if there are more than `k` of them. -/
theorem exists_pop_served (run : (serve requests).run p = ⟨p', es, .ok answers⟩) {k : Nat}
    (hk : k < (es.filterMap Event.servedBy?).count f) :
    ∃ before rest q es₁ answers₁ q' es₂ v, requests = before ++ .pop :: rest ∧
      (serve before).run p = ⟨q, es₁, .ok answers₁⟩ ∧
      (handle .pop).run q = ⟨q', es₂, .ok (.ok (some v))⟩ ∧
      es₂.filterMap Event.servedBy? = [f] ∧ (es₁.filterMap Event.servedBy?).count f = k := by
  induction requests generalizing p es answers k with
  | nil =>
    cases run
    exact absurd hk (Nat.not_lt_zero k)
  | cons r rest ih =>
    obtain ⟨q, es₁, a, es₂, later, hr, hrest, rfl, -⟩ := serve_cons.mp run
    rw [List.filterMap_append, List.count_append] at hk
    -- Whatever is found among the later requests is found after this one.
    have hlater : ∀ n, n + (es₁.filterMap Event.servedBy?).count f = k →
        n < (es₂.filterMap Event.servedBy?).count f →
        ∃ before rest' q es₁ answers₁ q' es₂ v, r :: rest = before ++ .pop :: rest' ∧
          (serve before).run p = ⟨q, es₁, .ok answers₁⟩ ∧
          (handle .pop).run q = ⟨q', es₂, .ok (.ok (some v))⟩ ∧
          es₂.filterMap Event.servedBy? = [f] ∧ (es₁.filterMap Event.servedBy?).count f = k := by
      intro n hn hlt
      obtain ⟨before, rest', q₁, es₃, answers₁, q₂, es₄, v, hsplit, hbefore, hpop,
        hserved, hcount⟩ := ih hrest hlt
      refine ⟨r :: before, rest', q₁, es₁ ++ es₃, a :: answers₁, q₂, es₄, v, ?_, ?_, hpop,
        hserved, ?_⟩
      · rw [hsplit, List.cons_append]
      · exact serve_cons.mpr ⟨q, es₁, a, es₃, answers₁, hr, hbefore, rfl, rfl⟩
      · rw [List.filterMap_append, List.count_append, hcount]
        omega
    have effect := (transition_of_run hr).effect
    rcases effect.idle_or_served with ⟨hnil, -⟩ | ⟨v, rfl, rfl⟩
    · rw [hnil, List.count_nil] at hk hlater
      exact hlater k rfl (by omega)
    · obtain ⟨g, hg⟩ := List.length_eq_one_iff.mp effect.length_served
      rw [hg] at hk hlater
      by_cases hgf : g = f
      · rw [hgf, List.count_singleton_self] at hk hlater
        cases k with
        | zero => exact ⟨[], rest, p, [], [], q, es₁, v, rfl, rfl, hr, by rw [hg, hgf], rfl⟩
        | succ k => exact hlater k rfl (by omega)
      · rw [List.count_singleton, beq_false_of_ne hgf] at hk hlater
        exact hlater k rfl (by simpa using hk)

/-! ## Leaving in turn -/

/-- **A value of flow `f` leaves in its turn**, where `ahead` was in the flow before it: there is a
pop that `f` answers with it, after having served as many pops as there were values ahead; fewer
than `limit` values are handed out before. The flow then holds the value in front, has handed out
what was ahead of it, and holds behind it what it has taken in since. -/
def LeavesInTurn (c : Config V) (f : Flow) (ahead : List V) (v : V) (limit : Nat) (p : Pifo V Q₀ Q₁)
    (requests : List (Request V)) : Prop :=
  ∃ before rest q es₁ answers₁ q' es₂, requests = before ++ .pop :: rest ∧
    (serve before).run p = ⟨q, es₁, .ok answers₁⟩ ∧
    (handle .pop).run q = ⟨q', es₂, .ok (.ok (some v))⟩ ∧
    es₂.filterMap Event.servedBy? = [f] ∧
    (es₁.filterMap Event.servedBy?).count f = ahead.length ∧
    (popped (before.zip answers₁)).length < limit ∧
    c.classifier.ofFlow f (popped (before.zip answers₁)) = ahead ∧
    q.items.get f = v :: c.classifier.ofFlow f (accepted (before.zip answers₁))

/-- A value leaves in its turn if its flow serves often enough. -/
theorem Sound.leavesInTurn (h : Sound c p) {ahead : List V} {v : V}
    (held : p.items.get f = ahead ++ [v])
    (run : (Pifo.serve requests).run p = ⟨p', es, .ok answers⟩)
    (hcount : ahead.length < (es.filterMap Event.servedBy?).count f) :
    LeavesInTurn c f ahead v (2 * ahead.length + if p.hot = f then 1 else 2) p requests := by
  obtain ⟨before, rest, q, es₁, answers₁, q', es₂, w, hsplit, hbefore, hpop, hserved, hk⟩ :=
    exists_pop_served run hcount
  have hlt : (es₁.filterMap Event.servedBy?).count f < (p.items.get f).length := by
    rw [held, hk, List.length_append]
    exact Nat.lt_succ_self _
  -- What the flow has served by then is as much as was ahead, so it is what was ahead.
  have hlaw := h.conserves hbefore f
  rw [held, List.append_assoc] at hlaw
  have hlength := (h.count_served hbefore f).symm.trans hk
  obtain ⟨hahead, hfront⟩ := List.append_inj hlaw hlength.symm
  have hw : w = v := by
    have hpopped := (h.serve hbefore).1.get_eq_cons_of_pop hpop hserved
    rw [← hfront] at hpopped
    exact (List.cons.inj hpopped).1.symm
  refine ⟨before, rest, q, es₁, answers₁, q', es₂, hsplit, hbefore, hw ▸ hpop, hserved, hk, ?_,
    hahead.symm, hfront.symm⟩
  have hle := h.length_popped_le hbefore hlt
  rw [hk] at hle
  by_cases hhot : p.hot = f
  · rw [if_pos hhot] at hle ⊢
    omega
  · rw [if_neg hhot] at hle ⊢
    omega

/-- A value leaves in its turn if enough values are handed out, by whichever flow. -/
theorem Sound.leavesInTurn_of_le (h : Sound c p) {ahead : List V} {v : V}
    (held : p.items.get f = ahead ++ [v])
    (run : (Pifo.serve requests).run p = ⟨p', es, .ok answers⟩)
    (enough : (2 * ahead.length + if p.hot = f then 1 else 2) ≤
      (popped (requests.zip answers)).length) :
    LeavesInTurn c f ahead v (2 * ahead.length + if p.hot = f then 1 else 2) p requests := by
  apply h.leavesInTurn held run
  -- A flow that had served no more than was ahead would have been backlogged all the time.
  refine Nat.lt_of_not_le fun hle => ?_
  have hlt : (es.filterMap Event.servedBy?).count f < (p.items.get f).length := by
    rw [held, List.length_append]
    exact Nat.lt_succ_of_le hle
  have hfew := h.length_popped_le run hlt
  by_cases hhot : p.hot = f
  · rw [if_pos hhot] at hfew enough
    omega
  · rw [if_neg hhot] at hfew enough
    omega

/-- A push that is accepted puts the value behind all others of its flow and leaves the turn
alone. -/
theorem Sound.get_eq_append_of_push (h : Sound c p) {v : V}
    (pushed : (handle (.push v)).run p = ⟨p', es, .ok (.ok none)⟩) :
    p'.items.get (c.classifier.classify v) = p.items.get (c.classifier.classify v) ++ [v] ∧
      p'.hot = p.hot := by
  have run : (Pifo.serve [.push v]).run p = ⟨p', es, .ok [.ok none]⟩ :=
    serve_cons.mpr ⟨p', es, _, [], [], pushed, rfl, (List.append_nil es).symm, rfl⟩
  constructor
  · have hlaw := h.conserves run (c.classifier.classify v)
    rw [List.zip_cons_cons, accepted_push_ok, popped_push] at hlaw
    simpa [Classifier.ofFlow] using hlaw.symm
  · rcases (transition_of_run pushed).effect.idle_or_served with ⟨-, hhot⟩ | ⟨w, hr, -⟩
    · exact hhot
    · cases hr

end Lawful

/-! ## Bounded waiting -/

section Stock

variable {V : Type} [LE V] [DecidableLE V] {c : Config V} {p₀ p p₁ : Pifo V (Fifo V) (Fifo V)}

/-- **Bounded waiting.** Let a scheduler over the stock queues have reached a state, and let it
accept a value then, into the flow of the value, where `k` others wait. Any requests may follow;
they are answered as long as a machine word counts them all. If the pops among them hand out
`2 * k + 1` values, or `2 * k + 2` if the turn was with the other flow, then the value is one of
these, and it leaves by the pop number `k + 1` that its flow serves. -/
theorem pushed_value_leaves_in_turn (built : withFifos c = .ok p₀) {past : List (Request V)}
    {es₀ : List Event} {answers₀ : List (Response V)}
    (reached : (serve past).run p₀ = ⟨p, es₀, .ok answers₀⟩) {v : V} {es₁ : List Event}
    (pushed : (handle (.push v)).run p = ⟨p₁, es₁, .ok (.ok none)⟩) {f : Flow}
    (flow : c.classifier.classify v = f) {limit : Nat}
    (hlimit : limit = 2 * p.flowLen f + if p.hot = f then 1 else 2) (requests : List (Request V)) :
    (past.length + 1 + requests.length < wordLimit →
      ∃ p' es answers, (serve requests).run p₁ = ⟨p', es, .ok answers⟩) ∧
    ∀ p' es answers, (serve requests).run p₁ = ⟨p', es, .ok answers⟩ →
      limit ≤ (popped (requests.zip answers)).length →
      LeavesInTurn c f (p.items.get f) v limit p₁ requests := by
  have hsound : Sound c p := ((sound_of_build built).1.serve reached).1
  constructor
  · intro few
    have reached₁ : (serve (past ++ [.push v])).run p₀ =
        ⟨p₁, es₀ ++ es₁, .ok (answers₀ ++ [.ok none])⟩ := by
      refine serve_append.mpr ⟨p, es₀, answers₀, es₁, [.ok none], reached, ?_, rfl, rfl⟩
      exact serve_cons.mpr ⟨p₁, es₁, _, [], [], pushed, rfl, (List.append_nil es₁).symm, rfl⟩
    refine exists_run_of_reached built reached₁ ?_
    rw [List.length_append]
    exact few
  · intro p' es answers hrun enough
    obtain ⟨hheld, hhot⟩ := hsound.get_eq_append_of_push pushed
    have hsound₁ := hsound.transition (transition_of_run pushed)
    rw [flow] at hheld
    rw [flowLen_eq, ← hhot] at hlimit
    rw [hlimit] at enough ⊢
    exact hsound₁.leavesInTurn_of_le hheld hrun enough

end Stock

/-- At flow capacity two, with the turn at flow one and a value of flow zero waiting: a two is
pushed and leaves by the fourth pop, although flow one is empty at first and wakes twice. Meanwhile
another two is refused and a third one is taken in behind it. -/
theorem pushed_value_leaves_in_turn_last :
    ∃ p₀ p p₁ es₀ answers₀ es₁, withFifos (⟨2, 10⟩ : Config Nat) = .ok p₀ ∧
      (serve [.push 4, .pop, .push 1]).run p₀ = ⟨p, es₀, .ok answers₀⟩ ∧
      (handle (.push 2)).run p = ⟨p₁, es₁, .ok (.ok none)⟩ ∧
      p.flowLen .zero = 1 ∧ p.hot = .one ∧
      LeavesInTurn ⟨2, 10⟩ .zero [1] 2 4 p₁
        [.push 2, .push 11, .pop, .pop, .peek, .push 12, .pop, .push 2, .pop] := by
  obtain ⟨p₀, built⟩ : ∃ p₀, withFifos (⟨2, 10⟩ : Config Nat) = .ok p₀ := ⟨_, rfl⟩
  obtain ⟨p, es₀, answers₀, reached⟩ : ∃ p es₀ answers₀,
      (serve [.push 4, .pop, .push 1]).run p₀ = ⟨p, es₀, .ok answers₀⟩ := by
    cases built
    exact ⟨_, _, _, rfl⟩
  obtain ⟨p₁, es₁, pushed⟩ : ∃ p₁ es₁,
      (handle (.push 2)).run p = ⟨p₁, es₁, .ok (.ok none)⟩ := by
    cases built
    cases reached
    exact ⟨_, _, rfl⟩
  obtain ⟨hruns, hleaves⟩ := pushed_value_leaves_in_turn built reached pushed (f := .zero) rfl rfl
    [.push 2, .push 11, .pop, .pop, .peek, .push 12, .pop, .push 2, .pop]
  obtain ⟨p', es, answers, hrun⟩ := hruns (by decide)
  have hleave := hleaves p' es answers hrun
  cases built
  cases reached
  cases pushed
  cases hrun
  exact ⟨_, _, _, _, _, _, rfl, rfl, rfl, rfl, rfl, hleave (by decide)⟩

end Pifo

end TwoFlow
