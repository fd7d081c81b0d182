import TwoFlow.Proofs.Accounts

/-!
# A flow that has values waiting is served

A flow is *backlogged* over some requests if it holds a value before each pop that hands one out;
whatever pushes, peeks and rejected requests come in between, and whatever happens to the other
flow. A backlogged flow is never passed over twice in a row, so it serves at least every second pop.
If both flows are backlogged, they take turns.

Which flows can serve while `f` is backlogged is told by the turn alone. With the turn at `f`, the
next pop is served by `f`. With the turn at the other flow, that flow serves and the turn comes to
`f`; or it is empty, and then `f` serves and the turn stays. `Favours f` collects the lists of flows
that come about in this way.

## Main definitions

* `Pifo.Backlogged`: the flow holds a value before each pop that hands one out
* `Favours`: the lists of flows that can serve meanwhile

## Main results

* `Favours.not_twice`, `Favours.length_le`: the other flow never serves twice in a row, and at most
  one pop more than the flow itself
* `Pifo.Backlogged.favours`: the flows that serve while a flow is backlogged
* `Pifo.serves_backlogged_every_second_pop`: the service guarantee
-/

namespace TwoFlow

/-! ## Lists of flows that favour a flow -/

theorem Flow.length_eq_count_add_count (l : List Flow) (f : Flow) :
    l.length = l.count f + l.count f.other := by
  induction l with
  | nil => rfl
  | cons g rest ih =>
    by_cases hg : g = f
    · rw [hg, List.count_cons_self, List.count_cons_of_ne f.other_ne.symm, List.length_cons]
      omega
    · rw [List.count_cons_of_ne hg, eq_other_of_ne hg, List.count_cons_self, List.length_cons]
      omega

/-- **The flows that can serve while `f` is backlogged**, where the first flow has the turn. -/
inductive Favours (f : Flow) : Flow → List Flow → Prop
  | nil (hot : Flow) : Favours f hot []
  /-- The flow that has the turn serves and passes it on. -/
  | primary (hot : Flow) {served : List Flow} (later : Favours f hot.other served) :
    Favours f hot (hot :: served)
  /-- The other flow has the turn but no value; `f` serves and the turn stays. -/
  | fallback {served : List Flow} (later : Favours f f.other served) :
    Favours f f.other (f :: served)

namespace Favours

variable {f hot : Flow} {served : List Flow}

/-- With its turn, the flow serves next. -/
theorem head_eq {g : Flow} (h : Favours f hot (g :: served)) (turn : hot = f) : g = f := by
  cases h with
  | primary => exact turn
  | fallback => rfl

/-- **The other flow never serves twice in a row.** -/
theorem not_twice (h : Favours f hot served) (i : Nat) (hi : served[i]? = some f.other) :
    served[i + 1]? ≠ some f.other := by
  induction h generalizing i with
  | nil => simp at hi
  | primary hot later ih =>
    cases i with
    | succ i => exact ih i hi
    | zero =>
      -- The other flow has just served, so the turn is with `f`.
      have hhot : hot = f.other := Option.some.inj hi
      rintro htwice
      rename_i served
      cases served with
      | nil => cases htwice
      | cons g rest =>
        have hg : g = f := later.head_eq (by rw [hhot, Flow.other_other])
        rw [hg] at htwice
        exact f.other_ne (Option.some.inj htwice).symm
  | fallback later ih =>
    cases i with
    | succ i => exact ih i hi
    | zero => exact absurd (Option.some.inj hi).symm f.other_ne

/-- **The flow serves every second time**, from the first pop on if it has the turn. -/
theorem length_le (h : Favours f hot served) :
    served.length ≤ 2 * served.count f + if hot = f then 0 else 1 := by
  induction h with
  | nil => exact Nat.zero_le _
  | primary hot later ih =>
    by_cases hhot : hot = f
    · rw [hhot, if_neg f.other_ne] at ih
      rw [hhot, if_pos rfl, List.count_cons_self, List.length_cons]
      omega
    · rw [Flow.eq_other_of_ne hhot, Flow.other_other, if_pos rfl] at ih
      rw [if_neg hhot, List.count_cons_of_ne hhot, List.length_cons]
      omega
  | fallback later ih =>
    rw [if_neg f.other_ne] at ih ⊢
    rw [List.count_cons_self, List.length_cons]
    omega

end Favours

namespace Pifo

variable {V Q₀ Q₁ : Type} [SubQueue Q₀ V] [SubQueue Q₁ V] {p p' : Pifo V Q₀ Q₁}

/-! ## Runs with a backlogged flow -/

section Lawful

theorem flowLen_of_subPop_error [SubQueue.Lawful Q₀] [SubQueue.Lawful Q₁] {f : Flow}
    {e : QueueError} (asked : (subPop f).run p = ⟨p', [], .ok (.error e)⟩) : p.flowLen f = 0 := by
  obtain ⟨hanswer, -, -⟩ := items_of_subPop asked
  rw [flowLen_eq, (Answer.ofHead_eq_error_iff.mp hanswer.symm).1]
  rfl

variable [LE V] [DecidableLE V]

/-- **The flow is backlogged**: it holds a value right before each pop of the list that hands one
out. -/
def Backlogged (f : Flow) (p : Pifo V Q₀ Q₁) (requests : List (Request V)) : Prop :=
  ∀ before rest, requests = before ++ .pop :: rest →
    ∀ q es answers, (serve before).run p = ⟨q, es, .ok answers⟩ →
      ∀ q' es' v, (handle .pop).run q = ⟨q', es', .ok (.ok (some v))⟩ → 0 < q.flowLen f

variable {f : Flow} {r : Request V} {requests rest : List (Request V)} {es : List Event}
  {a : Response V} {answers : List (Response V)}

theorem backlogged_nil : Backlogged f p [] := by
  intro before rest hsplit
  simp at hsplit

theorem backlogged_cons_iff (answered : (handle r).run p = ⟨p', es, .ok a⟩) :
    Backlogged f p (r :: rest) ↔
      (∀ v, r = .pop → a = .ok (some v) → 0 < p.flowLen f) ∧ Backlogged f p' rest := by
  constructor
  · intro h
    constructor
    · rintro v rfl rfl
      exact h [] rest rfl p [] [] rfl p' es v answered
    · rintro before later rfl q es' answers hbefore
      refine h (r :: before) later rfl q (es ++ es') (a :: answers) ?_
      exact serve_cons.mpr ⟨p', es, a, es', answers, answered, hbefore, rfl, rfl⟩
  · rintro ⟨hhead, htail⟩ before later hsplit q es' answers hbefore q' es'' v hpop
    -- What is asked of a pop further on is asked of it after the first request too.
    cases before with
    | nil =>
      obtain ⟨rfl, rfl⟩ := List.cons.inj hsplit
      cases hbefore
      cases answered.symm.trans hpop
      exact hhead v rfl rfl
    | cons r' before =>
      obtain ⟨rfl, rfl⟩ := List.cons.inj hsplit
      obtain ⟨p'', es₁, b, es₂, answers₂, hr, hserve, -, -⟩ := serve_cons.mp hbefore
      cases answered.symm.trans hr
      exact htail before later rfl q es₂ answers₂ hserve q' es'' v hpop

variable [SubQueue.Lawful Q₀] [SubQueue.Lawful Q₁]

theorem Transition.favours (way : Transition p r p' es a)
    (waiting : ∀ v, r = .pop → a = .ok (some v) → 0 < p.flowLen f) {served : List Flow}
    (later : Favours f p'.hot served) :
    Favours f p.hot (es.filterMap Event.servedBy? ++ served) := by
  rcases way.effect.idle_or_served with ⟨hnil, hhot⟩ | ⟨v, rfl, rfl⟩
  · rw [hnil, List.nil_append, ← hhot]
    exact later
  · cases way with
    | popPrimary holds asked =>
      rw [(sameControl_of_subPop asked).hot] at later
      exact .primary p.hot later
    | popFallback holds asked askedOther =>
      have same := (sameControl_of_subPop asked).trans (sameControl_of_subPop askedOther)
      -- The flow that has the turn came up empty, so it is not `f`.
      have hempty : p.flowLen p.hot = 0 := flowLen_of_subPop_error asked
      have hwaiting : 0 < p.flowLen f := waiting v rfl rfl
      have hother : p.hot = f.other := Flow.eq_other_of_ne fun heq => by
        rw [heq] at hempty
        exact Nat.ne_of_gt hwaiting hempty
      rw [same.hot, hother] at later
      rw [hother, Flow.other_other]
      exact .fallback later

/-- **The flows that serve while a flow is backlogged.** -/
theorem Backlogged.favours (h : Backlogged f p requests)
    (run : (serve requests).run p = ⟨p', es, .ok answers⟩) :
    Favours f p.hot (es.filterMap Event.servedBy?) := by
  induction requests generalizing p es answers with
  | nil =>
    cases run
    exact .nil _
  | cons r rest ih =>
    obtain ⟨q, es₁, a, es₂, later, hr, hrest, rfl, -⟩ := serve_cons.mp run
    obtain ⟨hwaiting, htail⟩ := (backlogged_cons_iff hr).mp h
    rw [List.filterMap_append]
    exact (transition_of_run hr).favours hwaiting (ih htail hrest)

end Lawful

/-! ## The guarantee -/

variable {V : Type} [LE V] [DecidableLE V] {c : Config V} {p₀ p : Pifo V (Fifo V) (Fifo V)}

/-- A scheduler goes on from any state that it has reached. -/
theorem exists_run_of_reached (built : withFifos c = .ok p₀) {past : List (Request V)}
    {es : List Event} {answers : List (Response V)}
    (reached : (serve past).run p₀ = ⟨p, es, .ok answers⟩) {requests : List (Request V)}
    (few : past.length + requests.length < wordLimit) :
    ∃ p' es' answers', (serve requests).run p = ⟨p', es', .ok answers'⟩ := by
  rw [← List.length_append] at few
  obtain ⟨p', _, _, hrun, -⟩ := exists_run_of_build built few
  obtain ⟨q, _, _, es₂, answers₂, hpast, hrequests, -, -⟩ := serve_append.mp hrun
  -- The past has only one outcome.
  cases reached.symm.trans hpast
  exact ⟨p', es₂, answers₂, hrequests⟩

/-- **The service guarantee.** Let a scheduler over the stock queues have reached a state, and let
any requests come. They are answered as long as a machine word counts them all. The pops among them
that hand a value out are each served by the flow of the value, and are counted for it. If a flow is
backlogged, the other one never serves two of these pops in a row, and at least half of them,
rounded down, are served by the flow itself. If both flows are backlogged, they take turns, and
neither serves more than one pop more than the other. -/
theorem serves_backlogged_every_second_pop (built : withFifos c = .ok p₀) {past : List (Request V)}
    {es₀ : List Event} {answers₀ : List (Response V)}
    (reached : (serve past).run p₀ = ⟨p, es₀, .ok answers₀⟩) (requests : List (Request V)) :
    (past.length + requests.length < wordLimit →
      ∃ p' es answers, (serve requests).run p = ⟨p', es, .ok answers⟩) ∧
    ∀ p' es answers, (serve requests).run p = ⟨p', es, .ok answers⟩ →
      ∃ served : List Flow, served = es.filterMap Event.servedBy? ∧
        served = (popped (requests.zip answers)).map c.classifier.classify ∧
        (∀ f, p'.stats.served.get f = p.stats.served.get f + served.count f) ∧
        (∀ f, Backlogged f p requests →
          (∀ i, served[i]? = some f.other → served[i + 1]? ≠ some f.other) ∧
            served.length / 2 ≤ served.count f) ∧
        ((∀ f, Backlogged f p requests) →
          (∀ i g, served[i]? = some g → served[i + 1]? ≠ some g) ∧
            ∀ f, served.count f ≤ served.count f.other + 1) := by
  refine ⟨exists_run_of_reached built reached, fun p' es answers hrun => ?_⟩
  have hsound : Sound c p := ((sound_of_build built).1.serve reached).1
  refine ⟨es.filterMap Event.servedBy?, rfl, ?_, (counted_of_serve hrun).served, ?_, ?_⟩
  · obtain ⟨-, -, rfl, rfl, -⟩ := hsound.serve hrun
    exact hsound.backlog.servedBy_turns requests
  · intro f hf
    have hfavours := hf.favours hrun
    refine ⟨hfavours.not_twice, ?_⟩
    have hle := hfavours.length_le
    split at hle <;> omega
  · intro hboth
    constructor
    · intro i g hg
      -- A flow is the other one of its sibling, which is backlogged too.
      have hfavours := (hboth g.other).favours hrun
      rw [← Flow.other_other g] at hg ⊢
      exact hfavours.not_twice i hg
    · intro f
      have hle := ((hboth f.other).favours hrun).length_le
      have hlength := Flow.length_eq_count_add_count (es.filterMap Event.servedBy?) f
      split at hle <;> omega

/-- At flow capacity two, with both flows full at first: three pops with a rejected push, a peek and
an accepted push in between are served by turns. -/
theorem serves_backlogged_every_second_pop_two :
    ∃ p₀ p es₀ answers₀, withFifos (⟨2, 10⟩ : Config Nat) = .ok p₀ ∧
      (serve [.push 1, .push 2, .push 11, .push 12]).run p₀ = ⟨p, es₀, .ok answers₀⟩ ∧
      (∀ f, Backlogged f p [.pop, .push 13, .peek, .pop, .push 5, .pop]) ∧
      ∃ p' es answers,
        (serve [.pop, .push 13, .peek, .pop, .push 5, .pop]).run p = ⟨p', es, .ok answers⟩ ∧
          ∃ served : List Flow, served = es.filterMap Event.servedBy? ∧ served.length = 3 ∧
            (∀ i g, served[i]? = some g → served[i + 1]? ≠ some g) := by
  obtain ⟨p₀, built⟩ : ∃ p₀, withFifos (⟨2, 10⟩ : Config Nat) = .ok p₀ := ⟨_, rfl⟩
  obtain ⟨p, es₀, answers₀, reached⟩ : ∃ p es₀ answers₀,
      (serve [.push 1, .push 2, .push 11, .push 12]).run p₀ = ⟨p, es₀, .ok answers₀⟩ := by
    cases built
    exact ⟨_, _, _, rfl⟩
  have hboth : ∀ f, Backlogged f p [.pop, .push 13, .peek, .pop, .push 5, .pop] := by
    cases built
    cases reached
    intro f
    refine (backlogged_cons_iff rfl).mpr ⟨fun v _ _ => by cases f <;> decide, ?_⟩
    refine (backlogged_cons_iff rfl).mpr ⟨by simp, ?_⟩
    refine (backlogged_cons_iff rfl).mpr ⟨by simp, ?_⟩
    refine (backlogged_cons_iff rfl).mpr ⟨fun v _ _ => by cases f <;> decide, ?_⟩
    refine (backlogged_cons_iff rfl).mpr ⟨by simp, ?_⟩
    exact (backlogged_cons_iff rfl).mpr ⟨fun v _ _ => by cases f <;> decide, backlogged_nil⟩
  obtain ⟨hruns, hserves⟩ := serves_backlogged_every_second_pop built reached
    [.pop, .push 13, .peek, .pop, .push 5, .pop]
  obtain ⟨p', es, answers, hrun⟩ := hruns (by decide)
  obtain ⟨served, hserved, -, -, -, halternate⟩ := hserves p' es answers hrun
  refine ⟨p₀, p, es₀, answers₀, built, reached, hboth, p', es, answers, hrun, served, hserved, ?_,
    (halternate hboth).1⟩
  cases built
  cases reached
  cases hrun
  rw [hserved]
  rfl

end Pifo

end TwoFlow
