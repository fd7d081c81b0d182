import TwoFlow.Proofs.Rejection

/-!
# Pushes to different flows commute

Two pushes that stand next to each other may change places if their values belong to different
flows. Both of them go through the bound of the scheduler as a whole and raise the same length, so
what the second one meets depends on the first: the bound that turns it away may be another one,
with another payload and another counter. Whether it is turned away does not depend on it. That is
decided by its own flow alone, and the other push does not touch this flow. So after both the
scheduler holds the same values, whatever their order was, and nothing that comes later can tell.

Swaps are given by the places where they happen, one after the other, so that the responses can be
rearranged as the requests were: up to the bound that an overflow reports, the responses to the
rearranged requests are the rearranged responses. At a place where no swap happened they are the
responses themselves.

## Main definitions

* `swapAt`, `rearrange`: swaps of neighbours in a list, one and several
* `Swapped`: requests that differ by swaps of neighbouring pushes to different flows
* `verdict`: a response without the bound that an overflow reports
* `Stats.merged`: the statistics with the rejected pushes of both kinds counted together
* `Turn.Rearranged`: the turns of swapped requests, up to the bounds that were met

## Main results

* `Backlog.Sound.gist_push`: what a push comes to is decided by its own flow
* `Backlog.Sound.rearranged_of_swap`, `Backlog.Sound.rearranged`: the turns of swapped requests
* `Pifo.pushes_to_different_flows_commute`: the same of a scheduler over the stock queues
-/

namespace TwoFlow

/-! ## Swaps in a list -/

section Swaps

variable {α β : Type}

/-- Swaps the entries at a place and the next one. -/
def swapAt : Nat → List α → List α
  | 0, x :: y :: l => y :: x :: l
  | i + 1, x :: l => x :: swapAt i l
  | _, l => l

/-- Swaps neighbours at the given places, one after the other. -/
def rearrange (places : List Nat) (l : List α) : List α := places.foldl (fun l i => swapAt i l) l

theorem swapAt_append (before after : List α) (x y : α) :
    swapAt before.length (before ++ x :: y :: after) = before ++ y :: x :: after := by
  induction before with
  | nil => rfl
  | cons z before ih => exact congrArg (z :: ·) ih

theorem map_swapAt (g : α → β) (i : Nat) (l : List α) :
    (swapAt i l).map g = swapAt i (l.map g) := by
  induction i generalizing l with
  | zero =>
    match l with
    | [] | [_] | _ :: _ :: _ => rfl
  | succ i ih =>
    cases l with
    | nil => rfl
    | cons x l => exact congrArg (g x :: ·) (ih l)

theorem map_rearrange (g : α → β) (places : List Nat) (l : List α) :
    (rearrange places l).map g = rearrange places (l.map g) := by
  induction places generalizing l with
  | nil => rfl
  | cons i places ih =>
    show (rearrange places (swapAt i l)).map g = rearrange places (swapAt i (l.map g))
    rw [ih, map_swapAt]

theorem swapAt_perm (i : Nat) (l : List α) : (swapAt i l).Perm l := by
  fun_induction swapAt i l with
  | case1 x y l => exact List.Perm.swap x y l
  | case2 i x l ih => exact ih.cons x
  | case3 => exact List.Perm.refl _

theorem rearrange_perm (places : List Nat) (l : List α) : (rearrange places l).Perm l := by
  induction places generalizing l with
  | nil => exact List.Perm.refl _
  | cons i places ih => exact (ih (swapAt i l)).trans (swapAt_perm i l)

/-- What stands elsewhere stays, whatever the two entries are replaced by. -/
theorem getElem?_append_of_ne (before after : List α) (x y x' y' : α) {i : Nat}
    (h : i ≠ before.length ∧ i ≠ before.length + 1) :
    (before ++ x' :: y' :: after)[i]? = (before ++ x :: y :: after)[i]? := by
  induction before generalizing i with
  | nil =>
    match i, h with
    | 0, h => exact absurd rfl h.1
    | 1, h => exact absurd rfl h.2
    | i + 2, _ => rfl
  | cons z before ih =>
    cases i with
    | zero => rfl
    | succ i =>
      apply ih
      simpa using h

end Swaps

/-! ## Requests that differ by swaps -/

section Requests

variable {V : Type} [LE V] [DecidableLE V]

/-- **Requests that differ by swaps**: at each of the places in turn, two pushes that stand next to
each other change places, and their values belong to different flows. -/
inductive Swapped (c : Classifier V) :
    List Nat → List (Request V) → List (Request V) → Prop
  | nil (requests : List (Request V)) : Swapped c [] requests requests
  | cons {before after requests' : List (Request V)} {v w : V} {places : List Nat}
      (apart : c.classify v ≠ c.classify w)
      (later : Swapped c places (before ++ .push w :: .push v :: after) requests') :
    Swapped c (before.length :: places) (before ++ .push v :: .push w :: after) requests'

variable {c : Classifier V} {places : List Nat} {requests requests' : List (Request V)}

namespace Swapped

theorem rearrange_eq (h : Swapped c places requests requests') :
    rearrange places requests = requests' := by
  induction h with
  | nil => rfl
  | cons apart later ih =>
    rw [rearrange, List.foldl_cons, swapAt_append]
    exact ih

theorem length_eq (h : Swapped c places requests requests') :
    requests'.length = requests.length := by
  induction h with
  | nil => rfl
  | cons apart later ih => simpa using ih

theorem getElem?_eq (h : Swapped c places requests requests') {i : Nat}
    (untouched : ∀ place ∈ places, i ≠ place ∧ i ≠ place + 1) : requests'[i]? = requests[i]? := by
  induction h with
  | nil => rfl
  | cons apart later ih =>
    obtain ⟨hplace, hlater⟩ := List.forall_mem_cons.mp untouched
    rw [ih hlater]
    exact getElem?_append_of_ne _ _ _ _ _ _ hplace

/-- Only pushes are swapped. -/
theorem untouched (h : Swapped c places requests requests') {i : Nat}
    (ask : requests[i]? = some .pop ∨ requests[i]? = some .peek) :
    ∀ place ∈ places, i ≠ place ∧ i ≠ place + 1 := by
  induction h with
  | nil => simp
  | @cons before after requests' v w places apart later ih =>
    have hplace : i ≠ before.length ∧ i ≠ before.length + 1 := by
      constructor
      · rintro rfl
        simp at ask
      · rintro rfl
        simp at ask
    refine List.forall_mem_cons.mpr ⟨hplace, ih ?_⟩
    rw [getElem?_append_of_ne _ _ _ _ _ _ hplace]
    exact ask

end Swapped

end Requests

/-! ## What stays open -/

/-- The response without the bound that an overflow reports. -/
def verdict {V : Type} (a : Response V) : Except Bool (Option V) := a.mapError QueueError.isOverflow

/-- The counter, or that of all rejected pushes if it is one of the two. -/
def Counter.merged : Counter → Counter
  | pushesRejectedFlow => pushesRejectedFull
  | c => c

namespace Stats

/-- The statistics with the rejected pushes of both kinds counted together. -/
def merged (s : Stats) : Stats :=
  { s with
    pushesRejectedFull := s.pushesRejectedFull + s.pushesRejectedFlow, pushesRejectedFlow := 0 }

theorem merged_bump (s : Stats) (c : Counter) : (s.bump c).merged = s.merged.bump c.merged := by
  cases c with
  | pushesRejectedFull =>
    simp only [merged, bump, Counter.merged, mk.injEq, true_and, and_true]
    omega
  | _ => rfl

theorem merged_foldl_bump (raised : List Counter) (s : Stats) :
    (raised.foldl bump s).merged = (raised.map Counter.merged).foldl bump s.merged := by
  induction raised generalizing s with
  | nil => rfl
  | cons c raised ih => rw [List.foldl_cons, ih, merged_bump, List.map_cons, List.foldl_cons]

theorem ext_get {s s' : Stats} (h : ∀ c, s'.get c = s.get c) : s' = s := by
  have hserved : s'.served = s.served := by
    have hzero := h (.served .zero)
    have hone := h (.served .one)
    cases hs : s'.served
    cases ht : s.served
    simp only [get, hs, ht, PerFlow.get] at hzero hone
    rw [hzero, hone]
  obtain ⟨⟩ := s
  obtain ⟨⟩ := s'
  simp only [mk.injEq]
  exact ⟨h .pushesAccepted, h .pushesRejectedFull, h .pushesRejectedFlow, h .popsPrimary,
    h .popsFallback, h .popUnderflows, hserved⟩

/-- In which order counters are raised makes no difference. -/
theorem foldl_bump_of_perm {raised raised' : List Counter} (h : raised'.Perm raised) (s : Stats) :
    raised'.foldl bump s = raised.foldl bump s := by
  apply ext_get
  intro c
  rw [get_foldl_bump, get_foldl_bump, h.count_eq]

end Stats

/-! ## The turns of swapped requests -/

/-- What a turn answers and counts, whichever bound it meets. -/
def Turn.gist {V : Type} (t : Turn V) : Except Bool (Option V) × List Counter :=
  (verdict t.response, t.raised.map Counter.merged)

/-- **The turns of requests that were swapped at the given places**: up to the bounds that were met
they are rearranged in the same way, and where nothing was swapped they are the same. -/
structure Turn.Rearranged {V : Type} (places : List Nat) (turns turns' : List (Turn V)) : Prop where
  gists : turns'.map gist = rearrange places (turns.map gist)
  untouched (i : Nat) :
    (∀ place ∈ places, i ≠ place ∧ i ≠ place + 1) → turns'[i]? = turns[i]?

theorem PerFlow.set_comm {α : Type} (p : PerFlow α) {f g : Flow} (h : f ≠ g) (a b : α) :
    (p.set f a).set g b = (p.set g b).set f a := by
  cases f <;> cases g <;> first | rfl | exact absurd rfl h

namespace Backlog

variable {V : Type} [LE V] [DecidableLE V] {c : Config V} {s : Backlog V}

/-- **What a push comes to is decided by its own flow.** -/
theorem Sound.gist_push (h : s.Sound c) (v : V) :
    (s.turn c (.push v)).gist =
      if (s.flows.get (c.classifier.classify v)).length = c.flowCapacity then
        (.error true, [.pushesRejectedFull])
      else (.ok none, [.pushesAccepted]) := by
  rcases turn_push_cases c s v with ⟨hfull, hturn⟩ | ⟨-, hflow, hturn⟩ | ⟨-, hflow, hturn⟩
  · rw [hturn, if_pos (h.len_eq_iff.mp hfull _)]
    rfl
  · rw [hturn, if_pos hflow]
    rfl
  · rw [hturn, if_neg hflow]
    rfl

theorem Sound.next_push (h : s.Sound c) (v : V) :
    (s.turn c (.push v)).next =
      if (s.flows.get (c.classifier.classify v)).length = c.flowCapacity then s
      else ⟨s.flows.set (c.classifier.classify v) (s.flows.get (c.classifier.classify v) ++ [v]),
        s.hot⟩ := by
  rcases turn_push_cases c s v with ⟨hfull, hturn⟩ | ⟨-, hflow, hturn⟩ | ⟨-, hflow, hturn⟩
  · rw [hturn, if_pos (h.len_eq_iff.mp hfull _)]
  · rw [hturn, if_pos hflow]
  · rw [hturn, if_neg hflow]

variable {v w : V}

/-- A push does not touch the other flow. -/
theorem Sound.get_next_push (h : s.Sound c) {f : Flow} (hf : f ≠ c.classifier.classify w) :
    (s.turn c (.push w)).next.flows.get f = s.flows.get f := by
  rw [h.next_push]
  split
  · rfl
  · exact PerFlow.get_set_of_ne _ _ hf

/-- A push comes to the same before and after a push to the other flow. -/
theorem Sound.gist_push_push (h : s.Sound c)
    (apart : c.classifier.classify v ≠ c.classifier.classify w) :
    ((s.turn c (.push w)).next.turn c (.push v)).gist = (s.turn c (.push v)).gist := by
  rw [(h.turn _).gist_push, h.gist_push, h.get_next_push apart]

/-- Both together leave the same behind. -/
theorem Sound.next_push_push (h : s.Sound c)
    (apart : c.classifier.classify v ≠ c.classifier.classify w) :
    ((s.turn c (.push w)).next.turn c (.push v)).next =
      ((s.turn c (.push v)).next.turn c (.push w)).next := by
  rw [(h.turn (.push w)).next_push v, (h.turn (.push v)).next_push w, h.get_next_push apart,
    h.get_next_push apart.symm, h.next_push v, h.next_push w]
  by_cases hv : (s.flows.get (c.classifier.classify v)).length = c.flowCapacity
  · simp only [hv, if_true]
  · by_cases hw : (s.flows.get (c.classifier.classify w)).length = c.flowCapacity
    · simp only [hv, hw, if_true, if_false]
    · simp only [hv, hw, if_false]
      rw [PerFlow.set_comm _ apart]

/-- **One swap** rearranges the turns, and what is left behind is the same. -/
theorem Sound.rearranged_of_swap (h : s.Sound c)
    (apart : c.classifier.classify v ≠ c.classifier.classify w) (before rest : List (Request V)) :
    Turn.Rearranged [before.length] (s.turns c (before ++ .push v :: .push w :: rest))
        (s.turns c (before ++ .push w :: .push v :: rest)) ∧
      s.after c (before ++ .push w :: .push v :: rest) =
        s.after c (before ++ .push v :: .push w :: rest) := by
  have hq := h.after before
  have hnext := hq.next_push_push apart
  have hplace : before.length = (s.turns c before).length := (length_turns c s before).symm
  constructor
  · rw [turns_append, turns_append, hplace]
    constructor
    · -- The later turns begin with the same backlog.
      simp only [turns, hnext, List.map_append, List.map_cons, hq.gist_push_push apart,
        ← hq.gist_push_push apart.symm]
      rw [← List.length_map Turn.gist]
      exact (swapAt_append _ _ _ _).symm
    · intro i hi
      simp only [turns, hnext]
      exact getElem?_append_of_ne _ _ _ _ _ _ (hi _ List.mem_cons_self)
  · rw [after_append, after_append]
    simp only [Backlog.after, hnext]

/-- **Any swaps** do. -/
theorem Sound.rearranged (h : s.Sound c) {places : List Nat} {requests requests' : List (Request V)}
    (swapped : Swapped c.classifier places requests requests') :
    Turn.Rearranged places (s.turns c requests) (s.turns c requests') ∧
      s.after c requests' = s.after c requests := by
  induction swapped with
  | nil requests => exact ⟨⟨rfl, fun _ _ => rfl⟩, rfl⟩
  | cons apart later ih =>
    obtain ⟨hlater, hafter⟩ := ih
    obtain ⟨hfirst, hafter'⟩ := h.rearranged_of_swap apart _ _
    refine ⟨⟨?_, fun i hi => ?_⟩, hafter.trans hafter'⟩
    · rw [hlater.gists, hfirst.gists]
      rfl
    · obtain ⟨hplace, hplaces⟩ := List.forall_mem_cons.mp hi
      rw [hlater.untouched i hplaces, hfirst.untouched i (by simpa using hplace)]

end Backlog

/-! ## Schedulers -/

namespace Pifo

section Lawful

variable {V Q₀ Q₁ : Type} [SubQueue Q₀ V] [SubQueue Q₁ V] [SubQueue.Lawful Q₀] [SubQueue.Lawful Q₁]
  [LE V] [DecidableLE V] {c : Config V} {p p₁ p₂ : Pifo V Q₀ Q₁} {places : List Nat}
  {requests requests' : List (Request V)} {es es' : List Event}
  {answers answers' : List (Response V)}

theorem Sound.rearranged (h : Sound c p) (swapped : Swapped c.classifier places requests requests')
    (run : (Pifo.serve requests).run p = ⟨p₁, es, .ok answers⟩)
    (run' : (Pifo.serve requests').run p = ⟨p₂, es', .ok answers'⟩) :
    answers'.map verdict = rearrange places (answers.map verdict) ∧
      (∀ i, (∀ place ∈ places, i ≠ place ∧ i ≠ place + 1) → answers'[i]? = answers[i]?) ∧
      p₂.backlog = p₁.backlog ∧ p₂.stats.merged = p₁.stats.merged := by
  obtain ⟨-, hbacklog, rfl, -, hstats⟩ := h.serve run
  obtain ⟨-, hbacklog', rfl, -, hstats'⟩ := h.serve run'
  obtain ⟨hturns, hafter⟩ := h.backlog.rearranged swapped
  refine ⟨?_, fun i hi => ?_, ?_, ?_⟩
  · have hverdicts := congrArg (List.map Prod.fst) hturns.gists
    rw [map_rearrange, List.map_map, List.map_map] at hverdicts
    rw [List.map_map, List.map_map]
    exact hverdicts
  · rw [List.getElem?_map, List.getElem?_map, hturns.untouched i hi]
  · rw [hbacklog', hbacklog, hafter]
  · -- The same counters are raised, in another order.
    rw [hstats', hstats, Stats.merged_foldl_bump, Stats.merged_foldl_bump]
    apply Stats.foldl_bump_of_perm
    have hraised :=
      (rearrange_perm places ((p.backlog.turns c requests).map Turn.gist)).flatMap_right Prod.snd
    rw [← hturns.gists, List.flatMap_map, List.flatMap_map] at hraised
    rw [List.map_flatMap, List.map_flatMap]
    exact hraised

end Lawful

variable {V : Type} [LE V] [DecidableLE V]

/-- **Pushes to different flows commute.** Let a list of requests be changed by swaps of
neighbouring pushes whose values belong to different flows. A scheduler built of a valid
configuration over the stock queues answers all requests of both lists, as long as a machine word
counts them. Whenever it has answered both lists, fresh each time, the same pushes were accepted and
rejected: up to the bound that an overflow reports, the responses are rearranged as the requests
are. Pops, peeks and pushes that were not swapped have the same response. The scheduler is left with
the same values in each flow, the same turn, the same length and the same statistics, if rejected
pushes are counted together. -/
theorem pushes_to_different_flows_commute {c : Config V} (valid : c.validate = .ok ()) :
    ∃ p₀, withFifos c = .ok p₀ ∧
      ∀ places requests requests', Swapped c.classifier places requests requests' →
        requests' = rearrange places requests ∧
        (requests.length < wordLimit →
          (∃ p es answers, (serve requests).run p₀ = ⟨p, es, .ok answers⟩) ∧
            ∃ p' es' answers', (serve requests').run p₀ = ⟨p', es', .ok answers'⟩) ∧
        ∀ p es answers p' es' answers',
          (serve requests).run p₀ = ⟨p, es, .ok answers⟩ →
          (serve requests').run p₀ = ⟨p', es', .ok answers'⟩ →
            answers'.map verdict = rearrange places (answers.map verdict) ∧
            (∀ i, (requests[i]? = some .pop ∨ requests[i]? = some .peek ∨
                ∀ place ∈ places, i ≠ place ∧ i ≠ place + 1) →
              requests'[i]? = requests[i]? ∧ answers'[i]? = answers[i]?) ∧
            p'.items = p.items ∧ p'.hot = p.hot ∧ p'.len = p.len ∧
            p'.stats.merged = p.stats.merged := by
  obtain ⟨p₀, built⟩ := exists_withFifos valid
  refine ⟨p₀, built, fun places requests requests' swapped => ⟨swapped.rearrange_eq.symm, ?_, ?_⟩⟩
  · intro few
    have few' : requests'.length < wordLimit := by
      rw [swapped.length_eq]
      exact few
    obtain ⟨p, es, answers, hrun, -⟩ := exists_run_of_build built few
    obtain ⟨p', es', answers', hrun', -⟩ := exists_run_of_build built few'
    exact ⟨⟨p, es, answers, hrun⟩, p', es', answers', hrun'⟩
  · intro p es answers p' es' answers' hrun hrun'
    have hsound := (sound_of_build built).1
    obtain ⟨hverdicts, huntouched, hbacklog, hstats⟩ := hsound.rearranged swapped hrun hrun'
    refine ⟨hverdicts, ?_, congrArg Backlog.flows hbacklog, congrArg Backlog.hot hbacklog,
      ?_, hstats⟩
    · intro i hi
      have hplaces : ∀ place ∈ places, i ≠ place ∧ i ≠ place + 1 := by
        rcases hi with hpop | hpeek | hplaces
        · exact swapped.untouched (.inl hpop)
        · exact swapped.untouched (.inr hpeek)
        · exact hplaces
      exact ⟨swapped.getElem?_eq hplaces, huntouched i hplaces⟩
    · rw [(hsound.serve hrun').1.len, (hsound.serve hrun).1.len, hbacklog]

/-- At flow capacity one, with flow zero full: a push to it and one to flow one are swapped. The
first is rejected in both orders, once by the bound of its flow and once by that of the
scheduler. -/
theorem pushes_to_different_flows_commute_bounds :
    (⟨1, 10⟩ : Config Nat).validate = .ok () ∧
      Swapped (⟨10⟩ : Classifier Nat) [1] [.push 4, .push 5, .push 11, .pop, .peek]
        [.push 4, .push 11, .push 5, .pop, .peek] ∧
      ∃ p₀ p es p' es', withFifos (⟨1, 10⟩ : Config Nat) = .ok p₀ ∧
        (serve [.push 4, .push 5, .push 11, .pop, .peek]).run p₀ =
          ⟨p, es, .ok [.ok none, .error (.overflow 1 1), .ok none, .ok (some 4), .ok (some 11)]⟩ ∧
        (serve [.push 4, .push 11, .push 5, .pop, .peek]).run p₀ =
          ⟨p', es', .ok [.ok none, .ok none, .error (.overflow 2 2), .ok (some 4), .ok (some 11)]⟩ ∧
        p'.items = p.items ∧ p'.stats.merged = p.stats.merged := by
  have hswapped : Swapped (⟨10⟩ : Classifier Nat) [1] [.push 4, .push 5, .push 11, .pop, .peek]
      [.push 4, .push 11, .push 5, .pop, .peek] :=
    @Swapped.cons _ _ _ _ [.push 4] _ _ _ _ _ (by decide) (.nil _)
  obtain ⟨p₀, built, hcommute⟩ :=
    pushes_to_different_flows_commute (c := (⟨1, 10⟩ : Config Nat)) rfl
  obtain ⟨-, -, hruns⟩ := hcommute _ _ _ hswapped
  refine ⟨rfl, hswapped, ?_⟩
  cases built
  obtain ⟨-, -, hitems, -, -, hstats⟩ := hruns _ _ _ _ _ _ rfl rfl
  exact ⟨_, _, _, _, _, rfl, rfl, rfl, hitems, hstats⟩

end Pifo

end TwoFlow
