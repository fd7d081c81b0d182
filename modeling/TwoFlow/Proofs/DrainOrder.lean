import TwoFlow.Proofs.Draining
import TwoFlow.Proofs.Service

/-!
# The order of a drain

While both flows have values, the pops of a drain find one in the hot flow and pass the turn on, so
the values come from both flows by turns. If the hot flow holds more values than the other one, it
is asked once more before the other one is found empty. From then on the turn stays where it is,
with a flow that has nothing, and every pop falls back to the longer flow until that is empty too.

So the outcome of a drain has a closed form in the two lists that wait. It is found one pop at a
time: a pop from the hot flow makes the other list the first one and takes the head off the second.

## Main definitions

* `alternate`: two lists by turns, and then the rest of the longer one
* `primaryPops`: how many pops of a drain find a value in the hot flow
* `Backlog.Drains`: a drain from one backlog to another, in closed form

## Main results

* `Backlog.Drains.of_error`, `Backlog.Drains.of_value`: what a drain comes to, by its first pop
* `Pifo.Sound.drains`: a drain of a sound scheduler has the closed form
* `Pifo.drain_alternates`: both of a scheduler over the stock queues
-/

namespace TwoFlow

/-! ## Two lists by turns -/

section Alternate

variable {α : Type}

/-- Two lists by turns, the first one first, as long as both have entries, and then the rest of the
longer one. -/
def alternate (l m : List α) : List α :=
  (l.zip m).flatMap (fun x => [x.1, x.2]) ++ (l.drop m.length ++ m.drop l.length)

theorem alternate_nil (m : List α) : alternate [] m = m := by
  simp [alternate]

/-- After its first entry it is the turn of the other list. -/
theorem alternate_cons (x : α) (l m : List α) : alternate (x :: l) m = x :: alternate m l := by
  induction m generalizing x l with
  | nil => simp [alternate]
  | cons y m ih =>
    cases l with
    | nil => simp [alternate]
    | cons z l =>
      have hlater := ih z l
      simp only [alternate, List.zip_cons_cons, List.flatMap_cons, List.length_cons,
        List.drop_succ_cons, List.cons_append, List.nil_append, List.cons.injEq, true_and]
        at hlater ⊢
      exact hlater

theorem length_alternate (l m : List α) : (alternate l m).length = l.length + m.length := by
  induction m generalizing l with
  | nil => simp [alternate]
  | cons y m ih =>
    cases l with
    | nil => simp [alternate]
    | cons x l =>
      rw [alternate_cons, alternate_cons, List.length_cons, List.length_cons, ih, List.length_cons,
        List.length_cons]
      omega

end Alternate

/-- How many pops of a drain find a value in the hot flow, if that holds `a` values and the other
one `b`. -/
def primaryPops (a b : Nat) : Nat := 2 * min a b + if b < a then 1 else 0

theorem primaryPops_zero (b : Nat) : primaryPops 0 b = 0 := by
  simp [primaryPops]

theorem primaryPops_succ (a b : Nat) : primaryPops (a + 1) b = primaryPops b a + 1 := by
  unfold primaryPops
  split <;> split <;> omega

theorem primaryPops_le (a b : Nat) : primaryPops a b ≤ a + b := by
  unfold primaryPops
  split <;> omega

/-! ## Drains of a backlog -/

namespace Backlog

variable {V : Type} {s s' : Backlog V} {v : V} {rest values : List V} {raised : List Counter}

/-- How often a drain raises a counter. -/
def drainCount (s : Backlog V) : Counter → Nat
  | .popsPrimary => primaryPops (s.flows.get s.hot).length (s.flows.get s.hot.other).length
  | .popsFallback =>
    s.len - primaryPops (s.flows.get s.hot).length (s.flows.get s.hot.other).length
  | .popUnderflows => 1
  | .served flow => (s.flows.get flow).length
  | .pushesAccepted | .pushesRejectedFull | .pushesRejectedFlow => 0

/-- **A drain in closed form**: from `s` to `s'` it hands out the values and raises the counters. -/
structure Drains (s s' : Backlog V) (values : List V) (raised : List Counter) : Prop where
  values : values = alternate (s.flows.get s.hot) (s.flows.get s.hot.other)
  empty : ∀ f, s'.flows.get f = []
  hot : s'.hot =
    if (s.flows.get s.hot).length ≤ (s.flows.get s.hot.other).length then s.hot else s.hot.other
  raised : ∀ c, raised.count c = s.drainCount c

/-- A value taken from a flow shortens that flow by one, and no other. -/
theorem length_get_of_rest {f : Flow} (hf : s.flows.get f = v :: rest) (g : Flow) :
    (s.flows.get g).length =
      ((s.flows.set f rest).get g).length + [Counter.served f].count (.served g) := by
  by_cases hg : g = f
  · rw [hg, PerFlow.get_set_self, hf, List.count_singleton_self, List.length_cons]
  · have hne : Counter.served g ≠ Counter.served f := fun heq => hg (Counter.served.inj heq)
    rw [PerFlow.get_set_of_ne _ _ hg, List.count_singleton, if_neg (by simpa using hne.symm)]
    rfl

namespace Drains

/-- Nothing waits: the first pop is rejected, and that is all. -/
theorem nil (empty : ∀ f, s.flows.get f = []) : Drains s s [] [.popUnderflows] where
  values := by rw [empty, empty, alternate_nil]
  empty := empty
  hot := by rw [empty, empty, if_pos (Nat.le_refl _)]
  raised c := by
    have hlen := s.len_eq_zero_iff.mpr empty
    cases c <;> simp [drainCount, empty, hlen, primaryPops_zero]

/-- A pop from the hot flow, and then a drain. The lists change their parts, since the turn is
passed on. -/
theorem primary (hhot : s.flows.get s.hot = v :: rest)
    (later : Drains ⟨s.flows.set s.hot rest, s.hot.other⟩ s' values raised) :
    Drains s s' (v :: values) (.popsPrimary :: .served s.hot :: raised) := by
  have hget : (s.flows.set s.hot rest).get s.hot.other = s.flows.get s.hot.other :=
    PerFlow.get_set_of_ne _ _ s.hot.other_ne
  have hlen := len_eq s s.hot
  rw [hhot, List.length_cons] at hlen
  constructor
  · rw [hhot, alternate_cons, later.values]
    simp only [hget, Flow.other_other, PerFlow.get_set_self]
  · exact later.empty
  · rw [later.hot, hhot]
    simp only [hget, Flow.other_other, PerFlow.get_set_self, List.length_cons]
    by_cases hle : (s.flows.get s.hot.other).length ≤ rest.length
    · rw [if_pos hle, if_neg (Nat.not_le.mpr (Nat.lt_succ_of_le hle))]
    · rw [if_neg hle, if_pos (Nat.succ_le_of_lt (Nat.lt_of_not_le hle))]
  · intro c
    have hlater := later.raised c
    cases c with
    | served flow =>
      simp only [drainCount, length_get_of_rest hhot flow] at hlater ⊢
      simp [List.count_cons, hlater]
    | popsPrimary =>
      simp only [drainCount, hget, Flow.other_other, PerFlow.get_set_self] at hlater
      simp [drainCount, hhot, primaryPops_succ, hlater]
    | popsFallback =>
      simp only [drainCount, hget, Flow.other_other, PerFlow.get_set_self,
        len_set_rest hhot] at hlater
      have hcount : (Counter.popsPrimary :: .served s.hot :: raised).count .popsFallback =
          raised.count .popsFallback := by simp
      rw [hcount, hlater]
      simp only [drainCount, hhot, List.length_cons, primaryPops_succ]
      omega
    | _ => simpa [drainCount] using hlater

/-- A pop that falls back, and then a drain. The hot flow has nothing and keeps the turn. -/
theorem fallback (hhot : s.flows.get s.hot = []) (hother : s.flows.get s.hot.other = v :: rest)
    (later : Drains ⟨s.flows.set s.hot.other rest, s.hot⟩ s' values raised) :
    Drains s s' (v :: values) (.popsFallback :: .served s.hot.other :: raised) := by
  have hget : (s.flows.set s.hot.other rest).get s.hot = [] := by
    rw [PerFlow.get_set_of_ne _ _ s.hot.other_ne.symm, hhot]
  have hlen := len_eq s s.hot
  rw [hhot, hother, List.length_nil, List.length_cons] at hlen
  constructor
  · rw [hhot, hother, alternate_nil, later.values]
    simp only [hget, PerFlow.get_set_self, alternate_nil]
  · exact later.empty
  · rw [later.hot, hhot]
    simp only [hget, List.length_nil, Nat.zero_le, if_true]
  · intro c
    have hlater := later.raised c
    cases c with
    | served flow =>
      simp only [drainCount, length_get_of_rest hother flow] at hlater ⊢
      simp [List.count_cons, hlater]
    | popsPrimary =>
      simp only [drainCount, hget, List.length_nil, primaryPops_zero] at hlater
      simp [drainCount, hhot, primaryPops_zero, hlater]
    | popsFallback =>
      simp only [drainCount, hget, len_set_rest hother, List.length_nil, primaryPops_zero] at hlater
      have hcount : (Counter.popsFallback :: .served s.hot.other :: raised).count .popsFallback =
          raised.count .popsFallback + 1 := by simp
      rw [hcount, hlater]
      simp only [drainCount, hhot, List.length_nil, primaryPops_zero]
      omega
    | _ => simpa [drainCount] using hlater

section Turn

variable [LE V] [DecidableLE V] {c : Config V}

/-- **A drain by its first pop**, if that is rejected. -/
theorem of_error {e : QueueError} (rejected : (s.turn c .pop).response = .error e) :
    Drains s (s.turn c .pop).next [] (s.turn c .pop).raised := by
  rcases turn_pop_cases c s with
    ⟨v, rest, hhot, hturn⟩ | ⟨v, rest, hhot, hother, hturn⟩ | ⟨hhot, hother, hturn⟩
  · rw [hturn] at rejected
    cases rejected
  · rw [hturn] at rejected
    cases rejected
  · rw [hturn]
    apply nil
    intro f
    by_cases hf : f = s.hot
    · rw [hf, hhot]
    · rw [Flow.eq_other_of_ne hf, hother]

/-- **A drain by its first pop**, if that hands a value out. -/
theorem of_value (handed : (s.turn c .pop).response = .ok (some v))
    (later : Drains (s.turn c .pop).next s' values raised) :
    Drains s s' (v :: values) ((s.turn c .pop).raised ++ raised) := by
  rcases turn_pop_cases c s with
    ⟨w, rest, hhot, hturn⟩ | ⟨w, rest, hhot, hother, hturn⟩ | ⟨hhot, hother, hturn⟩
  · rw [hturn] at handed later ⊢
    cases handed
    exact primary hhot later
  · rw [hturn] at handed later ⊢
    cases handed
    exact fallback hhot hother later
  · rw [hturn] at handed
    cases handed

end Turn

end Drains

end Backlog

/-! ## Drains of a scheduler -/

namespace Pifo

section Lawful

variable {V Q₀ Q₁ : Type} [SubQueue Q₀ V] [SubQueue Q₁ V] [SubQueue.Lawful Q₀] [SubQueue.Lawful Q₁]
  [LE V] [DecidableLE V] {c : Config V} {p p' : Pifo V Q₀ Q₁} {es : List Event} {values : List V}

/-- **A drain of a sound scheduler has the closed form.** -/
theorem Sound.drains (h : Sound c p) (run : drain p = ⟨p', es, .ok values⟩) :
    Sound c p' ∧ ∃ raised, p.backlog.Drains p'.backlog values raised ∧
      p'.stats = raised.foldl Stats.bump p.stats := by
  induction p using drain.induct generalizing es values with
  | case1 p q es₁ v hpop hlt ih =>
    have way := transition_of_pop hpop
    have taken := h.takes way
    rw [drain_of_value hpop] at run
    rcases hrest : drain q with ⟨q', es₂, e | later⟩
    · rw [hrest] at run
      cases run
    · rw [hrest] at run
      cases run
      obtain ⟨hsound, raised, hdrains, hstats⟩ := ih (h.transition way) hrest
      rw [taken.backlog] at hdrains
      refine ⟨hsound, _, .of_value taken.response.symm hdrains, ?_⟩
      rw [hstats, taken.stats, List.foldl_append]
  | case2 p q es₁ e hpop =>
    have way := transition_of_pop hpop
    have taken := h.takes way
    rw [drain_of_rejection hpop] at run
    cases run
    refine ⟨h.transition way, _, ?_, taken.stats⟩
    rw [taken.backlog]
    exact .of_error taken.response.symm
  | case3 p q es₁ e hpop =>
    rw [drain_of_fault hpop] at run
    cases run

end Lawful

variable {V : Type} [LE V] [DecidableLE V] {c : Config V} {p₀ p : Pifo V (Fifo V) (Fifo V)}

/-- **The order of a drain.** Let a scheduler over the stock queues have reached a state in which
the values `A` wait in the hot flow and `B` in the other one. A drain returns exactly when the pop
that ends it can be counted. It hands out all values that wait: those of `A` and `B` by turns, `A`
first, and then the rest of the longer list. The scheduler is left empty, with the turn where it was
if `A` is not longer than `B`, and with the other flow if it is. Each value of the shorter list
accounts for two pops of a hot flow, and a longer `A` for one more; all others fell back. Each flow
has served its values, and one pop found nothing. -/
theorem drain_alternates (built : withFifos c = .ok p₀) {past : List (Request V)}
    {es₀ : List Event} {answers₀ : List (Response V)}
    (reached : (serve past).run p₀ = ⟨p, es₀, .ok answers₀⟩) {A B : List V}
    (hot : p.items.get p.hot = A) (other : p.items.get p.hot.other = B) :
    ((∃ p' es values, drain p = ⟨p', es, .ok values⟩) ↔ p.stats.popUnderflows + 1 < wordLimit) ∧
    (past.length + 1 < wordLimit → p.stats.popUnderflows + 1 < wordLimit) ∧
    ∀ p' es values, drain p = ⟨p', es, .ok values⟩ →
      values = (A.zip B).flatMap (fun x => [x.1, x.2]) ++ (A.drop B.length ++ B.drop A.length) ∧
      values.length = p.len ∧
      (∀ f, p'.items.get f = []) ∧ p'.len = 0 ∧
      p'.hot = (if A.length ≤ B.length then p.hot else p.hot.other) ∧
      ∃ primary fallback,
        primary = 2 * min A.length B.length + (if B.length < A.length then 1 else 0) ∧
        primary + fallback = A.length + B.length ∧
        p'.stats.popsPrimary = p.stats.popsPrimary + primary ∧
        p'.stats.popsFallback = p.stats.popsFallback + fallback ∧
        (∀ f, p'.stats.served.get f = p.stats.served.get f + (p.items.get f).length) ∧
        p'.stats.popUnderflows = p.stats.popUnderflows + 1 ∧
        p'.stats.pushesAccepted = p.stats.pushesAccepted ∧
        p'.stats.pushesRejectedFull = p.stats.pushesRejectedFull ∧
        p'.stats.pushesRejectedFlow = p.stats.pushesRejectedFlow := by
  have hsound : Sound c p := ((sound_of_build built).1.serve reached).1
  have hreturns : (∃ p' es values, drain p = ⟨p', es, .ok values⟩) ↔
      p.stats.popUnderflows + 1 < wordLimit := by
    obtain ⟨books, -⟩ := (balanced_of_build built).serve reached
    have room : Headroom 0 p₀ := headroom_of_build built (by decide)
    exact books.exists_drain_iff (get_stats_lt_of_serve room.stats reached .pushesAccepted)
  refine ⟨hreturns, fun few => ?_, fun p' es values hdrain => ?_⟩
  · obtain ⟨q, _, _, q', es', values, hpast, -, hdrain⟩ := exists_drain_of_build built few
    cases reached.symm.trans hpast
    exact hreturns.mp ⟨q', es', values, hdrain⟩
  · obtain ⟨hsound', raised, hdrains, hstats⟩ := hsound.drains hdrain
    have hlen : p.len = A.length + B.length := by
      rw [hsound.len, Backlog.len_eq _ p.hot, ← hot, ← other]
      rfl
    have hget : ∀ d, p'.stats.get d = p.stats.get d + p.backlog.drainCount d := fun d => by
      rw [hstats, Stats.get_foldl_bump, hdrains.raised]
    have hvalues : values = alternate A B := by
      rw [hdrains.values, ← hot, ← other]
      rfl
    refine ⟨hvalues, ?_, hdrains.empty, hsound'.empty_iff.mpr hdrains.empty, ?_,
      primaryPops A.length B.length, A.length + B.length - primaryPops A.length B.length, rfl,
      ?_, ?_, ?_, fun f => hget (.served f), hget .popUnderflows, hget .pushesAccepted,
      hget .pushesRejectedFull, hget .pushesRejectedFlow⟩
    · rw [hvalues, length_alternate, hlen]
    · rw [← hot, ← other]
      exact hdrains.hot
    · have hle := primaryPops_le A.length B.length
      omega
    · rw [← hot, ← other]
      exact hget .popsPrimary
    · rw [← hlen, hsound.len, ← hot, ← other]
      exact hget .popsFallback

/-- At flow capacity three, with flow one hot after a pop: two values wait there and one in flow
zero. The drain takes two from a hot flow and then one more, and the turn ends with flow zero. -/
theorem drain_alternates_two_one :
    ∃ p₀ p es₀ answers₀, withFifos (⟨3, 10⟩ : Config Nat) = .ok p₀ ∧
      (serve [.push 1, .push 2, .push 11, .push 12, .pop]).run p₀ = ⟨p, es₀, .ok answers₀⟩ ∧
      p.items.get p.hot = [11, 12] ∧ p.items.get p.hot.other = [2] ∧
      ∃ p' es, drain p = ⟨p', es, .ok [11, 2, 12]⟩ ∧ p'.len = 0 ∧ p'.hot = .zero ∧
        p'.stats.popsPrimary = 4 ∧ p'.stats.popsFallback = 0 ∧ p'.stats.popUnderflows = 1 := by
  obtain ⟨p₀, built⟩ : ∃ p₀, withFifos (⟨3, 10⟩ : Config Nat) = .ok p₀ := ⟨_, rfl⟩
  obtain ⟨p, es₀, answers₀, reached⟩ : ∃ p es₀ answers₀,
      (serve [.push 1, .push 2, .push 11, .push 12, .pop]).run p₀ = ⟨p, es₀, .ok answers₀⟩ := by
    cases built
    exact ⟨_, _, _, rfl⟩
  have hot : p.items.get p.hot = [11, 12] := by
    cases built
    cases reached
    rfl
  have other : p.items.get p.hot.other = [2] := by
    cases built
    cases reached
    rfl
  obtain ⟨hreturns, hroom, hdrains⟩ := drain_alternates built reached hot other
  obtain ⟨p', es, values, hdrain⟩ := hreturns.mpr (hroom (by decide))
  obtain ⟨rfl, -, -, hlen, hhot, primary, fallback, rfl, hsum,
    hprimary, hfallback, -, hunderflow, -⟩ :=
    hdrains p' es values hdrain
  refine ⟨p₀, p, es₀, answers₀, built, reached, hot, other, p', es, hdrain, hlen, ?_⟩
  cases built
  cases reached
  refine ⟨hhot, hprimary, ?_, hunderflow⟩
  have hnone : fallback = 0 := by simpa using hsum
  rw [hfallback, hnone]
  rfl

end Pifo

end TwoFlow
