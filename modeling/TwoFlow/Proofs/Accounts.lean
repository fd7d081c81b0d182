import TwoFlow.Proofs.Conservation
import TwoFlow.SubQueue.Faulty

/-!
# The accounts of a scheduler

A scheduler keeps its own books: a length, a turn and eight counters. Its sub-queues may lose
values, double them, give them out in any order or refuse them, and a peek may change them; none of
it reaches the books. What a request writes into them is one of six effects, which name no
sub-queue, and the laws of the books are laws of these effects.

The turn is told by the books in two ways. It is with flow zero exactly when the number of primary
pops is even, and it is with the sibling of the flow that served last. The two agree although a pop
by fallback raises no primary pop: it is served by the sibling of the flow whose turn it is, and the
turn stays.

## Main definitions

* `Pifo.Effect`: what a request does to the books
* `Pifo.Balanced`: the laws of the books that hold at any time
* `Pifo.Counted`: what the books say of the requests between two times

## Main results

* `Pifo.Transition.effect`: every request has one of the effects
* `Pifo.Balanced.serve`, `Pifo.counted_of_serve`: the laws along a list of requests
* `Pifo.serve_keeps_accounts`: the laws of a scheduler over any sub-queues, from its building on
-/

namespace TwoFlow

namespace Stats

/-- The pushes answered, in one way or another. -/
def pushesAnswered (s : Stats) : Nat :=
  s.pushesAccepted + s.pushesRejectedFull + s.pushesRejectedFlow

/-- The pops answered, in one way or another. -/
def popsAnswered (s : Stats) : Nat := s.popsPrimary + s.popsFallback + s.popUnderflows

end Stats

namespace Pifo

variable {V Q₀ Q₁ : Type} {p p' : Pifo V Q₀ Q₁}

/-! ## The six effects of a request -/

/-- **What a request does to the books.** The last argument lists the flow that served it, if it is
a pop that was served. -/
inductive Effect (p p' : Pifo V Q₀ Q₁) : Request V → Response V → List Flow → Prop
  | pushRejected {v : V} {e : QueueError} {counter : Counter}
      (raised : counter = .pushesRejectedFull ∨ counter = .pushesRejectedFlow)
      (hot : p'.hot = p.hot) (len : p'.len = p.len) (stats : p'.stats = p.stats.bump counter) :
    Effect p p' (.push v) (.error e) []
  | pushAccepted {v : V} (room : p.len < p.capacity) (hot : p'.hot = p.hot)
      (len : p'.len = p.len + 1) (stats : p'.stats = p.stats.bump .pushesAccepted) :
    Effect p p' (.push v) (.ok none) []
  | popRejected {e : QueueError} (hot : p'.hot = p.hot) (len : p'.len = p.len)
      (stats : p'.stats = p.stats.bump .popUnderflows) :
    Effect p p' .pop (.error e) []
  | popPrimary {v : V} (holds : p.len ≠ 0) (hot : p'.hot = p.hot.other) (len : p'.len = p.len - 1)
      (stats : p'.stats = (p.stats.bump .popsPrimary).bump (.served p.hot)) :
    Effect p p' .pop (.ok (some v)) [p.hot]
  | popFallback {v : V} (holds : p.len ≠ 0) (hot : p'.hot = p.hot) (len : p'.len = p.len - 1)
      (stats : p'.stats = (p.stats.bump .popsFallback).bump (.served p.hot.other)) :
    Effect p p' .pop (.ok (some v)) [p.hot.other]
  | peek {a : Response V} (hot : p'.hot = p.hot) (len : p'.len = p.len)
      (stats : p'.stats = p.stats) :
    Effect p p' .peek a []

/-- A request that is answered with an error leaves the turn and the length alone, and so does every
peek. -/
theorem Effect.unchanged {r : Request V} {a : Response V} {served : List Flow}
    (h : Effect p p' r a served) (idle : r = .peek ∨ ∃ e, a = .error e) :
    p'.hot = p.hot ∧ p'.len = p.len := by
  cases h with
  | pushRejected _ hot len | popRejected hot len | peek hot len => exact ⟨hot, len⟩
  | pushAccepted | popPrimary | popFallback => simp at idle

/-- Only a pop that is answered with a value has a flow that served it, and only such a pop may pass
the turn on. -/
theorem Effect.idle_or_served {r : Request V} {a : Response V} {served : List Flow}
    (h : Effect p p' r a served) :
    served = [] ∧ p'.hot = p.hot ∨ ∃ v, r = .pop ∧ a = .ok (some v) := by
  cases h with
  | pushRejected _ hot | pushAccepted _ hot | popRejected hot | peek hot => exact .inl ⟨rfl, hot⟩
  | popPrimary | popFallback => exact .inr ⟨_, rfl, rfl⟩

theorem Effect.length_served {r : Request V} {a : Response V} {served : List Flow}
    (h : Effect p p' r a served) : served.length = (popped [(r, a)]).length := by
  cases h with
  | pushRejected | pushAccepted | popRejected | popPrimary | popFallback | peek => rfl

/-! ## The laws at any time -/

/-- **The books balance**: what was taken in was handed out or is still counted, every pop that was
served was served by one of the flows, and the turn and the difference between the flows follow the
number of primary pops. -/
structure Balanced (p : Pifo V Q₀ Q₁) : Prop where
  len_le : p.len ≤ p.capacity
  accepted : p.stats.pushesAccepted = p.stats.popsPrimary + p.stats.popsFallback + p.len
  served : p.stats.served.zero + p.stats.served.one = p.stats.popsPrimary + p.stats.popsFallback
  hot_eq_zero_iff : p.hot = .zero ↔ p.stats.popsPrimary % 2 = 0
  /-- Served by turns, flow zero is ahead by one after an odd number of primary pops. Only a pop by
  fallback moves the flows apart. -/
  drift_le : ((p.stats.served.zero : Int) - p.stats.served.one -
    (p.stats.popsPrimary % 2 : Nat)).natAbs ≤ p.stats.popsFallback

/-- The laws look at the turn, the length and five counters. -/
theorem Balanced.congr (books : Balanced p) (hcap : p'.capacity = p.capacity)
    (hot : p'.hot = p.hot) (len : p'.len = p.len)
    (accepted : p'.stats.pushesAccepted = p.stats.pushesAccepted)
    (primary : p'.stats.popsPrimary = p.stats.popsPrimary)
    (fallback : p'.stats.popsFallback = p.stats.popsFallback)
    (served : p'.stats.served = p.stats.served) : Balanced p' := by
  constructor
  · rw [len, hcap]
    exact books.len_le
  · rw [accepted, primary, fallback, len]
    exact books.accepted
  · rw [served, primary, fallback]
    exact books.served
  · rw [hot, primary]
    exact books.hot_eq_zero_iff
  · rw [served, primary, fallback]
    exact books.drift_le

/-- A primary pop passes the turn on and with it the parity, and moves the flows no further
apart. -/
theorem Balanced.popPrimary (books : Balanced p) (hcap : p'.capacity = p.capacity)
    (holds : p.len ≠ 0) (hot : p'.hot = p.hot.other) (len : p'.len = p.len - 1)
    (stats : p'.stats = (p.stats.bump .popsPrimary).bump (.served p.hot)) : Balanced p' := by
  have hprimary : p'.stats.popsPrimary = p.stats.popsPrimary + 1 := by rw [stats]; rfl
  have hfallback : p'.stats.popsFallback = p.stats.popsFallback := by rw [stats]; rfl
  have hpushes : p'.stats.pushesAccepted = p.stats.pushesAccepted := by rw [stats]; rfl
  -- The turn is with flow zero and the parity even, or with flow one and odd.
  have hparity : p.hot = .zero ∧ p.stats.popsPrimary % 2 = 0 ∨
      p.hot = .one ∧ p.stats.popsPrimary % 2 = 1 := by
    cases hp : p.hot with
    | zero => exact .inl ⟨rfl, books.hot_eq_zero_iff.mp hp⟩
    | one => exact .inr ⟨rfl, Nat.mod_two_ne_zero.mp (mt books.hot_eq_zero_iff.mpr (by simp [hp]))⟩
  constructor
  · rw [len, hcap]
    exact Nat.le_trans (Nat.sub_le _ _) books.len_le
  · rw [hpushes, hprimary, hfallback, len, books.accepted]
    omega
  · rw [hprimary, hfallback, Nat.add_right_comm, ← books.served, stats]
    cases p.hot with
    | zero => exact Nat.add_right_comm _ _ _
    | one => rfl
  · rw [hot, hprimary]
    rcases hparity with ⟨hp, even⟩ | ⟨hp, odd⟩
    · rw [hp, Nat.add_mod, even]
      decide
    · rw [hp, Nat.add_mod, odd]
      decide
  · rw [hfallback]
    refine Nat.le_trans (Nat.le_of_eq (congrArg Int.natAbs ?_)) books.drift_le
    rw [hprimary, stats]
    rcases hparity with ⟨hp, even⟩ | ⟨hp, odd⟩
    · rw [hp, Nat.add_mod, even]
      simp only [Stats.bump, PerFlow.set, PerFlow.get]
      omega
    · rw [hp, Nat.add_mod, odd]
      simp only [Stats.bump, PerFlow.set, PerFlow.get]
      omega

/-- A pop by fallback moves the flows apart by at most one. -/
theorem Balanced.popFallback (books : Balanced p) (hcap : p'.capacity = p.capacity)
    (holds : p.len ≠ 0) (hot : p'.hot = p.hot) (len : p'.len = p.len - 1)
    (stats : p'.stats = (p.stats.bump .popsFallback).bump (.served p.hot.other)) : Balanced p' := by
  have hprimary : p'.stats.popsPrimary = p.stats.popsPrimary := by rw [stats]; rfl
  have hfallback : p'.stats.popsFallback = p.stats.popsFallback + 1 := by rw [stats]; rfl
  have hpushes : p'.stats.pushesAccepted = p.stats.pushesAccepted := by rw [stats]; rfl
  constructor
  · rw [len, hcap]
    exact Nat.le_trans (Nat.sub_le _ _) books.len_le
  · rw [hpushes, hprimary, hfallback, len, books.accepted]
    omega
  · rw [hprimary, hfallback, ← Nat.add_assoc, ← books.served, stats]
    cases p.hot with
    | zero => rfl
    | one => exact Nat.add_right_comm _ _ _
  · rw [hot, hprimary]
    exact books.hot_eq_zero_iff
  · rw [hprimary, hfallback, stats]
    refine Nat.le_trans ?_ (Nat.add_le_add_right books.drift_le 1)
    generalize p.stats.popsPrimary % 2 = parity
    cases p.hot with
    | zero =>
      refine Nat.le_trans (Nat.le_of_eq (congrArg Int.natAbs ?_)) (Int.natAbs_add_le _ (-1))
      simp only [Stats.bump, PerFlow.set, PerFlow.get, Flow.other]
      omega
    | one =>
      refine Nat.le_trans (Nat.le_of_eq (congrArg Int.natAbs ?_)) (Int.natAbs_add_le _ 1)
      simp only [Stats.bump, PerFlow.set, PerFlow.get, Flow.other]
      omega

/-- **Every effect keeps the books balanced.** -/
theorem Effect.balanced {r : Request V} {a : Response V} {served : List Flow}
    (h : Effect p p' r a served) (hcap : p'.capacity = p.capacity) (books : Balanced p) :
    Balanced p' := by
  cases h with
  | pushRejected raised hot len stats =>
    rcases raised with rfl | rfl <;> apply books.congr hcap hot len <;> rw [stats] <;> rfl
  | popRejected hot len stats => apply books.congr hcap hot len <;> rw [stats] <;> rfl
  | peek hot len stats => apply books.congr hcap hot len <;> rw [stats]
  | pushAccepted room hot len stats =>
    obtain ⟨-, haccepted, hserved, hhot, hdrift⟩ := books
    constructor
    · rw [len, hcap]
      exact room
    · rw [stats, len]
      exact congrArg (· + 1) haccepted
    · rw [stats]
      exact hserved
    · rw [hot, stats]
      exact hhot
    · rw [stats]
      exact hdrift
  | popPrimary holds hot len stats => exact books.popPrimary hcap holds hot len stats
  | popFallback holds hot len stats => exact books.popFallback hcap holds hot len stats

/-! ## The laws between two times -/

/-- **What the books say of some requests**: how many pushes and pops there were, which pops each
flow served, and that the turn is with the sibling of the flow that served last. -/
structure Counted (p p' : Pifo V Q₀ Q₁) (requests : List (Request V)) (flows : List Flow) :
    Prop where
  pushes : p'.stats.pushesAnswered =
    p.stats.pushesAnswered + requests.countP (·.command = .push)
  pops : p'.stats.popsAnswered = p.stats.popsAnswered + requests.countP (·.command = .pop)
  served : ∀ f, p'.stats.served.get f = p.stats.served.get f + flows.count f
  hot : p'.hot = flows.getLast?.elim p.hot Flow.other

theorem Counted.refl (p : Pifo V Q₀ Q₁) : Counted p p [] [] := ⟨rfl, rfl, fun _ => rfl, rfl⟩

theorem Counted.trans {p'' : Pifo V Q₀ Q₁} {requests requests' : List (Request V)}
    {flows flows' : List Flow} (h : Counted p p' requests flows)
    (h' : Counted p' p'' requests' flows') :
    Counted p p'' (requests ++ requests') (flows ++ flows') where
  pushes := by rw [h'.pushes, h.pushes, List.countP_append, Nat.add_assoc]
  pops := by rw [h'.pops, h.pops, List.countP_append, Nat.add_assoc]
  served f := by rw [h'.served, h.served, List.count_append, Nat.add_assoc]
  hot := by
    rw [h'.hot, h.hot, List.getLast?_append]
    cases flows'.getLast? <;> rfl

/-- A pop that a flow serves is counted for this flow alone. -/
theorem served_get_bump (s : Stats) (f g : Flow) :
    (s.bump (.served f)).served.get g = s.served.get g + [f].count g := by
  by_cases hg : g = f
  · rw [hg, List.count_singleton_self]
    exact PerFlow.get_set_self _ _ _
  · rw [List.count_singleton, beq_false_of_ne (Ne.symm hg)]
    exact PerFlow.get_set_of_ne _ _ hg

theorem Effect.counted {r : Request V} {a : Response V} {served : List Flow}
    (h : Effect p p' r a served) : Counted p p' [r] served := by
  cases h with
  | pushRejected raised hot len stats =>
    rcases raised with rfl | rfl <;>
      refine ⟨?_, by rw [stats]; rfl, fun f => by rw [stats]; rfl, hot⟩
    · rw [stats]
      show _ = p.stats.pushesAnswered + 1
      simp only [Stats.pushesAnswered, Stats.bump]
      omega
    · rw [stats]
      rfl
  | pushAccepted room hot len stats =>
    refine ⟨?_, by rw [stats]; rfl, fun f => by rw [stats]; rfl, hot⟩
    rw [stats]
    show _ = p.stats.pushesAnswered + 1
    simp only [Stats.pushesAnswered, Stats.bump]
    omega
  | popRejected hot len stats =>
    exact ⟨by rw [stats]; rfl, by rw [stats]; rfl, fun f => by rw [stats]; rfl, hot⟩
  | popPrimary holds hot len stats =>
    refine ⟨by rw [stats]; rfl, ?_, fun f => by rw [stats, served_get_bump]; rfl, hot⟩
    rw [stats]
    show _ = p.stats.popsAnswered + 1
    simp only [Stats.popsAnswered, Stats.bump]
    omega
  | popFallback holds hot len stats =>
    refine ⟨by rw [stats]; rfl, ?_, fun f => by rw [stats, served_get_bump]; rfl, ?_⟩
    · rw [stats]
      show _ = p.stats.popsAnswered + 1
      simp only [Stats.popsAnswered, Stats.bump]
      omega
    · rw [hot]
      exact (Flow.other_other _).symm
  | peek hot len stats =>
    exact ⟨by rw [stats]; rfl, by rw [stats]; rfl, fun f => by rw [stats]; rfl, hot⟩

/-! ## Runs -/

variable [SubQueue Q₀ V] [SubQueue Q₁ V]

/-- Freshly built over any sub-queues, a scheduler has headroom for any number of requests that is a
machine word. -/
theorem headroom_of_build {c : Config V} {queue0 : Q₀} {queue1 : Q₁}
    (built : build c queue0 queue1 = .ok p) {n : Nat} (hn : n < wordLimit) : Headroom n p := by
  obtain ⟨valid, -, -, hp⟩ := build_eq_ok_iff.mp built
  constructor
  · rw [hp, Config.totalCapacity_of_validate valid]
    exact ((Config.validate_eq_ok_iff c).mp valid).2
  · intro counter
    rw [hp, Stats.get_default, Nat.zero_add]
    exact hn

theorem balanced_of_build {c : Config V} {queue0 : Q₀} {queue1 : Q₁}
    (built : build c queue0 queue1 = .ok p) : Balanced p := by
  obtain ⟨-, -, -, hp⟩ := build_eq_ok_iff.mp built
  rw [hp]
  exact ⟨Nat.zero_le _, rfl, rfl, ⟨fun _ => rfl, fun _ => rfl⟩, Nat.le_refl _⟩

variable [LE V] [DecidableLE V]

/-- **Every request has one of the effects.** -/
theorem Transition.effect {r : Request V} {es : List Event} {a : Response V}
    (h : Transition p r p' es a) : Effect p p' r a (es.filterMap Event.servedBy?) := by
  cases h with
  | pushFull => exact .pushRejected (.inl rfl) rfl rfl rfl
  | pushRefused _ asked =>
    have same := sameControl_of_subPush asked
    exact .pushRejected (.inr rfl) same.hot same.len (by rw [same.stats])
  | pushAccepted room asked =>
    have same := sameControl_of_subPush asked
    exact .pushAccepted room same.hot (congrArg (· + 1) same.len) (by rw [same.stats])
  | popEmpty => exact .popRejected rfl rfl rfl
  | popPrimary holds asked =>
    have same := sameControl_of_subPop asked
    exact .popPrimary holds (congrArg Flow.other same.hot) (congrArg (· - 1) same.len)
      (by rw [same.stats])
  | popFallback holds asked askedOther =>
    have same := (sameControl_of_subPop asked).trans (sameControl_of_subPop askedOther)
    exact .popFallback holds same.hot (congrArg (· - 1) same.len) (by rw [same.stats])
  | popFailed _ asked askedOther =>
    have same := (sameControl_of_subPop asked).trans (sameControl_of_subPop askedOther)
    exact .popRejected same.hot same.len (by rw [same.stats])
  | peekEmpty => exact .peek rfl rfl rfl
  | peekPrimary _ asked =>
    have same := sameControl_of_subPeek asked
    exact .peek same.hot same.len same.stats
  | peekFallback _ asked askedOther =>
    have same := (sameControl_of_subPeek asked).trans (sameControl_of_subPeek askedOther)
    exact .peek same.hot same.len same.stats

theorem Balanced.serve (books : Balanced p) {requests : List (Request V)} {es : List Event}
    {answers : List (Response V)} (run : (serve requests).run p = ⟨p', es, .ok answers⟩) :
    Balanced p' ∧ p'.capacity = p.capacity := by
  induction requests generalizing p es answers with
  | nil =>
    cases run
    exact ⟨books, rfl⟩
  | cons r rest ih =>
    obtain ⟨q, es₁, a, es₂, later, hr, hrest, -, -⟩ := serve_cons.mp run
    have way := transition_of_run hr
    obtain ⟨hbooks, hcap⟩ := ih (way.effect.balanced way.fixed.1 books) hrest
    exact ⟨hbooks, hcap.trans way.fixed.1⟩

theorem counted_of_serve {p p' : Pifo V Q₀ Q₁} {requests : List (Request V)} {es : List Event}
    {answers : List (Response V)} (run : (serve requests).run p = ⟨p', es, .ok answers⟩) :
    Counted p p' requests (es.filterMap Event.servedBy?) := by
  induction requests generalizing p es answers with
  | nil =>
    cases run
    exact .refl _
  | cons r rest ih =>
    obtain ⟨q, es₁, a, es₂, later, hr, hrest, rfl, -⟩ := serve_cons.mp run
    rw [List.filterMap_append]
    exact (transition_of_run hr).effect.counted.trans (ih hrest)

theorem length_served_of_serve {requests : List (Request V)} {es : List Event}
    {answers : List (Response V)} (run : (serve requests).run p = ⟨p', es, .ok answers⟩) :
    (es.filterMap Event.servedBy?).length = (popped (requests.zip answers)).length := by
  induction requests generalizing p es answers with
  | nil =>
    cases run
    rfl
  | cons r rest ih =>
    obtain ⟨q, es₁, a, es₂, later, hr, hrest, rfl, rfl⟩ := serve_cons.mp run
    rw [List.zip_cons_cons, popped_cons, List.length_append, ← ih hrest,
      ← (transition_of_run hr).effect.length_served, List.filterMap_append, List.length_append]

/-- **The accounts over any sub-queues.** A scheduler that was built, of whatever sub-queues,
answers every list of requests that a machine word counts: the length counter is never raised at the
capacity or lowered at zero, and no counter leaves the machine word. Its books balance then, and
they tell the requests: every push and every pop is counted once, every pop that was answered with a
value was served by one flow and is counted for it, and the turn is with the sibling of the flow
that served last. Whichever request of the list is answered with an error or is a peek, it left the
turn and the length alone. -/
theorem serve_keeps_accounts {c : Config V} {queue0 : Q₀} {queue1 : Q₁} {p₀ : Pifo V Q₀ Q₁}
    (built : build c queue0 queue1 = .ok p₀) (requests : List (Request V))
    (few : requests.length < wordLimit) :
    ∃ p es answers, (serve requests).run p₀ = ⟨p, es, .ok answers⟩ ∧
      p.Balanced ∧ p.capacity = 2 * c.flowCapacity ∧
      requests.countP (·.command = .push) =
        p.stats.pushesAccepted + p.stats.pushesRejectedFull + p.stats.pushesRejectedFlow ∧
      requests.countP (·.command = .pop) =
        p.stats.popsPrimary + p.stats.popsFallback + p.stats.popUnderflows ∧
      (es.filterMap Event.servedBy?).length = (popped (requests.zip answers)).length ∧
      (∀ f, p.stats.served.get f = (es.filterMap Event.servedBy?).count f) ∧
      p.hot = (es.filterMap Event.servedBy?).getLast?.elim .zero Flow.other ∧
      ∀ before r rest, requests = before ++ r :: rest →
        ∃ q es₁ answers₁ q' es₂ a, (serve before).run p₀ = ⟨q, es₁, .ok answers₁⟩ ∧
          (handle r).run q = ⟨q', es₂, .ok a⟩ ∧ answers[before.length]? = some a ∧
          (r = .peek ∨ (∃ e, a = .error e) → q'.hot = q.hot ∧ q'.len = q.len) := by
  obtain ⟨p, es, answers, hrun⟩ := exists_run_serve requests (headroom_of_build built few)
  obtain ⟨hbooks, hcap⟩ := (balanced_of_build built).serve hrun
  have counted := counted_of_serve hrun
  obtain ⟨valid, -, -, rfl⟩ := build_eq_ok_iff.mp built
  refine ⟨p, es, answers, hrun, hbooks, ?_, ?_, ?_, length_served_of_serve hrun, fun f => ?_,
    counted.hot, ?_⟩
  · rw [hcap, Config.totalCapacity_of_validate valid, Nat.mul_comm]
  · exact (Nat.zero_add _).symm.trans counted.pushes.symm
  · exact (Nat.zero_add _).symm.trans counted.pops.symm
  · rw [counted.served f]
    cases f <;> exact Nat.zero_add _
  · intro before r rest hsplit
    rw [hsplit] at hrun
    obtain ⟨q, es₁, answers₁, es₂, answers₂, hbefore, hafter, -, rfl⟩ := serve_append.mp hrun
    obtain ⟨q', es₃, a, es₄, later, hr, -, -, rfl⟩ := serve_cons.mp hafter
    refine ⟨q, es₁, answers₁, q', es₃, a, hbefore, hr, ?_, (transition_of_run hr).effect.unchanged⟩
    rw [← length_of_serve hbefore, List.getElem?_append_right (Nat.le_refl _), Nat.sub_self]
    rfl

/-- Over a flow zero that loses every value it takes and a flow one whose peek takes the value off:
a peek that empties flow one, then pops that find both flows empty while two values are counted. -/
theorem serve_keeps_accounts_lossy :
    ∃ p₀ : Pifo UInt32 (FaultyQueue UInt32) (FaultyQueue UInt32),
      build ⟨2, 200⟩ { capacity := 2, limit := 2, pushMode := .drop }
          { capacity := 2, limit := 2, peekMode := .consume } = .ok p₀ ∧
        [Request.push (1 : UInt32), .push 300, .push 301, .peek, .pop, .pop].length < wordLimit ∧
        ∃ p es answers,
          (serve [.push 1, .push 300, .push 301, .peek, .pop, .pop]).run p₀ =
              ⟨p, es, .ok answers⟩ ∧
            p.Balanced ∧ p.hot = (es.filterMap Event.servedBy?).getLast?.elim .zero Flow.other := by
  obtain ⟨p₀, built⟩ : ∃ p₀ : Pifo UInt32 (FaultyQueue UInt32) (FaultyQueue UInt32),
      build ⟨2, 200⟩ { capacity := 2, limit := 2, pushMode := .drop }
        { capacity := 2, limit := 2, peekMode := .consume } = .ok p₀ := ⟨_, rfl⟩
  obtain ⟨p, es, answers, hrun, hbooks, -, -, -, -, -, hhot, -⟩ :=
    serve_keeps_accounts built [.push 1, .push 300, .push 301, .peek, .pop, .pop] (by decide)
  exact ⟨p₀, built, by decide, p, es, answers, hrun, hbooks, hhot⟩

end Pifo

end TwoFlow
