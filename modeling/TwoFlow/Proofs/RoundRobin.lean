import Mathlib.Data.List.Basic
import TwoFlow.Proofs.Simulation
import TwoFlow.Scenario

/-!
# Round robin

Values come in pairs, one for each flow, and as many pops follow as there were pushes. The run has
four parts. While there is room, both values of a pair are accepted and the flows stay equally long.
They are full at the same time, so every push after that finds the whole scheduler full. The pops
find a value in the hot flow every time, and hand the pairs out in the order in which they came.
When the last pair is gone, nothing waits and flow zero is hot again, and the other pops are
rejected.

Each part is a run of a backlog with its statistics, and the parts are put together.

## Main definitions

* `Backlog.Leads`: a run of a backlog, with the exchanges and the statistics
* `Scenario.pushRound`, `Scenario.popRound`: the exchanges of a pair

## Main results

* `Backlog.Leads.pushes_accepted`, `Backlog.Leads.pushes_full`, `Backlog.Leads.pops_by_turns`,
  `Backlog.Leads.pops_empty`: the four parts
* `Backlog.Leads.fill_and_drain`: pairs that are pushed, accepted or not, and then popped
* `Scenario.fillBoth_round_robin`: the stream that fills both flows
-/

namespace TwoFlow

namespace Backlog

variable {V : Type} [LE V] [DecidableLE V] {c : Config V} {s s' s'' : Backlog V}
  {st st' st'' : Stats} {trace later : List (Request V × Response V)}

/-- **A run of a backlog**: from `s` and the statistics `st` the requests of a trace lead to `s'`
and `st'`, and each of them is answered as the trace says. -/
inductive Leads (c : Config V) :
    Backlog V → Stats → List (Request V × Response V) → Backlog V → Stats → Prop
  | nil (s : Backlog V) (st : Stats) : Leads c s st [] s st
  | cons {s t s' : Backlog V} {st st' : Stats} {r : Request V} {a : Response V}
      {raised : List Counter} {es : List Event} {trace : List (Request V × Response V)}
      (first : s.turn c r = ⟨t, a, raised, es⟩)
      (rest : Leads c t (raised.foldl Stats.bump st) trace s' st') :
    Leads c s st ((r, a) :: trace) s' st'

namespace Leads

theorem trans (h : Leads c s st trace s' st') (h' : Leads c s' st' later s'' st'') :
    Leads c s st (trace ++ later) s'' st'' := by
  induction h with
  | nil => exact h'
  | cons first _ ih => exact .cons first (ih h')

/-- A run of a backlog is told by the turns of its requests. -/
theorem spec (h : Leads c s st trace s' st') :
    s.after c (trace.map Prod.fst) = s' ∧
      (s.turns c (trace.map Prod.fst)).map (·.response) = trace.map Prod.snd ∧
      ((s.turns c (trace.map Prod.fst)).flatMap (·.raised)).foldl Stats.bump st = st' := by
  induction h with
  | nil => exact ⟨rfl, rfl, rfl⟩
  | cons first _ ih =>
    obtain ⟨hafter, hresponses, hstats⟩ := ih
    simp only [List.map_cons, after, turns, first, List.flatMap_cons, List.foldl_append,
      List.cons.injEq, true_and]
    exact ⟨hafter, hresponses, hstats⟩

/-! ## The four parts -/

/-- A push to a flow below its capacity, beside one that is at most at its capacity. -/
theorem push_accepted {v : V} {f : Flow} (hclass : c.classifier.classify v = f)
    (hroom : (s.flows.get f).length < c.flowCapacity)
    (hother : (s.flows.get f.other).length ≤ c.flowCapacity) :
    Leads c s st [(.push v, .ok none)] ⟨s.flows.set f (s.flows.get f ++ [v]), s.hot⟩
      (st.bump .pushesAccepted) := by
  have hlen := s.len_eq f
  subst hclass
  exact .cons (turn_push_accepted (by omega) (Nat.ne_of_lt hroom)) (.nil _ _)

/-- A pair is accepted, if there is room for one value in each of two flows that are equally
long. -/
theorem pair_accepted {v w : V} {hot : Flow} {l m : List V} (hv : c.classifier.classify v = .zero)
    (hw : c.classifier.classify w = .one) (heven : m.length = l.length)
    (hroom : l.length < c.flowCapacity) :
    Leads c ⟨⟨l, m⟩, hot⟩ st [(.push v, .ok none), (.push w, .ok none)]
      ⟨⟨l ++ [v], m ++ [w]⟩, hot⟩ { st with pushesAccepted := st.pushesAccepted + 2 } := by
  have hfirst : Leads c ⟨⟨l, m⟩, hot⟩ st [(.push v, .ok none)] ⟨⟨l ++ [v], m⟩, hot⟩
      (st.bump .pushesAccepted) := by
    refine push_accepted hv hroom ?_
    show m.length ≤ c.flowCapacity
    omega
  refine hfirst.trans (push_accepted hw ?_ ?_)
  · show m.length < c.flowCapacity
    omega
  · show (l ++ [v]).length ≤ c.flowCapacity
    rw [List.length_append]
    exact hroom

/-- **Pairs are accepted** while there is room for them. -/
theorem pushes_accepted {pairs : List (V × V)} {hot : Flow} {l m : List V}
    (hzero : ∀ x ∈ pairs, c.classifier.classify x.1 = .zero)
    (hone : ∀ x ∈ pairs, c.classifier.classify x.2 = .one) (heven : m.length = l.length)
    (hroom : l.length + pairs.length ≤ c.flowCapacity) (st : Stats) :
    Leads c ⟨⟨l, m⟩, hot⟩ st
      (pairs.flatMap fun x => [(.push x.1, .ok none), (.push x.2, .ok none)])
      ⟨⟨l ++ pairs.map Prod.fst, m ++ pairs.map Prod.snd⟩, hot⟩
      { st with pushesAccepted := st.pushesAccepted + 2 * pairs.length } := by
  induction pairs generalizing l m st with
  | nil =>
    rw [List.map_nil, List.map_nil, List.append_nil, List.append_nil]
    exact .nil _ _
  | cons x pairs ih =>
    obtain ⟨hx₀, hzero⟩ := List.forall_mem_cons.mp hzero
    obtain ⟨hx₁, hone⟩ := List.forall_mem_cons.mp hone
    rw [List.length_cons] at hroom
    have hpair : Leads c ⟨⟨l, m⟩, hot⟩ st _ _ _ := pair_accepted hx₀ hx₁ heven (by omega)
    have hlater := ih hzero hone (l := l ++ [x.1]) (m := m ++ [x.2]) (by simp [heven])
      (by
        rw [List.length_append, List.length_singleton]
        omega)
      { st with pushesAccepted := st.pushesAccepted + 2 }
    have hcount : st.pushesAccepted + 2 * (x :: pairs).length =
        st.pushesAccepted + 2 + 2 * pairs.length := by
      rw [List.length_cons]
      omega
    rw [hcount, List.flatMap_cons, List.map_cons, List.map_cons, List.append_cons l,
      List.append_cons m]
    exact hpair.trans hlater

/-- **Pairs are rejected** by a backlog that is full. -/
theorem pushes_full {pairs : List (V × V)} (hfull : pairs ≠ [] → s.len = c.flowCapacity * 2)
    (st : Stats) :
    Leads c s st
      (pairs.flatMap fun x =>
        [(.push x.1, .error (.overflow (c.flowCapacity * 2) (c.flowCapacity * 2))),
         (.push x.2, .error (.overflow (c.flowCapacity * 2) (c.flowCapacity * 2)))])
      s { st with pushesRejectedFull := st.pushesRejectedFull + 2 * pairs.length } := by
  induction pairs generalizing st with
  | nil => exact .nil _ _
  | cons x pairs ih =>
    have hlen := hfull (List.cons_ne_nil x pairs)
    have hlater := ih (fun _ => hlen) { st with pushesRejectedFull := st.pushesRejectedFull + 2 }
    have hcount : st.pushesRejectedFull + 2 * (x :: pairs).length =
        st.pushesRejectedFull + 2 + 2 * pairs.length := by
      rw [List.length_cons]
      omega
    rw [← hlen] at hlater
    rw [hcount, ← hlen]
    exact .cons (turn_push_full hlen) (.cons (turn_push_full hlen) hlater)

/-- **Pairs are handed out by turns**, by the hot flow every time. -/
theorem pops_by_turns (pairs : List (V × V)) (st : Stats) :
    Leads c ⟨⟨pairs.map Prod.fst, pairs.map Prod.snd⟩, .zero⟩ st
      (pairs.flatMap fun x => [(.pop, .ok (some x.1)), (.pop, .ok (some x.2))])
      .empty
      { st with
        popsPrimary := st.popsPrimary + 2 * pairs.length
        served := ⟨st.served.zero + pairs.length, st.served.one + pairs.length⟩ } := by
  induction pairs generalizing st with
  | nil => exact .nil _ _
  | cons x pairs ih =>
    have hlater := ih
      { st with
        popsPrimary := st.popsPrimary + 2
        served := ⟨st.served.zero + 1, st.served.one + 1⟩ }
    have hprimary : st.popsPrimary + 2 * (x :: pairs).length =
        st.popsPrimary + 2 + 2 * pairs.length := by
      rw [List.length_cons]
      omega
    have hserved : ∀ n, n + (x :: pairs).length = n + 1 + pairs.length := by
      intro n
      rw [List.length_cons]
      omega
    rw [hprimary, hserved, hserved]
    -- Two pops pass the turn on twice, so that flow zero is hot again.
    exact .cons (turn_pop_primary rfl) (.cons (turn_pop_primary rfl) hlater)

/-- **Pops are rejected** by a backlog with nothing in it. -/
theorem pops_empty (n : Nat) (st : Stats) :
    Leads c .empty st (List.replicate n (.pop, .error .underflow)) .empty
      { st with popUnderflows := st.popUnderflows + n } := by
  induction n generalizing st with
  | zero => exact .nil _ _
  | succ n ih =>
    have hlater := ih { st with popUnderflows := st.popUnderflows + 1 }
    rw [Nat.add_assoc, Nat.add_comm 1] at hlater
    exact .cons (turn_pop_empty (PerFlow.get_both [])) hlater

/-- **Pairs that are pushed and then popped.** The first ones are accepted and the others, if there
are any, find the scheduler full; the pops hand the first ones out by turns, and there is nothing
left for the others. -/
theorem fill_and_drain (pairs refused : List (V × V))
    (hzero : ∀ x ∈ pairs, c.classifier.classify x.1 = .zero)
    (hone : ∀ x ∈ pairs, c.classifier.classify x.2 = .one) (hroom : pairs.length ≤ c.flowCapacity)
    (hfull : refused ≠ [] → pairs.length = c.flowCapacity) :
    Leads c .empty {}
      (pairs.flatMap (fun x => [(.push x.1, .ok none), (.push x.2, .ok none)]) ++
        refused.flatMap (fun x =>
          [(.push x.1, .error (.overflow (c.flowCapacity * 2) (c.flowCapacity * 2))),
           (.push x.2, .error (.overflow (c.flowCapacity * 2) (c.flowCapacity * 2)))]) ++
        (pairs.flatMap (fun x => [(.pop, .ok (some x.1)), (.pop, .ok (some x.2))]) ++
          List.replicate (2 * refused.length) (.pop, .error .underflow)))
      .empty
      { pushesAccepted := 2 * pairs.length
        pushesRejectedFull := 2 * refused.length
        pushesRejectedFlow := 0
        popsPrimary := 2 * pairs.length
        popsFallback := 0
        popUnderflows := 2 * refused.length
        served := ⟨pairs.length, pairs.length⟩ } := by
  -- The flows are equally long after the accepted pairs, and both full if there are any others.
  have haccepted : Leads c .empty {} _ ⟨⟨pairs.map Prod.fst, pairs.map Prod.snd⟩, .zero⟩ _ :=
    pushes_accepted (l := []) (m := []) hzero hone rfl (by simpa using hroom) {}
  have hlen : refused ≠ [] →
      len ⟨⟨pairs.map Prod.fst, pairs.map Prod.snd⟩, .zero⟩ = c.flowCapacity * 2 := by
    intro hsome
    simp only [len, List.length_map, hfull hsome]
    exact (Nat.mul_two _).symm
  have hrun := (haccepted.trans (pushes_full hlen _)).trans
    ((pops_by_turns pairs _).trans (pops_empty (2 * refused.length) _))
  simpa only [Nat.zero_add, PerFlow.both] using hrun

end Leads

end Backlog

namespace Pifo

variable {V : Type} [LE V] [DecidableLE V] {c : Config V} {p₀ : Pifo V (Fifo V) (Fifo V)}
  {s' : Backlog V} {st' : Stats} {trace : List (Request V × Response V)}

/-- A scheduler over the stock queues follows the runs of the empty backlog. -/
theorem exists_run_of_leads (built : withFifos c = .ok p₀)
    (leads : Backlog.Leads c .empty {} trace s' st') (few : trace.length < wordLimit) :
    ∃ p es, (serve (trace.map Prod.fst)).run p₀ = ⟨p, es, .ok (trace.map Prod.snd)⟩ ∧ Sound c p ∧
      p.backlog = s' ∧ p.stats = st' := by
  obtain ⟨hsound, hempty, hstats⟩ := sound_of_build built
  obtain ⟨p, es, answers, hrun⟩ := exists_run_serve (trace.map Prod.fst)
    (hsound.headroom hstats (by rw [List.length_map]; exact few))
  obtain ⟨hsound', hbacklog, hanswers, -, hstats'⟩ := hsound.serve hrun
  rw [hempty] at hbacklog hanswers hstats'
  rw [hstats] at hstats'
  obtain ⟨hafter, hresponses, hraised⟩ := leads.spec
  rw [hanswers, hresponses] at hrun
  exact ⟨p, es, hrun, hsound', hbacklog.trans hafter, hstats'.trans hraised⟩

end Pifo

namespace Scenario

/-! ## The stream that fills both flows -/

/-- The pushes of a round of the stream that fills both flows, and their answers. -/
def pushRound (capacity i : Nat) : List (Request Value × Response Value) :=
  if i < capacity then [(.push (.ofNat i), .ok none), (.push (.ofNat (1000 + i)), .ok none)]
  else
    [(.push (.ofNat i), .error (.overflow (capacity * 2) (capacity * 2))),
     (.push (.ofNat (1000 + i)), .error (.overflow (capacity * 2) (capacity * 2)))]

/-- The pops of a round of the stream that fills both flows, and their answers. -/
def popRound (capacity i : Nat) : List (Request Value × Response Value) :=
  if i < capacity then [(.pop, .ok (some (.ofNat i))), (.pop, .ok (some (.ofNat (1000 + i))))]
  else [(.pop, .error .underflow), (.pop, .error .underflow)]

section Rounds

variable {α β : Type}

theorem flatMap_twice (l : List β) (a : α) :
    l.flatMap (fun _ => [a, a]) = List.replicate (2 * l.length) a := by
  induction l with
  | nil => rfl
  | cons b l ih =>
    rw [List.flatMap_cons, ih, List.length_cons, Nat.mul_succ,
      List.replicate_succ, List.replicate_succ]
    rfl

theorem length_flatMap_two {f : β → List α} (h : ∀ b, (f b).length = 2) (l : List β) :
    (l.flatMap f).length = 2 * l.length := by
  induction l with
  | nil => rfl
  | cons b l ih =>
    rw [List.flatMap_cons, List.length_append, h, ih, List.length_cons]
    omega

/-- Rounds that change after the `k`-th one are some rounds of the one kind and then some of the
other. -/
theorem flatMap_range_ite (n k : Nat) (early late : Nat → List α) :
    ((List.range n).flatMap fun i => if i < k then early i else late i) =
      (List.range (min n k)).flatMap early ++
        (List.range' (min n k) (n - min n k)).flatMap late := by
  have hrange : List.range n = List.range (min n k) ++ List.range' (min n k) (n - min n k) := by
    have happend := List.range'_append_1 (s := 0) (m := min n k) (n := n - min n k)
    rw [Nat.zero_add, Nat.add_sub_cancel' (Nat.min_le_left n k)] at happend
    rw [List.range_eq_range', List.range_eq_range', happend]
  rw [hrange, List.flatMap_append]
  congr 1
  · apply List.flatMap_congr
    intro i hi
    rw [List.mem_range] at hi
    exact if_pos (by omega)
  · apply List.flatMap_congr
    intro i hi
    rw [List.mem_range'_1] at hi
    exact if_neg (by omega)

end Rounds

/-- The pair of a round: a value for each flow. -/
def pair (i : Nat) : Value × Value := (.ofNat i, .ofNat (1000 + i))

theorem flatMap_pushRound (n k : Nat) :
    (List.range n).flatMap (pushRound k) =
      ((List.range (min n k)).map pair).flatMap
          (fun x => [(.push x.1, .ok none), (.push x.2, .ok none)]) ++
        ((List.range' (min n k) (n - min n k)).map pair).flatMap (fun x =>
          [(.push x.1, .error (.overflow (k * 2) (k * 2))),
           (.push x.2, .error (.overflow (k * 2) (k * 2)))]) := by
  rw [List.flatMap_map, List.flatMap_map]
  exact flatMap_range_ite n k _ _

theorem flatMap_popRound (n k : Nat) :
    (List.range n).flatMap (popRound k) =
      ((List.range (min n k)).map pair).flatMap
          (fun x => [(.pop, .ok (some x.1)), (.pop, .ok (some x.2))]) ++
        List.replicate (2 * ((List.range' (min n k) (n - min n k)).map pair).length)
          (.pop, .error .underflow) := by
  rw [← flatMap_twice, List.flatMap_map, List.flatMap_map]
  exact flatMap_range_ite n k _ _

/-- **The rounds lead from nothing back to nothing**, if the values of each flow are its own. -/
theorem rounds_lead {c : Config Value} {n : Nat}
    (hzero : ∀ i < n, c.classifier.classify (pair i).1 = .zero)
    (hone : ∀ i < n, c.classifier.classify (pair i).2 = .one) :
    Backlog.Leads c .empty {}
      ((List.range n).flatMap (pushRound c.flowCapacity) ++
        (List.range n).flatMap (popRound c.flowCapacity))
      .empty
      { pushesAccepted := 2 * min n c.flowCapacity
        pushesRejectedFull := 2 * (n - min n c.flowCapacity)
        pushesRejectedFlow := 0
        popsPrimary := 2 * min n c.flowCapacity
        popsFallback := 0
        popUnderflows := 2 * (n - min n c.flowCapacity)
        served := ⟨min n c.flowCapacity, min n c.flowCapacity⟩ } := by
  rw [flatMap_pushRound, flatMap_popRound]
  generalize hpairs : (List.range (min n c.flowCapacity)).map pair = pairs
  generalize hrefused : (List.range' (min n c.flowCapacity) (n - min n c.flowCapacity)).map pair =
    refused
  have hlen : pairs.length = min n c.flowCapacity := by
    rw [← hpairs, List.length_map, List.length_range]
  have hlen' : refused.length = n - min n c.flowCapacity := by
    rw [← hrefused, List.length_map, List.length_range']
  have hround : ∀ x ∈ pairs, ∃ i < n, pair i = x := by
    intro x hx
    rw [← hpairs] at hx
    obtain ⟨i, hi, rfl⟩ := List.mem_map.mp hx
    rw [List.mem_range] at hi
    exact ⟨i, Nat.lt_of_lt_of_le hi (Nat.min_le_left _ _), rfl⟩
  rw [← hlen', ← hlen]
  apply Backlog.Leads.fill_and_drain
  · intro x hx
    obtain ⟨i, hi, rfl⟩ := hround x hx
    exact hzero i hi
  · intro x hx
    obtain ⟨i, hi, rfl⟩ := hround x hx
    exact hone i hi
  · rw [hlen]
    exact Nat.min_le_right _ _
  · intro hsome
    -- Only a stream that is longer than the capacity has rounds left.
    have hpos := List.length_pos_iff.mpr hsome
    omega

/-! ## The requests of the stream -/

theorem map_fst_pushRounds (n k : Nat) :
    ((List.range n).flatMap (pushRound k)).map Prod.fst =
      (List.range n).flatMap fun i => [.push (.ofNat i), .push (.ofNat (1000 + i))] := by
  rw [List.map_flatMap]
  apply List.flatMap_congr
  intro i _
  unfold pushRound
  split <;> rfl

theorem map_fst_popRounds (n k : Nat) :
    ((List.range n).flatMap (popRound k)).map Prod.fst = List.replicate (n * 2) .pop := by
  have hpops : ∀ i, (popRound k i).map Prod.fst = [.pop, .pop] := by
    intro i
    unfold popRound
    split <;> rfl
  simp only [List.map_flatMap, hpops, flatMap_twice, List.length_range, Nat.mul_comm]

theorem fillBoth_eq {count : UInt32} (hcount : count.toNat * 2 < UInt32.size) (k : Nat) :
    fillBoth count =
      .ok (((List.range count.toNat).flatMap (pushRound k) ++
        (List.range count.toNat).flatMap (popRound k)).map Prod.fst) := by
  rw [List.map_append, map_fst_pushRounds, map_fst_popRounds]
  exact if_pos hcount

theorem length_rounds (n k : Nat) :
    ((List.range n).flatMap (pushRound k) ++ (List.range n).flatMap (popRound k)).length =
      4 * n := by
  have hpush : ∀ i, (pushRound k i).length = 2 := by
    intro i
    unfold pushRound
    split <;> rfl
  have hpop : ∀ i, (popRound k i).length = 2 := by
    intro i
    unfold popRound
    split <;> rfl
  rw [List.length_append, length_flatMap_two hpush, length_flatMap_two hpop, List.length_range]
  omega

/-- Below a thousand, the values of the stream are split between the flows as they should be. -/
theorem classify_pair {c : Config Value} (hboundary : c.boundary < 1000) {i : Nat}
    (hi : i ≤ c.boundary.toNat) :
    c.classifier.classify (pair i).1 = .zero ∧ c.classifier.classify (pair i).2 = .one := by
  have hlt : c.boundary.toNat < 1000 := UInt32.lt_iff_toNat_lt.mp hboundary
  have hsize : UInt32.size = 4294967296 := rfl
  constructor
  · rw [Classifier.classify_eq_zero_iff, UInt32.le_iff_toNat_le]
    show (UInt32.ofNat i).toNat ≤ c.boundary.toNat
    rw [UInt32.toNat_ofNat_of_lt' (by omega)]
    exact hi
  · apply if_neg
    rw [UInt32.le_iff_toNat_le]
    show ¬ (UInt32.ofNat (1000 + i)).toNat ≤ c.boundary.toNat
    rw [UInt32.toNat_ofNat_of_lt' (by omega)]
    omega

/-- **Round robin.** Let the boundary of a valid configuration be below a thousand, and let the
stream that fills both flows have at most as many rounds as flow zero has values. A scheduler over
the stock queues accepts the pushes of the first rounds, as many as a flow has room for, and rejects
all others because it is full. It answers the pops of these rounds with the two values of each
round, in order and each time from the hot flow, and rejects the other pops. In the end nothing
waits and flow zero is hot. -/
theorem fillBoth_round_robin {c : Config Value} (valid : c.validate = .ok ())
    (hboundary : c.boundary < 1000) (count : UInt32) (hcount : count.toNat ≤ c.boundary.toNat + 1) :
    ∃ requests p₀ p es answers, fillBoth count = .ok requests ∧ Pifo.withFifos c = .ok p₀ ∧
      (Pifo.serve requests).run p₀ = ⟨p, es, .ok answers⟩ ∧ answers.length = requests.length ∧
      requests.zip answers =
        (List.range count.toNat).flatMap (pushRound c.flowCapacity) ++
          (List.range count.toNat).flatMap (popRound c.flowCapacity) ∧
      p.stats =
        { pushesAccepted := 2 * min count.toNat c.flowCapacity
          pushesRejectedFull := 2 * (count.toNat - min count.toNat c.flowCapacity)
          pushesRejectedFlow := 0
          popsPrimary := 2 * min count.toNat c.flowCapacity
          popsFallback := 0
          popUnderflows := 2 * (count.toNat - min count.toNat c.flowCapacity)
          served := ⟨min count.toNat c.flowCapacity, min count.toNat c.flowCapacity⟩ } ∧
      p.len = 0 ∧ p.queue0.items.toList = [] ∧ p.queue1.items.toList = [] ∧ p.hot = .zero := by
  have hlt : c.boundary.toNat < 1000 := UInt32.lt_iff_toNat_lt.mp hboundary
  have hclass : ∀ i < count.toNat,
      c.classifier.classify (pair i).1 = .zero ∧ c.classifier.classify (pair i).2 = .one :=
    fun i hi => classify_pair hboundary (by omega)
  have hleads := rounds_lead (fun i hi => (hclass i hi).1) (fun i hi => (hclass i hi).2)
  have hfill : fillBoth count = _ := fillBoth_eq
    (by
      have hsize : UInt32.size = 4294967296 := rfl
      omega)
    c.flowCapacity
  have hlength := length_rounds count.toNat c.flowCapacity
  generalize (List.range count.toNat).flatMap (pushRound c.flowCapacity) ++
    (List.range count.toNat).flatMap (popRound c.flowCapacity) = trace at hleads hfill hlength ⊢
  have hfew : trace.length < wordLimit := by
    have hlimit : wordLimit = 18446744073709551616 := rfl
    omega
  obtain ⟨p₀, built⟩ := Pifo.exists_withFifos valid
  obtain ⟨p, es, hrun, hsound, hbacklog, hstats⟩ := Pifo.exists_run_of_leads built hleads hfew
  refine ⟨_, p₀, p, es, _, hfill, built, hrun, ?_, ?_, hstats, ?_, ?_, ?_, ?_⟩
  · rw [List.length_map, List.length_map]
  · exact (List.zip_of_prod rfl rfl).symm
  · rw [hsound.len, hbacklog]
    rfl
  · exact congrArg (·.flows.zero) hbacklog
  · exact congrArg (·.flows.one) hbacklog
  · exact congrArg (·.hot) hbacklog

/-- Three rounds with room for two: the third pair finds the scheduler full, and the last two pops
find nothing. -/
theorem fillBoth_round_robin_three :
    (⟨2, 200⟩ : Config Value).validate = .ok () ∧ (200 : Value) < 1000 ∧
      (3 : UInt32).toNat ≤ (200 : Value).toNat + 1 ∧
      ∃ requests p₀ p es answers, fillBoth 3 = .ok requests ∧
        Pifo.withFifos (⟨2, 200⟩ : Config Value) = .ok p₀ ∧
        (Pifo.serve requests).run p₀ = ⟨p, es, .ok answers⟩ ∧
        requests.zip answers =
          [(.push 0, .ok none), (.push 1000, .ok none), (.push 1, .ok none), (.push 1001, .ok none),
           (.push 2, .error (.overflow 4 4)), (.push 1002, .error (.overflow 4 4)),
           (.pop, .ok (some 0)), (.pop, .ok (some 1000)), (.pop, .ok (some 1)),
           (.pop, .ok (some 1001)), (.pop, .error .underflow), (.pop, .error .underflow)] ∧
        p.stats = ⟨4, 2, 0, 4, 0, 2, ⟨2, 2⟩⟩ ∧ p.hot = .zero := by
  refine ⟨rfl, by decide, by decide, ?_⟩
  obtain ⟨requests, p₀, p, es, answers, hfill, built, hrun, -, htrace, hstats, -, -, -, hhot⟩ :=
    fillBoth_round_robin (c := ⟨2, 200⟩) rfl (by decide) 3 (by decide)
  exact ⟨requests, p₀, p, es, answers, hfill, built, hrun, htrace, hstats, hhot⟩

end Scenario

end TwoFlow
