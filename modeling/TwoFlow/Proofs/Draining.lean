import TwoFlow.Proofs.Accounts

/-!
# Draining ends

A drain is a row of pops that hand values out, and then one pop that does not. The sub-queues need
not ever run empty: one of them may hand out the same value again and again. What ends the row is
the scheduler's own length. Each value takes one off it, by whichever route it comes, and at zero a
pop is rejected. So a drain has no more values than the length says, over any sub-queues and from
any state.

The values handed out need no headroom: each of them was counted as it was taken in, so where the
books balance, no counter of values handed out gets past the counter of values taken in. Only the
pop that is rejected at the end raises a counter of its own, so a drain returns exactly when that
counter has headroom.

## Main definitions

* `Pifo.LessBy`: the books with a number of values less
* `Pifo.HandsOut`: a row of pops that hand values out

## Main results

* `Pifo.drain_of_value`, `Pifo.drain_of_rejection`, `Pifo.drain_of_fault`: a drain by its first pop
* `Pifo.exists_handsOut`: a drain pop by pop
* `Pifo.HandsOut.lessBy`: each value handed out is one less in the books
* `Pifo.Balanced.exists_drain_iff`: when a drain returns, over any sub-queues
* `Pifo.exists_drain_of_build`: a scheduler that was built can be drained after any requests
* `Pifo.drain_stops_within_len`: how far a drain gets, over any sub-queues and from any state
-/

namespace TwoFlow.Pifo

variable {V Q₀ Q₁ : Type} {p p' : Pifo V Q₀ Q₁}

/-! ## A drain by its first pop -/

section FirstPop

variable [SubQueue Q₀ V] [SubQueue Q₁ V] {es : List Event}

theorem drain_of_value {v : V} (h : pop.run p = ⟨p', es, .ok (.ok v)⟩) :
    drain p =
      ⟨(drain p').state, es ++ (drain p').events, (drain p').outcome.map (v :: ·)⟩ := by
  rw [drain]
  split
  all_goals
    rename_i hrun
    rw [h] at hrun
    cases hrun
  rfl

theorem drain_of_rejection {e : QueueError} (h : pop.run p = ⟨p', es, .ok (.error e)⟩) :
    drain p = ⟨p', es, .ok []⟩ := by
  rw [drain]
  split
  all_goals
    rename_i hrun
    rw [h] at hrun
    cases hrun
  rfl

theorem drain_of_fault {e : Fault} (h : pop.run p = ⟨p', es, .error e⟩) :
    drain p = ⟨p', es, .error e⟩ := by
  rw [drain]
  split
  all_goals
    rename_i hrun
    rw [h] at hrun
    cases hrun
  rfl

end FirstPop

/-! ## What a pop counts -/

theorem StaysInWord.get_lt (h : StaysInWord p p') {c : Counter} (hc : p.stats.get c < wordLimit) :
    p'.stats.get c < wordLimit := by
  by_cases hlt : p.stats.get c < p'.stats.get c
  · exact h.stats c hlt
  · omega

/-- **The books with `n` values less**: the values have come off the length and are counted as
popped. Pushes, and pops that found nothing, are counted as before. -/
structure LessBy (n : Nat) (p p' : Pifo V Q₀ Q₁) : Prop where
  len : p'.len + n = p.len
  totalPopped : p'.stats.totalPopped = p.stats.totalPopped + n
  pushesAccepted : p'.stats.pushesAccepted = p.stats.pushesAccepted
  popUnderflows : p'.stats.popUnderflows = p.stats.popUnderflows

theorem LessBy.refl (p : Pifo V Q₀ Q₁) : LessBy 0 p p := ⟨rfl, rfl, rfl, rfl⟩

theorem LessBy.trans {p'' : Pifo V Q₀ Q₁} {m n : Nat} (h : LessBy m p p') (h' : LessBy n p' p'') :
    LessBy (n + m) p p'' where
  len := by rw [← Nat.add_assoc, h'.len, h.len]
  totalPopped := by rw [h'.totalPopped, h.totalPopped, Nat.add_assoc, Nat.add_comm m n]
  pushesAccepted := h'.pushesAccepted.trans h.pushesAccepted
  popUnderflows := h'.popUnderflows.trans h.popUnderflows

/-- A pop that hands a value out leaves one value less, whichever flow it came from. -/
theorem Effect.lessBy {v : V} {served : List Flow} (h : Effect p p' .pop (.ok (some v)) served) :
    LessBy 1 p p' := by
  cases h with
  | popPrimary holds hot len stats =>
    refine ⟨by omega, ?_, by rw [stats]; rfl, by rw [stats]; rfl⟩
    -- The primary pops are the first summand of the total, so the one has to be moved past the
    -- second.
    rw [stats]
    exact Nat.add_right_comm _ _ _
  | popFallback holds hot len stats =>
    exact ⟨by omega, by rw [stats]; rfl, by rw [stats]; rfl, by rw [stats]; rfl⟩

/-- A pop that is rejected is counted, and that is all. -/
theorem Effect.of_rejection {e : QueueError} {served : List Flow}
    (h : Effect p p' .pop (.error e) served) :
    p'.len = p.len ∧ p'.stats = p.stats.bump .popUnderflows := by
  cases h with
  | popRejected hot len stats => exact ⟨len, stats⟩

/-- Where the books balance, a pop that hands a value out stays within the machine word: no counter
of values handed out gets past that of values taken in. A pop that is rejected raises a counter of
its own. -/
theorem Effect.staysInWord_pop_iff {a : Response V} {served : List Flow}
    (h : Effect p p' .pop a served) (hcap : p'.capacity = p.capacity) (books : Balanced p)
    (word : p.stats.pushesAccepted < wordLimit) :
    StaysInWord p p' ↔ ∀ e, a = .error e → p.stats.popUnderflows + 1 < wordLimit := by
  have books' := h.balanced hcap books
  cases h with
  | popRejected hot len stats =>
    rw [staysInWord_iff [.popUnderflows] (by simp) stats, len]
    simp [Stats.get]
  | popPrimary holds hot len stats | popFallback holds hot len stats =>
    have haccepted := books'.accepted
    have hserved := books'.served
    have hsame : p'.stats.pushesAccepted = p.stats.pushesAccepted := by rw [stats]; rfl
    constructor
    · intro _ e he
      cases he
    · intro _
      refine ⟨by omega, fun c hlt => ?_⟩
      cases c with
      | pushesAccepted | pushesRejectedFull | pushesRejectedFlow | popUnderflows =>
        rw [stats] at hlt
        exact absurd hlt (Nat.lt_irrefl _)
      | popsPrimary | popsFallback =>
        dsimp only [Stats.get]
        omega
      | served flow =>
        cases flow with
        | zero | one =>
          dsimp only [Stats.get, PerFlow.get]
          omega

/-! ## A drain pop by pop -/

variable [SubQueue Q₀ V] [SubQueue Q₁ V] [LE V] [DecidableLE V]

/-- A pop as a request: it is answered, and breaks off, as the pop is. -/
theorem run_handle_pop {es : List Event} {o : Except Fault (Answer V)}
    (h : pop.run p = ⟨p', es, o⟩) : (handle .pop).run p = ⟨p', es, o.map (·.map some)⟩ := by
  cases o <;> simp [handle, h, Except.map]

theorem transition_of_pop {es : List Event} {a : Answer V} (h : pop.run p = ⟨p', es, .ok a⟩) :
    Transition p .pop p' es (a.map some) :=
  transition_of_run (run_handle_pop h)

/-- A pop breaks off only where a counter would leave the machine word: the length is not lowered at
zero. -/
theorem eq_addOverflow_of_pop {es : List Event} {f : Fault} (h : pop.run p = ⟨p', es, .error f⟩) :
    f = .addOverflow := by
  obtain ⟨q, es', a, way⟩ := exists_transition p .pop
  rcases way.run_or_fault with ⟨-, hrun⟩ | ⟨-, hfault⟩
  · rw [run_handle_pop h] at hrun
    cases hrun
  · rw [run_handle_pop h] at hfault
    cases hfault
    rfl

/-- **A row of pops** from `p` to `q` that hand the values out, one after the other. -/
def HandsOut (p : Pifo V Q₀ Q₁) (values : List V) (q : Pifo V Q₀ Q₁) (es : List Event) : Prop :=
  (serve (.replicate values.length .pop)).run p =
    ⟨q, es, .ok (values.map fun v => .ok (some v))⟩

theorem handsOut_nil (p : Pifo V Q₀ Q₁) : HandsOut p [] p [] := rfl

theorem handsOut_cons {v : V} {values : List V} {es : List Event} :
    HandsOut p (v :: values) p' es ↔ ∃ q es₁ es₂, pop.run p = ⟨q, es₁, .ok (.ok v)⟩ ∧
      HandsOut q values p' es₂ ∧ es = es₁ ++ es₂ := by
  constructor
  · intro h
    obtain ⟨q, es₁, a, es₂, later, hr, hrest, rfl, hanswers⟩ := serve_cons.mp h
    cases hanswers
    -- The request was answered with the value, so the pop in it was.
    rcases hpop : pop.run p with ⟨q', es', f | e | w⟩ <;>
      rw [run_handle_pop hpop] at hr <;> cases hr
    exact ⟨q, es₁, es₂, rfl, hrest, rfl⟩
  · rintro ⟨q, es₁, es₂, hpop, hrest, rfl⟩
    exact serve_cons.mpr ⟨q, es₁, .ok (some v), es₂, _, run_handle_pop hpop, hrest, rfl, rfl⟩

/-- **Each value handed out is one less** in the books. -/
theorem HandsOut.lessBy {values : List V} {es : List Event} (h : HandsOut p values p' es) :
    LessBy values.length p p' := by
  induction values generalizing p es with
  | nil =>
    cases h
    exact .refl _
  | cons v values ih =>
    obtain ⟨q, es₁, es₂, hpop, hrest, -⟩ := handsOut_cons.mp h
    exact (transition_of_pop hpop).effect.lessBy.trans (ih hrest)

/-- **A drain pop by pop**: a row of pops that hand its values out, and then one that does not. If
that one is rejected, the drain returns, and if it breaks off, so does the drain. -/
theorem exists_handsOut (p : Pifo V Q₀ Q₁) :
    ∃ q es values, HandsOut p values q es ∧
      ((∃ p' es' e, pop.run q = ⟨p', es', .ok (.error e)⟩ ∧ drain p = ⟨p', es ++ es', .ok values⟩) ∨
        ∃ p' es', pop.run q = ⟨p', es', .error .addOverflow⟩ ∧
          drain p = ⟨p', es ++ es', .error .addOverflow⟩) := by
  induction p using drain.induct with
  | case1 p p₁ es₁ v hpop hlt ih =>
    obtain ⟨q, es, values, hout, hlast⟩ := ih
    refine ⟨q, es₁ ++ es, v :: values, handsOut_cons.mpr ⟨p₁, es₁, es, hpop, hout, rfl⟩, ?_⟩
    -- The first value does not change how the rest of the drain ends.
    rcases hlast with ⟨p', es', e, hend, hdrain⟩ | ⟨p', es', hend, hdrain⟩
    · refine .inl ⟨p', es', e, hend, ?_⟩
      rw [drain_of_value hpop, hdrain, List.append_assoc]
      rfl
    · refine .inr ⟨p', es', hend, ?_⟩
      rw [drain_of_value hpop, hdrain, List.append_assoc]
      rfl
  | case2 p p₁ es₁ e hpop =>
    exact ⟨p, [], [], handsOut_nil p, .inl ⟨p₁, es₁, e, hpop, drain_of_rejection hpop⟩⟩
  | case3 p p₁ es₁ f hpop =>
    cases eq_addOverflow_of_pop hpop
    exact ⟨p, [], [], handsOut_nil p, .inr ⟨p₁, es₁, hpop, drain_of_fault hpop⟩⟩

/-- A drain that returns has handed its values out, and its last pop is counted as rejected. -/
theorem exists_lessBy_of_drain {es : List Event} {values : List V}
    (h : drain p = ⟨p', es, .ok values⟩) :
    ∃ q, LessBy values.length p q ∧ p'.len = q.len ∧ p'.stats = q.stats.bump .popUnderflows := by
  obtain ⟨q, es₁, values₁, hout, hlast⟩ := exists_handsOut p
  rcases hlast with ⟨p₁, es', e, hend, hdrain⟩ | ⟨p₁, es', hend, hdrain⟩
  · cases hdrain.symm.trans h
    exact ⟨q, hout.lessBy, (transition_of_pop hend).effect.of_rejection⟩
  · cases hdrain.symm.trans h

/-! ## When a drain returns -/

/-- The counters of a scheduler are machine words, and stay that. -/
theorem get_stats_lt_of_serve (words : ∀ c, p.stats.get c < wordLimit) {requests : List (Request V)}
    {es : List Event} {answers : List (Response V)}
    (run : (serve requests).run p = ⟨p', es, .ok answers⟩) (c : Counter) :
    p'.stats.get c < wordLimit := by
  induction requests generalizing p es answers with
  | nil =>
    cases run
    exact words c
  | cons r rest ih =>
    obtain ⟨q, es₁, a, es₂, later, hr, hrest, -, -⟩ := serve_cons.mp run
    have hwords := (transition_of_run hr).run_iff.mp hr
    exact ih (fun d => hwords.get_lt (words d)) hrest

/-- **When a drain returns**, over any sub-queues: the pop at its end has to be counted. -/
theorem Balanced.exists_drain_iff (books : Balanced p) (word : p.stats.pushesAccepted < wordLimit) :
    (∃ p' es values, drain p = ⟨p', es, .ok values⟩) ↔ p.stats.popUnderflows + 1 < wordLimit := by
  obtain ⟨q, es, values, hout, hlast⟩ := exists_handsOut p
  have less := hout.lessBy
  -- The books still balance before the last pop, so that one alone decides.
  have hbooks : Balanced q := (books.serve hout).1
  have hword : q.stats.pushesAccepted < wordLimit := less.pushesAccepted ▸ word
  rw [← less.popUnderflows]
  rcases hlast with ⟨p', es', e, hend, hdrain⟩ | ⟨p', es', hend, hdrain⟩
  · have way := transition_of_pop hend
    have hwords := way.run_iff.mp (run_handle_pop hend)
    refine ⟨fun _ => ?_, fun _ => ⟨p', es ++ es', values, hdrain⟩⟩
    exact (way.effect.staysInWord_pop_iff way.fixed.1 hbooks hword).mp hwords e rfl
  · constructor
    · rintro ⟨p₁, es₁, values₁, hreturns⟩
      cases hdrain.symm.trans hreturns
    · intro hroom
      -- With room for the count the last pop would have taken its way.
      obtain ⟨q', es₁, a, way⟩ := exists_transition q .pop
      have hwords := (way.effect.staysInWord_pop_iff way.fixed.1 hbooks hword).mpr fun _ _ => hroom
      have hrun := way.run_iff.mpr hwords
      rw [run_handle_pop hend] at hrun
      cases hrun

/-- In particular it returns where there is headroom for one request. -/
theorem Balanced.exists_drain (books : Balanced p) (room : Headroom 1 p) :
    ∃ p' es values, drain p = ⟨p', es, .ok values⟩ := by
  have hword : p.stats.pushesAccepted < wordLimit := Nat.lt_of_succ_lt (room.stats .pushesAccepted)
  exact (books.exists_drain_iff hword).mpr (room.stats .popUnderflows)

/-- Requests use up one unit of headroom each. -/
theorem Headroom.serve {requests : List (Request V)} {n : Nat}
    (room : Headroom (n + requests.length) p) {es : List Event} {answers : List (Response V)}
    (run : (serve requests).run p = ⟨p', es, .ok answers⟩) : Headroom n p' := by
  induction requests generalizing p es answers with
  | nil =>
    cases run
    exact room
  | cons r rest ih =>
    obtain ⟨q, es₁, a, es₂, later, hr, hrest, -, -⟩ := serve_cons.mp run
    exact ih ((transition_of_run hr).headroom room) hrest

/-- **A scheduler that was built can be drained** after any requests, if a machine word counts them
and one more. -/
theorem exists_drain_of_build {c : Config V} {queue0 : Q₀} {queue1 : Q₁}
    (built : build c queue0 queue1 = .ok p) {requests : List (Request V)}
    (few : requests.length + 1 < wordLimit) :
    ∃ q es answers q' es' values, (serve requests).run p = ⟨q, es, .ok answers⟩ ∧
      answers.length = requests.length ∧ drain q = ⟨q', es', .ok values⟩ := by
  have room : Headroom (1 + requests.length) p := headroom_of_build built (by omega)
  obtain ⟨q, es, answers, hrun⟩ := exists_run_serve requests (room.mono (by omega))
  obtain ⟨books, -⟩ := (balanced_of_build built).serve hrun
  obtain ⟨q', es', values, hdrain⟩ := books.exists_drain (room.serve hrun)
  exact ⟨q, es, answers, q', es', values, hrun, length_of_serve hrun, hdrain⟩

/-- **A drain stops within the length.** Let a scheduler over any two sub-queues be in any state,
also in one where a request broke off. Its drain is a row of pops that hand values out, no more of
them than the length says, and one more pop: if that is rejected the drain returns the values, and
else it breaks off, because a counter has reached the end of the machine word. A drain that returns
has taken its values off the length and counted each of them as popped, and exactly one pop as
rejected.

If the scheduler was built and has answered all requests so far, then the drain returns exactly when
the rejected pop can be counted, as it can be if a machine word counts the requests and one more;
and the total of pops served is a machine word before and after it. -/
theorem drain_stops_within_len (p : Pifo V Q₀ Q₁) :
    (∃ q es values, HandsOut p values q es ∧ values.length ≤ p.len ∧
      ((∃ p' es' e, pop.run q = ⟨p', es', .ok (.error e)⟩ ∧ drain p = ⟨p', es ++ es', .ok values⟩) ∨
        ∃ p' es', pop.run q = ⟨p', es', .error .addOverflow⟩ ∧
          drain p = ⟨p', es ++ es', .error .addOverflow⟩)) ∧
    (∀ p' es values, drain p = ⟨p', es, .ok values⟩ →
      values.length ≤ p.len ∧ p'.len = p.len - values.length ∧
      p'.stats.totalPopped = p.stats.totalPopped + values.length ∧
      p'.stats.popUnderflows = p.stats.popUnderflows + 1) ∧
    ∀ (c : Config V) (queue0 : Q₀) (queue1 : Q₁) (p₀ : Pifo V Q₀ Q₁) (past : List (Request V))
      (es₀ : List Event) (answers₀ : List (Response V)),
      build c queue0 queue1 = .ok p₀ → (serve past).run p₀ = ⟨p, es₀, .ok answers₀⟩ →
      ((∃ p' es values, drain p = ⟨p', es, .ok values⟩) ↔ p.stats.popUnderflows + 1 < wordLimit) ∧
      (past.length + 1 < wordLimit → p.stats.popUnderflows + 1 < wordLimit) ∧
      p.stats.totalPopped + p.len < wordLimit := by
  refine ⟨?_, ?_, ?_⟩
  · obtain ⟨q, es, values, hout, hlast⟩ := exists_handsOut p
    have hlen := hout.lessBy.len
    exact ⟨q, es, values, hout, by omega, hlast⟩
  · intro p' es values hdrain
    obtain ⟨q, less, hlen, hstats⟩ := exists_lessBy_of_drain hdrain
    have hless := less.len
    rw [hlen, hstats]
    exact ⟨by omega, by omega, less.totalPopped, congrArg (· + 1) less.popUnderflows⟩
  · intro c queue0 queue1 p₀ past es₀ answers₀ built reached
    -- Requests that were answered left the books balanced; one that broke off need not have.
    obtain ⟨books, -⟩ := (balanced_of_build built).serve reached
    have room : Headroom 0 p₀ := headroom_of_build built (by decide)
    have hword := get_stats_lt_of_serve room.stats reached .pushesAccepted
    refine ⟨books.exists_drain_iff hword, fun few => ?_, ?_⟩
    · have hroom : Headroom (1 + past.length) p₀ := headroom_of_build built (by omega)
      exact (hroom.serve reached).stats .popUnderflows
    · exact books.accepted ▸ hword

/-- Over a flow zero whose pop never removes a value and a flow one whose pop always fails, with
three values counted: flow zero would hand its first value out for ever, once in its own turn and
then in place of flow one. The length stops it after three times, and flow zero still holds what it
held. -/
theorem drain_stops_within_len_stuck :
    ∃ (p₀ p : Pifo Nat (FaultyQueue Nat) (FaultyQueue Nat)) (es₀ : List Event)
      (answers₀ : List (Response Nat)),
      build ⟨2, 10⟩ { capacity := 2, limit := 2, popMode := .stick }
          { capacity := 2, limit := 2, popMode := .fail } = .ok p₀ ∧
        (serve [.pop, .push 1, .push 2, .push 11]).run p₀ = ⟨p, es₀, .ok answers₀⟩ ∧ p.len = 3 ∧
        ∃ p' es, drain p = ⟨p', es, .ok [1, 1, 1]⟩ ∧ p'.len = 0 ∧ p'.flowLen .zero = 2 ∧
          p'.stats.totalPopped = 3 ∧ p'.stats.popUnderflows = 2 := by
  obtain ⟨p₀, built⟩ : ∃ p₀ : Pifo Nat (FaultyQueue Nat) (FaultyQueue Nat),
      build ⟨2, 10⟩ { capacity := 2, limit := 2, popMode := .stick }
        { capacity := 2, limit := 2, popMode := .fail } = .ok p₀ := ⟨_, rfl⟩
  obtain ⟨p, es₀, answers₀, reached⟩ : ∃ p es₀ answers₀,
      (serve [.pop, .push 1, .push 2, .push 11]).run p₀ = ⟨p, es₀, .ok answers₀⟩ := by
    cases built
    exact ⟨_, _, _, rfl⟩
  obtain ⟨-, hcounts, hreturns⟩ := drain_stops_within_len p
  obtain ⟨hiff, hroom, -⟩ := hreturns _ _ _ p₀ _ es₀ answers₀ built reached
  obtain ⟨p', es, values, hdrain⟩ := hiff.mpr (hroom (by decide))
  obtain ⟨-, hlen, hpopped, hunderflows⟩ := hcounts p' es values hdrain
  refine ⟨p₀, p, es₀, answers₀, built, reached, ?_⟩
  cases built
  cases reached
  -- The values are found by running the four pops.
  have hpops := hdrain
  rw [drain_of_value (v := 1) rfl, drain_of_value (v := 1) rfl, drain_of_value (v := 1) rfl,
    drain_of_rejection rfl] at hpops
  cases hpops
  exact ⟨rfl, _, _, hdrain, hlen, rfl, hpopped, hunderflows⟩

end TwoFlow.Pifo
