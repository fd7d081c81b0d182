import TwoFlow.Proofs.Accounts
import TwoFlow.Proofs.Replay

/-!
# Three sets of counters agree

The same requests are counted three times. The scheduler counts by the branch that a request takes,
from its building on; it tells two kinds of refused pushes apart and does not count peeks. The
history counts by result, over all it has recorded. A replay counts by command and result, each
replay for itself, and a result that does not belong to its command it does not count at all.

None of the three reads the others. Each is compared here with one thing, the list of exchanges: the
requests with the responses that the scheduler gave. It has a law for each set of counters, proved
for one exchange and put together along the list, and the agreement is read off the three laws. That
no result is left uncounted comes from the scheduler: over the stock queues every response fits its
request.

## Main definitions

* `Fits`: a response that belongs to its request
* `shown`, `given`, `successCount`, `overflowCount`, `underflowCount`, `emptyPeekCount`: what is
  counted of exchanges
* `Stats.Gains`, `HistoryStats.Gains`, `Tally.Gains`: what the three sets of counters gain by
  exchanges
* `Session.Transcribes`: a session whose scheduler has gone through the exchanges, and whose history
  has them
* `Session.total`: the sum of what some replays report
* `CountersAgree`: the agreement

## Main results

* `Pifo.Sound.fits`: the responses of a sound scheduler fit
* `Pifo.Sound.gains`, `History.Transcribes.gains`, `Session.Transcribes.exists_of_performAll`: the
  three sets of counters follow the exchanges
* `Session.replays_reconcile`: the counters agree after any replays
-/

namespace TwoFlow

/-! ## Exchanges -/

section Exchanges

variable {V : Type}

/-- **A response that fits its request.** -/
inductive Fits : Request V → Response V → Prop
  | accepted (v : V) : Fits (.push v) (.ok none)
  | refused (v : V) (len capacity : Nat) : Fits (.push v) (.error (.overflow len capacity))
  | popped (v : V) : Fits .pop (.ok (some v))
  | popEmpty : Fits .pop (.error .underflow)
  | shown (v : V) : Fits .peek (.ok (some v))
  | peekEmpty : Fits .peek (.error .underflow)

/-- The response of a turn fits. -/
theorem Backlog.fits_turn [LE V] [DecidableLE V] (c : Config V) (s : Backlog V) (r : Request V) :
    Fits r (s.turn c r).response := by
  fun_cases Backlog.turn c s r with
  | case1 v => exact .refused v _ _
  | case2 v => exact .refused v _ _
  | case3 v => exact .accepted v
  | case4 v => exact .popped v
  | case5 v => exact .popped v
  | case6 => exact .popEmpty
  | case7 =>
    cases s.flows.get s.hot ++ s.flows.get s.hot.other with
    | nil => exact .peekEmpty
    | cons v rest => exact .shown v

/-- The values that peeks were answered with, in order. -/
def shown : List (Request V × Response V) → List V :=
  List.filterMap fun
    | (.peek, .ok (some v)) => some v
    | _ => none

/-- The values that pops and peeks were answered with, in order. -/
def given : List (Request V × Response V) → List V :=
  List.filterMap fun
    | (.pop, .ok (some v)) => some v
    | (.peek, .ok (some v)) => some v
    | _ => none

/-- How many requests succeeded. -/
def successCount : List (Request V × Response V) → Nat :=
  List.countP fun
    | (_, .ok _) => true
    | _ => false

/-- How many requests were rejected by a full queue. -/
def overflowCount : List (Request V × Response V) → Nat :=
  List.countP fun
    | (_, .error (.overflow _ _)) => true
    | _ => false

/-- How many requests were rejected by an empty queue. -/
def underflowCount : List (Request V × Response V) → Nat :=
  List.countP fun
    | (_, .error .underflow) => true
    | _ => false

/-- How many peeks were rejected by an empty queue. -/
def emptyPeekCount : List (Request V × Response V) → Nat :=
  List.countP fun
    | (.peek, .error .underflow) => true
    | _ => false

section Append

variable (trace later : List (Request V × Response V))

theorem shown_append : shown (trace ++ later) = shown trace ++ shown later := List.filterMap_append

theorem given_append : given (trace ++ later) = given trace ++ given later := List.filterMap_append

theorem successCount_append :
    successCount (trace ++ later) = successCount trace + successCount later :=
  List.countP_append

theorem overflowCount_append :
    overflowCount (trace ++ later) = overflowCount trace + overflowCount later :=
  List.countP_append

theorem underflowCount_append :
    underflowCount (trace ++ later) = underflowCount trace + underflowCount later :=
  List.countP_append

theorem emptyPeekCount_append :
    emptyPeekCount (trace ++ later) = emptyPeekCount trace + emptyPeekCount later :=
  List.countP_append

end Append

/-- Every request succeeded or was rejected in one of two ways. -/
theorem length_eq_successCount_add (trace : List (Request V × Response V)) :
    trace.length = successCount trace + overflowCount trace + underflowCount trace := by
  induction trace with
  | nil => rfl
  | cons x rest ih =>
    have hx : 1 = successCount [x] + overflowCount [x] + underflowCount [x] := by
      rcases x with ⟨r, (_ | _) | _⟩ <;> rfl
    rw [← List.singleton_append, List.length_append, successCount_append, overflowCount_append,
      underflowCount_append, ih, List.length_singleton]
    omega

/-- The values given are those popped and those shown. -/
theorem length_given (trace : List (Request V × Response V)) :
    (given trace).length = (popped trace).length + (shown trace).length := by
  induction trace with
  | nil => rfl
  | cons x rest ih =>
    have hx : (given [x]).length = (popped [x]).length + (shown [x]).length := by
      rcases x with ⟨_ | _ | _, _ | _ | _⟩ <;> rfl
    rw [← List.singleton_append, given_append, popped_append, shown_append, List.length_append,
      List.length_append, List.length_append, ih]
    omega

/-- **Where responses fit**, the successes are the accepted pushes and the pops and peeks that gave
a value. -/
theorem successCount_eq {trace : List (Request V × Response V)} (fits : ∀ x ∈ trace, Fits x.1 x.2) :
    successCount trace =
      (accepted trace).length + (popped trace).length + (shown trace).length := by
  induction trace with
  | nil => rfl
  | cons x rest ih =>
    have hrest := ih fun y hy => fits y (List.mem_cons_of_mem _ hy)
    have hx : successCount [x] =
        (accepted [x]).length + (popped [x]).length + (shown [x]).length := by
      obtain ⟨r, a⟩ := x
      cases fits (r, a) List.mem_cons_self <;> rfl
    rw [← List.singleton_append, successCount_append, accepted_append, popped_append, shown_append,
      List.length_append, List.length_append, List.length_append, hx, hrest]
    omega

/-! ## The counters of the scheduler -/

/-- **What the counters of a scheduler gain by some exchanges.** -/
structure Stats.Gains (s s' : Stats) (trace : List (Request V × Response V)) : Prop where
  pushes : s'.pushesAccepted = s.pushesAccepted + (accepted trace).length
  pops : s'.totalPopped = s.totalPopped + (popped trace).length
  rejections : s'.pushesRejectedFull + s'.pushesRejectedFlow =
    s.pushesRejectedFull + s.pushesRejectedFlow + overflowCount trace
  failures : s'.popUnderflows + emptyPeekCount trace = s.popUnderflows + underflowCount trace

theorem Stats.Gains.trans {s s₁ s₂ : Stats} {trace later : List (Request V × Response V)}
    (h : Gains s s₁ trace) (h' : Gains s₁ s₂ later) : Gains s s₂ (trace ++ later) where
  pushes := by
    rw [accepted_append, List.length_append, h'.pushes, h.pushes, Nat.add_assoc]
  pops := by
    rw [popped_append, List.length_append, h'.pops, h.pops, Nat.add_assoc]
  rejections := by
    rw [overflowCount_append, h'.rejections, h.rejections, Nat.add_assoc]
  failures := by
    have hfirst := h.failures
    have hsecond := h'.failures
    rw [emptyPeekCount_append, underflowCount_append]
    omega

namespace Pifo

/-- What a request writes into the books is what its exchange says, if the response fits. -/
theorem Effect.gains {Q₀ Q₁ : Type} {p p' : Pifo V Q₀ Q₁} {r : Request V} {a : Response V}
    {served : List Flow} (h : Effect p p' r a served) (fits : Fits r a) :
    p.stats.Gains p'.stats [(r, a)] := by
  cases h with
  | pushRejected raised hot len stats =>
    cases fits
    rw [stats]
    -- Two counters of the scheduler share the pushes that were refused.
    rcases raised with rfl | rfl
    · exact ⟨rfl, rfl, Nat.add_right_comm _ _ _, rfl⟩
    · exact ⟨rfl, rfl, rfl, rfl⟩
  | pushAccepted room hot len stats =>
    rw [stats]
    exact ⟨rfl, rfl, rfl, rfl⟩
  | popRejected hot len stats =>
    cases fits
    rw [stats]
    exact ⟨rfl, rfl, rfl, rfl⟩
  | popPrimary holds hot len stats =>
    rw [stats]
    exact ⟨rfl, Nat.add_right_comm _ _ _, rfl, rfl⟩
  | popFallback holds hot len stats =>
    rw [stats]
    exact ⟨rfl, rfl, rfl, rfl⟩
  | peek hot len stats =>
    rw [stats]
    cases fits with
    | shown v => exact ⟨rfl, rfl, rfl, rfl⟩
    | peekEmpty => exact ⟨rfl, rfl, rfl, rfl⟩

variable [LE V] [DecidableLE V]

variable {Q₀ Q₁ : Type} [SubQueue Q₀ V] [SubQueue Q₁ V] [SubQueue.Lawful Q₀] [SubQueue.Lawful Q₁]
  {c : Config V} {p p' : Pifo V Q₀ Q₁}

/-- **The responses of a sound scheduler fit.** -/
theorem Sound.fits (h : Sound c p) {r : Request V} {es : List Event} {a : Response V}
    (way : Transition p r p' es a) : Fits r a := by
  rw [(h.takes way).response]
  exact Backlog.fits_turn c p.backlog r

/-- **The counters of a scheduler** gain what its exchanges say. -/
theorem Sound.gains (h : Sound c p) {requests : List (Request V)} {es : List Event}
    {answers : List (Response V)} (run : (Pifo.serve requests).run p = ⟨p', es, .ok answers⟩) :
    p.stats.Gains p'.stats (requests.zip answers) := by
  induction requests generalizing p es answers with
  | nil =>
    cases run
    exact ⟨rfl, rfl, rfl, rfl⟩
  | cons r rest ih =>
    obtain ⟨q, es₁, a, es₂, later, hr, hrest, -, rfl⟩ := serve_cons.mp run
    have way := transition_of_run hr
    exact (way.effect.gains (h.fits way)).trans (ih (h.transition way) hrest)

end Pifo

end Exchanges

/-! ## The counters of the history -/

/-- **What the counters of a history gain by some exchanges.** -/
structure HistoryStats.Gains (s s' : HistoryStats) (trace : List (Request Value × Response Value)) :
    Prop where
  successful : s'.successfulOps = s.successfulOps + successCount trace
  rejections : s'.overflows = s.overflows + overflowCount trace
  failures : s'.underflows = s.underflows + underflowCount trace
  pending : s'.pendingOps = s.pendingOps

theorem HistoryStats.Gains.trans {s s₁ s₂ : HistoryStats}
    {trace later : List (Request Value × Response Value)} (h : Gains s s₁ trace)
    (h' : Gains s₁ s₂ later) : Gains s s₂ (trace ++ later) where
  successful := by rw [successCount_append, h'.successful, h.successful, Nat.add_assoc]
  rejections := by rw [overflowCount_append, h'.rejections, h.rejections, Nat.add_assoc]
  failures := by rw [underflowCount_append, h'.failures, h.failures, Nat.add_assoc]
  pending := h'.pending.trans h.pending

/-- An operation is counted by its result. -/
theorem HistoryStats.gains_countOperation (s : HistoryStats) {op : Operation} {r : Request Value}
    {a : Response Value} (result : op.result? = some (.ofResponse a)) :
    s.Gains (s.countOperation op) [(r, a)] := by
  unfold countOperation
  rw [result]
  -- The command is counted apart from the result.
  rcases a with (⟨len, capacity⟩ | _) | _ | v <;> cases op.command <;> exact ⟨rfl, rfl, rfl, rfl⟩

/-- Operations are counted one after the other. -/
theorem HistoryStats.gains_foldl (s : HistoryStats) {ops : List Operation}
    {trace : List (Request Value × Response Value)}
    (h : ops.map (fun op => (op.request, op.result?)) =
      trace.map fun x => (x.1, some (.ofResponse x.2))) :
    s.Gains (ops.foldl countOperation s) trace := by
  induction ops generalizing s trace with
  | nil =>
    rw [List.map_eq_nil_iff.mp h.symm]
    exact ⟨rfl, rfl, rfl, rfl⟩
  | cons op later ih =>
    obtain ⟨x, rest, rfl, hx, hrest⟩ := List.map_eq_cons_iff.mp h.symm
    have hresult : op.result? = some (.ofResponse x.2) := (congrArg Prod.snd hx).symm
    exact (s.gains_countOperation (r := x.1) hresult).trans (ih _ hrest.symm)

namespace History

/-- **A history that has the exchanges**: its operations are the requests, in order, each with the
result of its response. -/
def Transcribes (h : History) (trace : List (Request Value × Response Value)) : Prop :=
  h.operations.map (fun op => (op.request, op.result?)) =
    trace.map fun x => (x.1, some (.ofResponse x.2))

variable {h : History} {trace : List (Request Value × Response Value)}

theorem transcribes_empty : empty.Transcribes [] := rfl

/-- One more exchange is recorded. -/
theorem Transcribes.snoc (transcribes : h.Transcribes trace) (id : Nat) (r : Request Value)
    (a : Response Value) (observed : Observation) :
    Transcribes ⟨⟨id, r, some ⟨.ofResponse a, observed⟩⟩ :: h.newestFirst⟩ (trace ++ [(r, a)]) := by
  unfold Transcribes
  rw [operations_cons, List.map_append, List.map_append]
  exact congrArg (· ++ [(r, some (Result.ofResponse a))]) transcribes

/-- **The counters of a history** are those of its exchanges. -/
theorem Transcribes.gains (transcribes : h.Transcribes trace) :
    HistoryStats.Gains {} h.stats trace :=
  HistoryStats.gains_foldl {} transcribes

/-- **The answers of a history** are the values given in its exchanges. -/
theorem Transcribes.answers_eq (transcribes : h.Transcribes trace)
    (fits : ∀ x ∈ trace, Fits x.1 x.2) : h.answers = given trace := by
  have hmap : h.answers = (h.operations.map fun op => (op.request, op.result?)).filterMap
      fun x => x.2.bind Result.value? := by
    rw [List.filterMap_map]
    rfl
  rw [hmap, transcribes, List.filterMap_map]
  -- The result alone says whether a value was given: a push that fits is never answered with one.
  clear hmap transcribes
  induction trace with
  | nil => rfl
  | cons x rest ih =>
    have hrest := ih fun y hy => fits y (List.mem_cons_of_mem _ hy)
    have hx : [x].filterMap ((fun y => y.2.bind Result.value?) ∘
        fun y => (y.1, some (Result.ofResponse y.2))) = given [x] := by
      obtain ⟨r, a⟩ := x
      cases fits (r, a) List.mem_cons_self <;> rfl
    rw [← List.singleton_append, List.filterMap_append, given_append, hx, hrest]

end History

/-! ## The counters of a replay -/

namespace Tally

/-- **What the counters of a replay gain by some exchanges.** -/
structure Gains (t t' : Tally) (trace : List (Request Value × Response Value)) : Prop where
  operations : t'.operationsTotal = t.operationsTotal + trace.length
  pushes : t'.pushesOk = t.pushesOk + (accepted trace).length
  pops : t'.popsOk = t.popsOk + (popped trace).length
  peeks : t'.peeksOk = t.peeksOk + (shown trace).length
  rejections : t'.overflows = t.overflows + overflowCount trace
  failures : t'.underflows = t.underflows + underflowCount trace

theorem Gains.trans {t t₁ t₂ : Tally} {trace later : List (Request Value × Response Value)}
    (h : Gains t t₁ trace) (h' : Gains t₁ t₂ later) : Gains t t₂ (trace ++ later) where
  operations := by rw [List.length_append, h'.operations, h.operations, Nat.add_assoc]
  pushes := by rw [accepted_append, List.length_append, h'.pushes, h.pushes, Nat.add_assoc]
  pops := by rw [popped_append, List.length_append, h'.pops, h.pops, Nat.add_assoc]
  peeks := by rw [shown_append, List.length_append, h'.peeks, h.peeks, Nat.add_assoc]
  rejections := by rw [overflowCount_append, h'.rejections, h.rejections, Nat.add_assoc]
  failures := by rw [underflowCount_append, h'.failures, h.failures, Nat.add_assoc]

/-- A response that fits its request is counted. -/
theorem exists_gains (t : Tally) {r : Request Value} {a : Response Value} (fits : Fits r a) :
    ∃ t', ({ t with operationsTotal := t.operationsTotal + 1 } : Tally).count? r.command
        (.ofResponse a) = some t' ∧ t.Gains t' [(r, a)] := by
  cases fits <;> exact ⟨_, rfl, rfl, rfl, rfl, rfl, rfl, rfl⟩

/-- The sum of two tallies. -/
def add (t u : Tally) : Tally where
  operationsTotal := t.operationsTotal + u.operationsTotal
  pushesOk := t.pushesOk + u.pushesOk
  popsOk := t.popsOk + u.popsOk
  peeksOk := t.peeksOk + u.peeksOk
  overflows := t.overflows + u.overflows
  underflows := t.underflows + u.underflows

/-- What is counted from zero is added to what was counted before. -/
theorem Gains.add {t u : Tally} {trace : List (Request Value × Response Value)}
    (h : Gains {} u trace) : Gains t (t.add u) trace where
  operations := congrArg (t.operationsTotal + ·) (h.operations.trans (Nat.zero_add _))
  pushes := congrArg (t.pushesOk + ·) (h.pushes.trans (Nat.zero_add _))
  pops := congrArg (t.popsOk + ·) (h.pops.trans (Nat.zero_add _))
  peeks := congrArg (t.peeksOk + ·) (h.peeks.trans (Nat.zero_add _))
  rejections := congrArg (t.overflows + ·) (h.rejections.trans (Nat.zero_add _))
  failures := congrArg (t.underflows + ·) (h.failures.trans (Nat.zero_add _))

section Fresh

variable {t : Tally} {trace : List (Request Value × Response Value)}

theorem Gains.operationsOk_eq (h : Gains {} t trace) (fits : ∀ x ∈ trace, Fits x.1 x.2) :
    t.operationsOk = successCount trace := by
  rw [operationsOk, h.pushes, h.pops, h.peeks, successCount_eq fits]
  show 0 + _ + (0 + _) + (0 + _) = _
  omega

/-- Every request is counted once. -/
theorem Gains.operationsTotal_eq (h : Gains {} t trace) (fits : ∀ x ∈ trace, Fits x.1 x.2) :
    t.operationsTotal = t.operationsOk + t.overflows + t.underflows := by
  rw [h.operations, h.operationsOk_eq fits, h.rejections, h.failures, length_eq_successCount_add]
  show 0 + _ = _ + (0 + _) + (0 + _)
  omega

end Fresh

end Tally

/-! ## Sessions -/

/-- What the scheduler showed after it had answered. -/
theorem Pifo.run_of_executeObserved {p p' : Pifo Value (Fifo Value) (Fifo Value)}
    {r : Request Value} {es : List Event} {a : Response Value} {observed : Observation}
    (executed : (Target.executeObserved r).run p = ⟨p', es, .ok (a, observed)⟩) :
    (handle r).run p = ⟨p', es, .ok a⟩ := by
  obtain ⟨q, es₁, b, es₂, hr, hobserved, rfl⟩ := Action.exists_of_run_bind executed
  simp only [Action.run_bind, Action.run_get, Step.andThen_ok, Action.run_pure,
    List.append_nil] at hobserved
  cases hobserved
  rw [hr, List.append_nil]

namespace Session

variable {c : Config Value} {p₀ : Pifo Value (Fifo Value) (Fifo Value)}
  {s s' : Session (Pifo Value (Fifo Value) (Fifo Value))}

/-- **A session that has gone through the exchanges**: its scheduler has come by them from the one
it began with, and its history has them. -/
structure Transcribes (p₀ : Pifo Value (Fifo Value) (Fifo Value))
    (s : Session (Pifo Value (Fifo Value) (Fifo Value)))
    (trace : List (Request Value × Response Value)) : Prop where
  served : ∃ es, (Pifo.serve (trace.map Prod.fst)).run p₀ = ⟨s.target, es, .ok (trace.map Prod.snd)⟩
  recorded : s.workload.history.Transcribes trace

/-- **What some requests of a session come to**: after the exchanges before them, they were answered
and recorded as the new ones, and counted by a tally. No result was left out of it. -/
structure Exchanged (p₀ : Pifo Value (Fifo Value) (Fifo Value))
    (before new : List (Request Value × Response Value)) (t t' : Tally) (es : List WorkloadEvent)
    (s' : Session (Pifo Value (Fifo Value) (Fifo Value))) : Prop where
  session : s'.Transcribes p₀ (before ++ new)
  fits : ∀ x ∈ new, Fits x.1 x.2
  tally : t.Gains t' new
  expected : ∀ id command result, .unexpectedResult id command result ∉ es

variable {before new later : List (Request Value × Response Value)} {t t₁ t₂ : Tally}
  {es es₁ es₂ : List WorkloadEvent}

theorem Transcribes.exchanged_nil (h : s.Transcribes p₀ before) :
    s.Exchanged p₀ before [] t t [] where
  session := by rwa [List.append_nil]
  fits := nofun
  tally := ⟨rfl, rfl, rfl, rfl, rfl, rfl⟩
  expected := by
    intro id command result
    exact List.not_mem_nil

theorem Exchanged.trans (h : s.Exchanged p₀ before new t t₁ es₁)
    (h' : s'.Exchanged p₀ (before ++ new) later t₁ t₂ es₂) :
    s'.Exchanged p₀ before (new ++ later) t t₂ (es₁ ++ es₂) where
  session := by
    rw [← List.append_assoc]
    exact h'.session
  fits := by
    intro x hx
    rcases List.mem_append.mp hx with hx | hx
    · exact h.fits x hx
    · exact h'.fits x hx
  tally := h.tally.trans h'.tally
  expected := by
    intro id command result hmem
    rcases List.mem_append.mp hmem with hmem | hmem
    · exact h.expected id command result hmem
    · exact h'.expected id command result hmem

/-- **One request** is one exchange. -/
theorem Transcribes.exists_of_replayOne (sound : p₀.Sound c) (h : s.Transcribes p₀ before)
    {r : Request Value} (returned : (replayOne t r).run s = ⟨s', es, .ok t₁⟩) :
    ∃ a, s'.Exchanged p₀ before [(r, a)] t t₁ es := by
  obtain ⟨p, es₁, a, observed, hexecuted, rfl, hcounted⟩ := Session.exists_of_replayOne returned
  have hr := Pifo.run_of_executeObserved hexecuted
  obtain ⟨es₀, hserved⟩ := h.served
  have hfits : Fits r a := ((sound.serve hserved).1).fits (Pifo.transition_of_run hr)
  obtain ⟨t', hcount, hgains⟩ := t.exists_gains hfits
  rcases hcounted with ⟨hcounted, rfl⟩ | huncounted
  · rw [hcount] at hcounted
    cases hcounted
    refine ⟨a, ⟨⟨es₀ ++ es₁, ?_⟩, h.recorded.snoc _ r a observed⟩, ?_, hgains, ?_⟩
    · rw [List.map_append, List.map_append]
      refine Pifo.serve_append.mpr ⟨_, es₀, _, es₁, [a], hserved, ?_, rfl, rfl⟩
      exact Pifo.serve_cons.mpr ⟨_, es₁, a, [], [], hr, rfl, (List.append_nil es₁).symm, rfl⟩
    · intro x hx
      cases List.mem_singleton.mp hx
      exact hfits
    · intro id command result hmem
      obtain ⟨e, -, he⟩ := List.mem_map.mp hmem
      cases he
  · rw [hcount] at huncounted
    cases huncounted

/-- **Requests one after the other** are exchanges one after the other. -/
theorem Transcribes.exists_of_replayAll (sound : p₀.Sound c) (h : s.Transcribes p₀ before)
    {requests : List (Request Value)}
    (returned : (replayAll t requests).run s = ⟨s', es, .ok t₁⟩) :
    ∃ new, new.map Prod.fst = requests ∧ s'.Exchanged p₀ before new t t₁ es := by
  induction requests generalizing s before t es with
  | nil =>
    cases returned
    exact ⟨[], rfl, h.exchanged_nil⟩
  | cons r rest ih =>
    obtain ⟨q, es₁, u, es₂, hone, hrest, rfl⟩ := Action.exists_of_run_bind returned
    obtain ⟨a, hfirst⟩ := h.exists_of_replayOne sound hone
    obtain ⟨new, rfl, hnew⟩ := ih hfirst.session hrest
    exact ⟨(r, a) :: new, rfl, hfirst.trans hnew⟩

/-- **A replay** counts its own exchanges, and reports the answers of the whole history. -/
theorem Transcribes.exists_of_replay (sound : p₀.Sound c) (h : s.Transcribes p₀ before)
    {requests : List (Request Value)} {summary : Summary}
    (returned : (replay requests).run s = ⟨s', es, .ok summary⟩) :
    ∃ new, new.map Prod.fst = requests ∧ s'.Exchanged p₀ before new {} summary.tally es ∧
      summary.answers = s'.workload.history.answers := by
  obtain ⟨es₁, hall, hanswers, rfl⟩ := Session.exists_of_replay returned
  obtain ⟨new, hrequests, hnew⟩ := h.exists_of_replayAll sound hall
  refine ⟨new, hrequests, { hnew with expected := ?_ }, hanswers⟩
  intro id command result hmem
  rcases List.mem_append.mp hmem with hmem | hmem
  · exact hnew.expected id command result hmem
  · cases List.mem_singleton.mp hmem

/-- The sum of what some replays report. -/
def total : List Summary → Tally
  | [] => {}
  | x :: rest => x.tally.add (total rest)

/-- **Replays one after the other**: their sum counts the exchanges of them all, each counts its own
requests, and the last one reports the answers of the whole history. -/
theorem Transcribes.exists_of_performAll (sound : p₀.Sound c) (h : s.Transcribes p₀ before)
    {calls : List (List (Request Value))} {summaries : List Summary}
    (returned : (performAll (calls.map .replay)).run s = ⟨s', es, .ok summaries⟩) :
    ∃ new, new.map Prod.fst = calls.flatten ∧ s'.Exchanged p₀ before new {} (total summaries) es ∧
      summaries.map (·.tally.operationsTotal) = calls.map List.length ∧
      (∀ x ∈ summaries, x.tally.operationsTotal =
        x.tally.operationsOk + x.tally.overflows + x.tally.underflows) ∧
      ∀ x, summaries.getLast? = some x → x.answers = s'.workload.history.answers := by
  induction calls generalizing s before es summaries with
  | nil =>
    cases returned
    exact ⟨[], rfl, h.exchanged_nil, rfl, nofun, nofun⟩
  | cons call rest ih =>
    obtain ⟨s₁, es₁, x, es₂, hcall, hreturned, rfl⟩ := Action.exists_of_run_bind returned
    obtain ⟨s₂, es₃, later, es₄, hlater, hpure, rfl⟩ := Action.exists_of_run_bind hreturned
    cases hpure
    obtain ⟨new₁, hrequests, hnew₁, hanswers⟩ := h.exists_of_replay sound hcall
    obtain ⟨new₂, hflatten, hnew₂, hlengths, hcounted, hlast⟩ := ih hnew₁.session hlater
    have hsum : s'.Exchanged p₀ (before ++ new₁) new₂ x.tally (total (x :: later)) (es₃ ++ []) := by
      rw [List.append_nil]
      exact { hnew₂ with tally := hnew₂.tally.add }
    refine ⟨new₁ ++ new₂, ?_, hnew₁.trans hsum, ?_, ?_, ?_⟩
    · rw [List.map_append, hrequests, hflatten, List.flatten_cons]
    · rw [List.map_cons, List.map_cons, hlengths, hnew₁.tally.operations, ← hrequests,
        List.length_map]
      exact congrArg (· :: _) (Nat.zero_add _)
    · intro y hy
      rcases List.mem_cons.mp hy with rfl | hy
      · exact hnew₁.tally.operationsTotal_eq hnew₁.fits
      · exact hcounted y hy
    · intro y hy
      cases later with
      | nil =>
        -- The last replay: nothing was recorded after it.
        cases hy
        cases rest with
        | nil =>
          cases hlater
          exact hanswers
        | cons call' rest' => cases hlengths
      | cons x' later' =>
        rw [List.getLast?_cons_cons] at hy
        exact hlast y hy

end Session

/-! ## Agreement -/

/-- **The counters agree**: those that replays have reported in all, those of the scheduler and
those of the history of a session, after the exchanges. -/
structure CountersAgree (t : Tally) (s : Session (Pifo Value (Fifo Value) (Fifo Value)))
    (trace : List (Request Value × Response Value)) : Prop where
  pushes : t.pushesOk = s.target.stats.pushesAccepted
  pops : t.popsOk = s.target.stats.totalPopped
  overflows : t.overflows =
    s.target.stats.pushesRejectedFull + s.target.stats.pushesRejectedFlow
  overflowsRecorded : t.overflows = s.workload.history.stats.overflows
  /-- A peek at an empty queue is counted here and not by the scheduler. -/
  underflows : t.underflows = s.target.stats.popUnderflows + emptyPeekCount trace
  underflowsRecorded : t.underflows = s.workload.history.stats.underflows
  successes : t.operationsOk = s.workload.history.stats.successfulOps
  pending : s.workload.history.stats.pendingOps = 0
  len : t.pushesOk = t.popsOk + s.target.len

namespace Session

/-- What has been exchanged since the beginning is what all the counters count. -/
theorem Exchanged.countersAgree {c : Config Value} {p₀ : Pifo Value (Fifo Value) (Fifo Value)}
    (built : Pifo.withFifos c = .ok p₀) {trace : List (Request Value × Response Value)} {t : Tally}
    {es : List WorkloadEvent} {s : Session (Pifo Value (Fifo Value) (Fifo Value))}
    (h : s.Exchanged p₀ [] trace {} t es) : CountersAgree t s trace := by
  obtain ⟨hsound, -, hstats⟩ := Pifo.sound_of_build built
  obtain ⟨es₀, hserved⟩ := h.session.served
  have hscheduler : Stats.Gains {} s.target.stats trace := by
    rw [← hstats]
    have hgains := hsound.gains hserved
    rwa [← List.zip_of_prod rfl rfl] at hgains
  have hhistory : HistoryStats.Gains {} s.workload.history.stats trace := h.session.recorded.gains
  have htally := h.tally
  have hpushes : t.pushesOk = s.target.stats.pushesAccepted :=
    htally.pushes.trans hscheduler.pushes.symm
  have hpops : t.popsOk = s.target.stats.totalPopped := htally.pops.trans hscheduler.pops.symm
  exact
    { pushes := hpushes
      pops := hpops
      overflows := htally.rejections.trans hscheduler.rejections.symm
      overflowsRecorded := htally.rejections.trans hhistory.rejections.symm
      underflows := htally.failures.trans hscheduler.failures.symm
      underflowsRecorded := htally.failures.trans hhistory.failures.symm
      successes := by
        rw [htally.operationsOk_eq h.fits, hhistory.successful]
        exact (Nat.zero_add _).symm
      pending := hhistory.pending
      len := by
        -- What was taken in and not handed out is counted in.
        rw [hpushes, hpops]
        exact ((Pifo.balanced_of_build built).serve hserved).1.accepted }

theorem totalSize_map_replay (c : WorkloadConfig) (calls : List (List (Request Value))) :
    totalSize c (calls.map .replay) = calls.flatten.length := by
  induction calls with
  | nil => rfl
  | cons call rest ih =>
    rw [List.flatten_cons, List.length_append, ← ih]
    rfl

/-- **Three sets of counters agree.** A fresh session over a fresh scheduler, of one valid
configuration, makes any replays; it makes them all as long as a machine word counts their requests.
Each replay counts all its requests, once each, and no result is unexpected. What the replays report
in all agrees with the counters of the scheduler and of the history after the last of them, and the
answers that the last one returns are the values of all pops and peeks since the beginning, in
order. -/
theorem replays_reconcile {c : WorkloadConfig} (valid : c.pifo.validate = .ok ()) :
    ∃ p₀, Pifo.withFifos c.pifo = .ok p₀ ∧ ∀ calls : List (List (Request Value)),
      (calls.flatten.length < wordLimit →
        ∃ s es summaries, (performAll (calls.map .replay)).run ⟨.ofConfig c, p₀⟩ =
          ⟨s, es, .ok summaries⟩) ∧
      ∀ s es summaries,
        (performAll (calls.map .replay)).run ⟨.ofConfig c, p₀⟩ = ⟨s, es, .ok summaries⟩ →
        summaries.map (·.tally.operationsTotal) = calls.map List.length ∧
        (∀ x ∈ summaries, x.tally.operationsTotal =
          x.tally.operationsOk + x.tally.overflows + x.tally.underflows) ∧
        (∀ id command result, .unexpectedResult id command result ∉ es) ∧
        ∃ es' answers, (Pifo.serve calls.flatten).run p₀ = ⟨s.target, es', .ok answers⟩ ∧
          CountersAgree (total summaries) s (calls.flatten.zip answers) ∧
          ∀ x, summaries.getLast? = some x →
            x.answers = given (calls.flatten.zip answers) ∧
            x.answers.length = (total summaries).popsOk + (total summaries).peeksOk := by
  obtain ⟨p₀, built⟩ := Pifo.exists_withFifos valid
  refine ⟨p₀, built, fun calls => ⟨?_, ?_⟩⟩
  · intro few
    have hallowed : ∀ call ∈ calls.map Call.replay, call.Allowed c := by
      intro call hcall hrun
      obtain ⟨requests, -, rfl⟩ := List.mem_map.mp hcall
      cases hrun
    obtain ⟨s, es, summaries, hreturned, -⟩ :=
      noAlarm_of_withFifos (t := p₀) built (totalSize_map_replay c calls ▸ few) hallowed
    exact ⟨s, es, summaries, hreturned⟩
  · intro s es summaries hreturned
    have hstart : Transcribes p₀ ⟨.ofConfig c, p₀⟩ [] := ⟨⟨[], rfl⟩, History.transcribes_empty⟩
    obtain ⟨trace, hrequests, hnew, hlengths, hcounted, hlast⟩ :=
      hstart.exists_of_performAll (Pifo.sound_of_build built).1 hreturned
    obtain ⟨es', hserved⟩ := hnew.session.served
    have htrace : calls.flatten.zip (trace.map Prod.snd) = trace :=
      (List.zip_of_prod hrequests rfl).symm
    refine ⟨hlengths, hcounted, hnew.expected, es', trace.map Prod.snd, hrequests ▸ hserved, ?_⟩
    rw [htrace]
    refine ⟨hnew.countersAgree built, ?_⟩
    intro x hx
    have hanswers : x.answers = given trace :=
      (hlast x hx).trans (hnew.session.recorded.answers_eq hnew.fits)
    refine ⟨hanswers, ?_⟩
    rw [hanswers, length_given, hnew.tally.pops, hnew.tally.peeks]
    show _ = 0 + _ + (0 + _)
    rw [Nat.zero_add, Nat.zero_add]

/-- At flow capacity two: a replay that peeks at an empty queue and has a push refused, an empty
one, and one that empties the queue and pops once more. The scheduler counts one underflow of the
two. -/
theorem replays_reconcile_peek :
    ∃ p₀ s es summaries, Pifo.withFifos (⟨2, 10⟩ : Config Value) = .ok p₀ ∧
      (performAll [.replay [.peek, .push 1, .push 2, .push 3, .pop], .replay [],
          .replay [.push 11, .peek, .pop, .pop, .pop]]).run ⟨.ofConfig { pifo := ⟨2, 10⟩ }, p₀⟩ =
        ⟨s, es, .ok summaries⟩ ∧
      summaries.map (·.tally.operationsTotal) = [5, 0, 5] ∧
      (total summaries).pushesOk = 3 ∧ (total summaries).popsOk = 3 ∧ s.target.len = 0 ∧
      (total summaries).overflows = 1 ∧ s.workload.history.stats.overflows = 1 ∧
      (total summaries).underflows = 2 ∧ s.target.stats.popUnderflows = 1 ∧
      ∀ x, summaries.getLast? = some x → x.answers = [1, 11, 11, 2] := by
  obtain ⟨p₀, built, hreplays⟩ := replays_reconcile (c := { pifo := ⟨2, 10⟩ }) rfl
  obtain ⟨hreturns, hagree⟩ := hreplays [[.peek, .push 1, .push 2, .push 3, .pop], [],
    [.push 11, .peek, .pop, .pop, .pop]]
  obtain ⟨⟨w, p⟩, es, summaries, hreturned⟩ := hreturns (by decide)
  obtain ⟨hlengths, -, -, es', answers, hserved, hcounters, hlast⟩ :=
    hagree _ es summaries hreturned
  cases built
  cases hserved
  exact ⟨_, _, es, summaries, rfl, hreturned, hlengths, hcounters.pushes, hcounters.pops, rfl,
    hcounters.overflows, hcounters.overflowsRecorded.symm.trans hcounters.overflows,
    hcounters.underflows, rfl, fun x hx => (hlast x hx).1⟩

end Session

end TwoFlow
