import TwoFlow.Proofs.Conservation
import TwoFlow.Proofs.Replay

/-!
# Several clients at one scheduler

Any number of clients share a scheduler behind a lock. Each has a list of requests of its own, and
takes the lock for each of them; at last it may push a value and break off while it holds the lock,
which is poisoned then. Which client takes the lock next is settled by a schedule, and a schedule
may be any list of clients.

Everything the clients see is explained by one scheduler that serves all their requests alone, in
the order in which the lock was taken, the pushes of those that broke off among them. From there on
nothing is concurrent: the model answers the same, and a flow hands its values out in the order in
which it took them in. Values of different clients may be equal, so a value is told by its passage:
its place in the order and the client that brought or took it. The passages of a flow in and out are
matched one to one, and what is left of this for one client is a list of matches, still in the order
of its pushes.

## Main definitions

* `Passage`, `arrivals`, `departures`: how values come into a flow and leave it
* `Delivered`: the arrivals matched with the departures
* `Shared.Deed`, `Shared.Client`: what a client does under the lock, at once and in all
* `Shared.System`, `Shared.System.step`, `Shared.System.run`: the clients, the lock and a schedule
* `Shared.GivenByModel`: a record that is the one of the reference model

## Main results

* `Pifo.Sound.exists_deliveries`: what leaves a flow is matched with what came in
* `Shared.Deed.run_perform`: a client that breaks off has its push served like any other
* `Shared.System.FollowsAlone.step`, `Shared.System.FollowsAlone.run`: the clients follow a
  scheduler that serves alone, in one step and by every schedule
* `Shared.clients_follow_one_order`: what the clients see, for every schedule
-/

namespace TwoFlow

/-! ## Passages -/

section Passages

variable {ι V : Type}

/-- **A value that comes into a flow or leaves it**: at which place of the order, and by which
client. -/
structure Passage (ι V : Type) where
  number : Nat
  client : ι
  value : V
  deriving DecidableEq, Repr

/-- The value that an exchange takes in. -/
def takenIn? : Request V × Response V → Option V
  | (.push v, .ok _) => some v
  | _ => none

/-- The value that an exchange hands out. -/
def handedOut? : Request V × Response V → Option V
  | (.pop, .ok (some v)) => some v
  | _ => none

variable [LE V] [DecidableLE V]

/-- The passage of a flow in one exchange, the `n`th, that a client had; `value?` says what
passes. -/
def passagesAt (k : Classifier V) (f : Flow) (value? : Request V × Response V → Option V) (n : Nat)
    (x : ι × Request V × Response V) : List (Passage ι V) :=
  (k.ofFlow f (value? x.2).toList).map fun v => ⟨n, x.1, v⟩

/-- The passages of a flow over exchanges that clients had, numbered from `n` on. -/
def passagesFrom (k : Classifier V) (f : Flow) (value? : Request V × Response V → Option V) :
    Nat → List (ι × Request V × Response V) → List (Passage ι V)
  | _, [] => []
  | n, x :: rest => passagesAt k f value? n x ++ passagesFrom k f value? (n + 1) rest

/-- **The values that came into a flow**, in order. -/
def arrivals (k : Classifier V) (f : Flow) (trace : List (ι × Request V × Response V)) :
    List (Passage ι V) :=
  passagesFrom k f takenIn? 0 trace

/-- **The values that left a flow**, in order. -/
def departures (k : Classifier V) (f : Flow) (trace : List (ι × Request V × Response V)) :
    List (Passage ι V) :=
  passagesFrom k f handedOut? 0 trace

section Laws

variable (k : Classifier V) (f : Flow) (value? : Request V × Response V → Option V)

/-- A passage is numbered by its place and named after its client. -/
theorem eq_of_mem_passagesAt {n : Nat} {x : ι × Request V × Response V} {y : Passage ι V}
    (h : y ∈ passagesAt k f value? n x) : y.number = n ∧ y.client = x.1 := by
  obtain ⟨v, -, rfl⟩ := List.mem_map.mp h
  exact ⟨rfl, rfl⟩

theorem map_value_passagesAt (n : Nat) (x : ι × Request V × Response V) :
    (passagesAt k f value? n x).map (·.value) = k.ofFlow f ([x.2].filterMap value?) := by
  have hx : [x.2].filterMap value? = (value? x.2).toList := by
    cases h : value? x.2 <;> simp [h]
  rw [passagesAt, List.map_map, hx]
  exact List.map_id _

/-- **The values that pass by one client** are those of its own exchanges, in its own order. -/
theorem map_value_filter_passagesFrom [DecidableEq ι] (n : Nat)
    (trace : List (ι × Request V × Response V)) (i : ι) :
    ((passagesFrom k f value? n trace).filter (·.client = i)).map (·.value) =
      k.ofFlow f (((trace.filter (·.1 = i)).map Prod.snd).filterMap value?) := by
  induction trace generalizing n with
  | nil => rfl
  | cons x rest ih =>
    rw [passagesFrom, List.filter_append, List.map_append, ih]
    by_cases hx : x.1 = i
    · have hall : (passagesAt k f value? n x).filter (·.client = i) = passagesAt k f value? n x :=
        List.filter_eq_self.mpr fun y hy => decide_eq_true
          ((eq_of_mem_passagesAt k f value? hy).2.trans hx)
      have hcons : (x :: rest).filter (·.1 = i) = x :: rest.filter (·.1 = i) :=
        List.filter_cons_of_pos (decide_eq_true hx)
      rw [hall, hcons, map_value_passagesAt, ← k.ofFlow_append, ← List.filterMap_append]
      rfl
    · have hnone : (passagesAt k f value? n x).filter (·.client = i) = [] :=
        List.filter_eq_nil_iff.mpr fun y hy => by
          rw [(eq_of_mem_passagesAt k f value? hy).2]
          simpa using hx
      have hcons : (x :: rest).filter (·.1 = i) = rest.filter (·.1 = i) :=
        List.filter_cons_of_neg (by simpa using hx)
      rw [hnone, hcons]
      rfl

/-- Passages are numbered from the beginning on. -/
theorem le_number_of_mem_passagesFrom {n : Nat} {trace : List (ι × Request V × Response V)}
    {y : Passage ι V} (h : y ∈ passagesFrom k f value? n trace) : n ≤ y.number := by
  induction trace generalizing n with
  | nil => cases h
  | cons x rest ih =>
    rcases List.mem_append.mp h with h | h
    · exact Nat.le_of_eq (eq_of_mem_passagesAt k f value? h).1.symm
    · exact Nat.le_of_succ_le (ih h)

/-- **No two passages have one number**, and they are listed by their numbers. -/
theorem pairwise_passagesFrom (n : Nat) (trace : List (ι × Request V × Response V)) :
    (passagesFrom k f value? n trace).Pairwise (·.number < ·.number) := by
  induction trace generalizing n with
  | nil => exact .nil
  | cons x rest ih =>
    refine List.pairwise_append.mpr ⟨?_, ih (n + 1), ?_⟩
    · -- An exchange passes at most one value.
      unfold passagesAt
      cases value? x.2 with
      | none => exact .nil
      | some v =>
        by_cases hf : k.classify v = f
        · rw [Option.toList_some, k.ofFlow_singleton_self hf]
          exact List.pairwise_singleton _ _
        · rw [Option.toList_some, k.ofFlow_singleton_of_ne rfl (Ne.symm hf)]
          exact .nil
    · intro y hy z hz
      rw [(eq_of_mem_passagesAt k f value? hy).1]
      exact le_number_of_mem_passagesFrom k f value? hz

/-- An exchange that hands a value out takes none in. -/
theorem passagesAt_handedOut (n : Nat) (x : ι × Request V × Response V) :
    passagesAt k f handedOut? n x = [] ∨
      ∃ y, passagesAt k f handedOut? n x = [y] ∧ passagesAt k f takenIn? n x = [] := by
  obtain ⟨i, r, a⟩ := x
  rcases r with _ | _ | v
  · rcases a with e | _ | v
    · exact .inl rfl
    · exact .inl rfl
    · by_cases hf : k.classify v = f
      · have hpass : passagesAt k f handedOut? n (i, .pop, .ok (some v)) = [⟨n, i, v⟩] :=
          congrArg (List.map _) (k.ofFlow_singleton_self hf)
        exact .inr ⟨_, hpass, rfl⟩
      · exact .inl (congrArg (List.map _) (k.ofFlow_singleton_of_ne rfl (Ne.symm hf)))
  · exact .inl rfl
  · exact .inl rfl

end Laws

/-- **The arrivals of a flow matched with its departures.** Each departure is of one arrival, and
the arrivals without a departure wait. Arrivals and departures are numbered by their places in the
order, so no arrival and no departure is matched twice. -/
structure Delivered [DecidableEq ι] (k : Classifier V) (f : Flow)
    (trace : List (ι × Request V × Response V)) (deliveries : List (Passage ι V × Passage ι V))
    (waiting : List (Passage ι V)) : Prop where
  arrivals_eq : arrivals k f trace = deliveries.map Prod.fst ++ waiting
  departures_eq : departures k f trace = deliveries.map Prod.snd
  arrivals_pairwise : (arrivals k f trace).Pairwise (·.number < ·.number)
  departures_pairwise : (departures k f trace).Pairwise (·.number < ·.number)
  value_eq : ∀ x ∈ deliveries, x.1.value = x.2.value
  number_lt : ∀ x ∈ deliveries, x.1.number < x.2.number
  /-- What was handed out of the pushes of one client, and then what waits of them, is what was
  accepted of its pushes, in its own order. -/
  own : ∀ i, ((deliveries.filter (·.1.client = i)).map (·.2.value)) ++
      ((waiting.filter (·.client = i)).map (·.value)) =
    k.ofFlow f (accepted ((trace.filter (·.1 = i)).map Prod.snd))

/-- The values of one client leave in its own order, if the values of all clients do. -/
theorem map_value_own [DecidableEq ι] {k : Classifier V} {f : Flow}
    {trace : List (ι × Request V × Response V)} {deliveries : List (Passage ι V × Passage ι V)}
    {waiting : List (Passage ι V)} (h : arrivals k f trace = deliveries.map Prod.fst ++ waiting)
    (value : ∀ x ∈ deliveries, x.1.value = x.2.value) (i : ι) :
    ((deliveries.filter (·.1.client = i)).map (·.2.value)) ++
        ((waiting.filter (·.client = i)).map (·.value)) =
      k.ofFlow f (accepted ((trace.filter (·.1 = i)).map Prod.snd)) := by
  have hvalues : (deliveries.filter (·.1.client = i)).map (·.2.value) =
      ((deliveries.map Prod.fst).filter (·.client = i)).map (·.value) := by
    rw [List.filter_map, List.map_map]
    refine List.map_congr_left fun x hx => ?_
    exact (value x (List.mem_filter.mp hx).1).symm
  calc
    _ = ((deliveries.map Prod.fst ++ waiting).filter (·.client = i)).map (·.value) := by
      rw [hvalues, List.filter_append, List.map_append]
    _ = ((arrivals k f trace).filter (·.client = i)).map (·.value) := by rw [h]
    _ = _ := map_value_filter_passagesFrom k f takenIn? 0 trace i

end Passages

namespace Pifo

variable {ι V : Type} [LE V] [DecidableLE V] {Q₀ Q₁ : Type} [SubQueue Q₀ V] [SubQueue Q₁ V]
  [SubQueue.Lawful Q₀] [SubQueue.Lawful Q₁] {c : Config V} {p p' : Pifo V Q₀ Q₁}

/-- **What leaves a flow is matched with what came in.** A scheduler holds some arrivals of a flow
and serves requests of clients, numbered from `n` on. -/
theorem Sound.exists_deliveries (h : Sound c p) {trace : List (ι × Request V × Response V)}
    {es : List Event}
    (run : (Pifo.serve (trace.map (·.2.1))).run p = ⟨p', es, .ok (trace.map (·.2.2))⟩) (f : Flow)
    {n : Nat} {waiting : List (Passage ι V)} (held : waiting.map (·.value) = p.items.get f)
    (earlier : ∀ y ∈ waiting, y.number < n) :
    ∃ (deliveries : List (Passage ι V × Passage ι V)) (later : List (Passage ι V)),
      waiting ++ passagesFrom c.classifier f takenIn? n trace = deliveries.map Prod.fst ++ later ∧
      passagesFrom c.classifier f handedOut? n trace = deliveries.map Prod.snd ∧
      later.map (·.value) = p'.items.get f ∧
      ∀ x ∈ deliveries, x.1.value = x.2.value ∧ x.1.number < x.2.number := by
  induction trace generalizing p es n waiting with
  | nil =>
    cases run
    exact ⟨[], waiting, List.append_nil _, rfl, held, nofun⟩
  | cons x rest ih =>
    obtain ⟨q, es₁, a, es₂, later, hr, hrest, -, hanswers⟩ := serve_cons.mp run
    obtain ⟨rfl, rfl⟩ := List.cons.inj hanswers
    have hq := h.transition (transition_of_run hr)
    -- One request conserves the values: those that waited and came in are those that left and wait.
    have hone : (Pifo.serve [x.2.1]).run p = ⟨q, es₁, .ok [x.2.2]⟩ :=
      serve_cons.mpr ⟨q, es₁, _, [], [], hr, rfl, (List.append_nil es₁).symm, rfl⟩
    have hvalues : (waiting ++ passagesAt c.classifier f takenIn? n x).map (·.value) =
        (passagesAt c.classifier f handedOut? n x).map (·.value) ++ q.items.get f := by
      rw [List.map_append, held, map_value_passagesAt, map_value_passagesAt]
      exact h.conserves hone f
    have hnumbers : ∀ y ∈ waiting ++ passagesAt c.classifier f takenIn? n x, y.number < n + 1 := by
      intro y hy
      rcases List.mem_append.mp hy with hy | hy
      · exact Nat.lt_succ_of_lt (earlier y hy)
      · exact Nat.lt_succ_of_le (Nat.le_of_eq (eq_of_mem_passagesAt c.classifier f takenIn? hy).1)
    rcases passagesAt_handedOut c.classifier f n x with hout | ⟨d, hout, hin⟩
    · rw [hout] at hvalues
      obtain ⟨deliveries, later, harrive, hdepart, hlater, hmatch⟩ := ih hq hrest hvalues hnumbers
      refine ⟨deliveries, later, ?_, ?_, hlater, hmatch⟩
      · rw [passagesFrom, ← List.append_assoc, harrive]
      · rw [passagesFrom, hout, List.nil_append, hdepart]
    · -- The oldest of those that waited leaves, and it came before.
      rw [hout, hin, List.append_nil] at hvalues
      obtain ⟨y, ys, rfl, hy, hys⟩ := List.map_eq_cons_iff.mp hvalues
      rw [hin, List.append_nil] at hnumbers
      obtain ⟨deliveries, later, harrive, hdepart, hlater, hmatch⟩ :=
        ih hq hrest hys fun z hz => hnumbers z (List.mem_cons_of_mem y hz)
      refine ⟨(y, d) :: deliveries, later, ?_, ?_, hlater, ?_⟩
      · rw [passagesFrom, hin, List.nil_append, List.cons_append, harrive]
        rfl
      · rw [passagesFrom, hout, hdepart]
        rfl
      · intro z hz
        rcases List.mem_cons.mp hz with rfl | hz
        · have hd := eq_of_mem_passagesAt c.classifier f handedOut?
            (hout ▸ List.mem_singleton_self d)
          exact ⟨hy, hd.1 ▸ earlier y List.mem_cons_self⟩
        · exact hmatch z hz

omit [LE V] [DecidableLE V] in
theorem get_items_of_empty (empty : p.backlog = .empty) (f : Flow) : p.items.get f = [] := by
  rw [← backlog_flows, empty]
  cases f <;> rfl

/-- From a scheduler without values on, the arrivals are matched with the departures. -/
theorem Sound.exists_delivered [DecidableEq ι] (h : Sound c p) (empty : p.backlog = .empty)
    {trace : List (ι × Request V × Response V)} {es : List Event}
    (run : (Pifo.serve (trace.map (·.2.1))).run p = ⟨p', es, .ok (trace.map (·.2.2))⟩) (f : Flow) :
    ∃ deliveries waiting, Delivered c.classifier f trace deliveries waiting ∧
      waiting.map (·.value) = p'.items.get f := by
  have hnone : ([] : List (Passage ι V)).map (·.value) = p.items.get f :=
    (get_items_of_empty empty f).symm
  obtain ⟨deliveries, waiting, harrive, hdepart, hwaiting, hmatch⟩ :=
    h.exists_deliveries run f (n := 0) hnone nofun
  refine ⟨deliveries, waiting, ?_, hwaiting⟩
  exact
    { arrivals_eq := harrive
      departures_eq := hdepart
      arrivals_pairwise := pairwise_passagesFrom c.classifier f takenIn? 0 trace
      departures_pairwise := pairwise_passagesFrom c.classifier f handedOut? 0 trace
      value_eq := fun x hx => (hmatch x hx).1
      number_lt := fun x hx => (hmatch x hx).2
      own := map_value_own harrive fun x hx => (hmatch x hx).1 }

end Pifo

/-! ## Clients -/

namespace Shared

/-- **What a client does under the lock at once.** -/
inductive Deed where
  /-- Issue a request, and observe the state that it leaves. -/
  | request (r : Request Value)
  /-- Push a value, and break off with the lock in hand. -/
  | breakOff (v : Value) (reason : String)

namespace Deed

/-- The request that the scheduler serves. -/
def asked : Deed → Request Value
  | request r => r
  | breakOff v _ => .push v

/-- Does the client break off? -/
def breaksOff : Deed → Bool
  | request _ => false
  | breakOff _ _ => true

/-- The deed as an action. -/
def perform :
    Deed → Action Event (Shared Value (Fifo Value) (Fifo Value)) (Response Value × Observation)
  | request r => Target.executeObserved r
  | breakOff v reason => exclusively do
    let _ ← Pifo.push v
    .fault (.raised reason)

/-- What the client gets to see, where the scheduler gave this response and was in this state
then. -/
def shows : Deed → Response Value × Observation → Except Fault (Response Value × Observation)
  | request _, x => .ok x
  | breakOff _ reason, _ => .error (.raised reason)

/-- **A deed serves its request**, and poisons the lock exactly if the client breaks off. -/
theorem run_perform {d : Deed} {s : Shared Value (Fifo Value) (Fifo Value)}
    {q : Pifo Value (Fifo Value) (Fifo Value)} {es : List Event} {a : Response Value}
    (served : (Pifo.handle d.asked).run s.pifo = ⟨q, es, .ok a⟩) :
    d.perform.run s = ⟨⟨q, s.poisoned || d.breaksOff⟩, es, d.shows (a, q.observe)⟩ := by
  cases d with
  | request r => exact run_exclusively (Pifo.run_handle_observe served)
  | breakOff v reason =>
    -- The push is done, as far as a request to push would have done it.
    obtain ⟨q', es₁, b, es₂, hpush, hpure, rfl⟩ := Action.exists_of_run_bind served
    cases hpure
    have hfault : (do
        let _ ← Pifo.push v
        .fault (.raised reason) : Action Event _ (Response Value × Observation)).run s.pifo =
        ⟨q, es₁ ++ [], .error (.raised reason)⟩ := by
      rw [Action.run_bind, hpush]
      rfl
    exact run_exclusively hfault

end Deed

/-- **A client**: the requests that it issues one after the other, and how it breaks off after them,
if it does. -/
structure Client where
  requests : List (Request Value)
  breaksOff : Option (Value × String) := none

namespace Client

/-- A client that does nothing more. -/
def gone : Client := { requests := [] }

/-- All that a client does, in order. -/
def deeds (client : Client) : List Deed :=
  client.requests.map .request ++ client.breaksOff.toList.map fun x => .breakOff x.1 x.2

/-- What a client does next, and the client after it. -/
def next? : Client → Option (Deed × Client)
  | ⟨r :: rest, breaksOff⟩ => some (.request r, ⟨rest, breaksOff⟩)
  | ⟨[], some (v, reason)⟩ => some (.breakOff v reason, gone)
  | ⟨[], none⟩ => none

theorem deeds_eq_nil {client : Client} (h : client.next? = none) : client.deeds = [] := by
  obtain ⟨_ | ⟨r, requests⟩, _ | ⟨v, reason⟩⟩ := client
  · rfl
  all_goals cases h

theorem deeds_of_next? {client rest : Client} {d : Deed} (h : client.next? = some (d, rest)) :
    client.deeds = d :: rest.deeds ∧ (d.breaksOff = true → rest = gone) := by
  obtain ⟨_ | ⟨r, requests⟩, _ | ⟨v, reason⟩⟩ := client
  · cases h
  · cases h
    exact ⟨rfl, fun _ => rfl⟩
  · cases h
    exact ⟨rfl, nofun⟩
  · cases h
    exact ⟨rfl, nofun⟩

end Client

/-- **A record of the order**: who took the lock, what was done under it, and what came of it. -/
structure Entry (ι : Type) where
  client : ι
  deed : Deed
  outcome : Except Fault (Response Value × Observation)

/-- **Clients at work**: the shared scheduler, what each client has still to do, what was done so
far and what the scheduler reported. -/
structure System (ι : Type) where
  shared : Shared Value (Fifo Value) (Fifo Value)
  ahead : ι → Client
  log : List (Entry ι) := []
  events : List Event := []

namespace System

variable {ι : Type}

/-- The clients as they begin. -/
def start (p : Pifo Value (Fifo Value) (Fifo Value)) (clients : ι → Client) : System ι :=
  { shared := { pifo := p }, ahead := clients }

/-- The requests that were served, in the order in which the lock was taken. -/
def requests (s : System ι) : List (Request Value) := s.log.map (·.deed.asked)

/-- The exchanges of all clients, by the responses that were given. -/
def exchanges (s : System ι) (answers : List (Response Value)) :
    List (ι × Request Value × Response Value) :=
  (s.log.zip answers).map fun x => (x.1.client, x.1.deed.asked, x.2)

section Exchanges

variable {s : System ι} {p₀ p : Pifo Value (Fifo Value) (Fifo Value)} {es : List Event}
  {answers : List (Response Value)}
  (reached : (Pifo.serve s.requests).run p₀ = ⟨p, es, .ok answers⟩)

include reached

theorem length_answers : answers.length = s.log.length := by
  rw [Pifo.length_of_serve reached, requests, List.length_map]

theorem map_request_exchanges : (s.exchanges answers).map (·.2.1) = s.requests := by
  have hlength : s.log.length ≤ answers.length := Nat.le_of_eq (length_answers reached).symm
  calc
    _ = ((s.log.zip answers).map Prod.fst).map (·.deed.asked) := by
      rw [exchanges, List.map_map, List.map_map]
      rfl
    _ = _ := by
      rw [List.map_fst_zip hlength]
      rfl

theorem map_response_exchanges : (s.exchanges answers).map (·.2.2) = answers := by
  have hlength : answers.length ≤ s.log.length := Nat.le_of_eq (length_answers reached)
  calc
    _ = (s.log.zip answers).map Prod.snd := by
      rw [exchanges, List.map_map]
      rfl
    _ = _ := List.map_snd_zip hlength

/-- What the scheduler alone has served are the exchanges of the clients. -/
theorem run_exchanges :
    (Pifo.serve ((s.exchanges answers).map (·.2.1))).run p₀ =
      ⟨p, es, .ok ((s.exchanges answers).map (·.2.2))⟩ := by
  rw [map_request_exchanges reached, map_response_exchanges reached]
  exact reached

end Exchanges

variable [DecidableEq ι]

/-- **A client takes the lock** and does what it has to do next. With nothing to do it passes; a
client that a fault has broken off does nothing more. -/
def step (s : System ι) (i : ι) : System ι :=
  match (s.ahead i).next? with
  | none => s
  | some (d, rest) =>
    let t := d.perform.run s.shared
    { shared := t.state
      ahead := fun j => if j = i then if t.outcome.isOk then rest else .gone else s.ahead j
      log := s.log ++ [⟨i, d, t.outcome⟩]
      events := s.events ++ t.events }

/-- **The clients take the lock by a schedule.** -/
def run (s : System ι) : List ι → System ι
  | [] => s
  | i :: schedule => (s.step i).run schedule

/-! ## One order -/

/-- **Clients that have followed a scheduler alone** by a schedule that is past: one that served all
their requests in the order of the lock, came to this state and gave these responses. -/
structure Follows (p₀ : Pifo Value (Fifo Value) (Fifo Value)) (clients : ι → Client) (past : List ι)
    (s : System ι) (p : Pifo Value (Fifo Value) (Fifo Value)) (es : List Event)
    (answers : List (Response Value)) : Prop where
  pifo : s.shared.pifo = p
  events : s.events = es
  poisoned : s.shared.poisoned = s.log.any (·.deed.breaksOff)
  /-- Each client has done its own deeds in its own order. -/
  order : ∀ i, (s.log.filter (·.client = i)).map (·.deed) ++ (s.ahead i).deeds = (clients i).deeds
  /-- Each client has done something whenever it was its turn, until it had done everything. -/
  turns : ∀ i, (s.log.filter (·.client = i)).length = min (past.count i) (clients i).deeds.length
  /-- Each client saw what the scheduler answered at that place of the order. -/
  recorded : ∀ before e after, s.log = before ++ e :: after →
    ∃ q q' es₁ es₂ answers₁ a,
      (Pifo.serve (before.map (·.deed.asked))).run p₀ = ⟨q, es₁, .ok answers₁⟩ ∧
      (Pifo.handle e.deed.asked).run q = ⟨q', es₂, .ok a⟩ ∧
      answers[before.length]? = some a ∧ e.outcome = e.deed.shows (a, q'.observe)

variable {p₀ p : Pifo Value (Fifo Value) (Fifo Value)} {clients : ι → Client} {past : List ι}
  {s : System ι} {es : List Event} {answers : List (Response Value)}

theorem follows_start : (start p₀ clients).Follows p₀ clients [] p₀ [] [] where
  pifo := rfl
  events := rfl
  poisoned := rfl
  order _ := rfl
  turns _ := (Nat.zero_min _).symm
  recorded before e after h := by
    cases before <;> cases h

/-- What a client has done and what it has still to do, counted. -/
theorem Follows.length_deeds (h : s.Follows p₀ clients past p es answers) (i : ι) :
    (s.log.filter (·.client = i)).length + (s.ahead i).deeds.length = (clients i).deeds.length := by
  rw [← h.order i, List.length_append, List.length_map]

/-- **A client with nothing to do passes.** -/
theorem Follows.pass (h : s.Follows p₀ clients past p es answers) {i : ι}
    (idle : (s.ahead i).next? = none) : s.Follows p₀ clients (past ++ [i]) p es answers := by
  refine { h with turns := ?_ }
  intro j
  have hturns := h.turns j
  have hlength := h.length_deeds j
  rw [List.count_append]
  by_cases hj : j = i
  · subst hj
    rw [Client.deeds_eq_nil idle, List.length_nil] at hlength
    omega
  · rw [List.count_singleton, beq_false_of_ne (Ne.symm hj)]
    exact hturns

/-- **A deed is followed.** -/
theorem Follows.snoc (h : s.Follows p₀ clients past p es answers)
    (reached : (Pifo.serve s.requests).run p₀ = ⟨p, es, .ok answers⟩) {i : ι} {d : Deed}
    {rest : Client} (next : (s.ahead i).next? = some (d, rest))
    {q : Pifo Value (Fifo Value) (Fifo Value)} {es' : List Event} {a : Response Value}
    (served : (Pifo.handle d.asked).run p = ⟨q, es', .ok a⟩) :
    (s.step i).Follows p₀ clients (past ++ [i]) q (es ++ es') (answers ++ [a]) := by
  obtain rfl := h.pifo
  have hstep : s.step i =
      { shared := ⟨q, s.shared.poisoned || d.breaksOff⟩
        ahead := fun j => if j = i then
          if (d.shows (a, q.observe)).isOk then rest else .gone else s.ahead j
        log := s.log ++ [⟨i, d, d.shows (a, q.observe)⟩]
        events := s.events ++ es' } := by
    simp only [step, next, d.run_perform served]
  rw [hstep]
  obtain ⟨hdeeds, hgone⟩ := Client.deeds_of_next? next
  exact
    { pifo := rfl
      events := by rw [h.events]
      poisoned := by simp [h.poisoned]
      order := by
        intro j
        rw [List.filter_append, List.map_append, ← h.order j]
        by_cases hj : j = i
        · subst hj
          -- A client that breaks off had nothing else to do.
          have hrest : (if (d.shows (a, q.observe)).isOk then rest else .gone) = rest := by
            cases d with
            | request r => rfl
            | breakOff v reason => exact (hgone rfl).symm
          simp [hrest, hdeeds]
        · simp [hj, Ne.symm hj]
      turns := by
        intro j
        have hturns := h.turns j
        have hlength := h.length_deeds j
        rw [List.filter_append, List.length_append, List.count_append]
        by_cases hj : j = i
        · subst hj
          rw [hdeeds, List.length_cons] at hlength
          simp only [decide_true, List.filter_cons_of_pos, List.filter_nil, List.length_singleton,
            List.count_singleton_self]
          omega
        · simpa [hj, Ne.symm hj, List.count_singleton] using hturns
      recorded := by
        intro before e after hsplit
        rcases List.eq_nil_or_concat after with rfl | ⟨after', e', rfl⟩
        · -- The deed itself.
          obtain ⟨rfl, hlast⟩ := List.append_inj' hsplit rfl
          cases hlast
          refine ⟨s.shared.pifo, q, es, es', answers, a, reached, served, ?_, rfl⟩
          rw [← length_answers reached, List.getElem?_concat_length]
        · -- An earlier one.
          rw [List.concat_eq_append, ← List.cons_append, ← List.append_assoc] at hsplit
          obtain ⟨hlog, -⟩ := List.append_inj' hsplit rfl
          obtain ⟨q₁, q₂, es₁, es₂, answers₁, b, hbefore, he, hanswer, hshown⟩ :=
            h.recorded before e after' hlog
          refine ⟨q₁, q₂, es₁, es₂, answers₁, b, hbefore, he, ?_, hshown⟩
          rw [List.getElem?_append_left (List.getElem?_eq_some_iff.mp hanswer).1, hanswer] }

/-- The clients follow a scheduler alone as long as it serves all their requests without a fault. -/
def FollowsAlone (p₀ : Pifo Value (Fifo Value) (Fifo Value)) (clients : ι → Client) (past : List ι)
    (s : System ι) : Prop :=
  ∀ p es answers, (Pifo.serve s.requests).run p₀ = ⟨p, es, .ok answers⟩ →
    s.Follows p₀ clients past p es answers

/-- **One step is followed**, whoever takes the lock. -/
theorem FollowsAlone.step (h : s.FollowsAlone p₀ clients past) (i : ι) :
    (s.step i).FollowsAlone p₀ clients (past ++ [i]) := by
  intro p es answers hserved
  cases hnext : (s.ahead i).next? with
  | none =>
    have hpass : s.step i = s := by rw [System.step, hnext]
    rw [hpass] at hserved ⊢
    exact (h p es answers hserved).pass hnext
  | some x =>
    obtain ⟨d, rest⟩ := x
    have hrequests : (s.step i).requests = s.requests ++ [d.asked] := by
      simp [System.step, hnext, requests]
    rw [hrequests] at hserved
    obtain ⟨q, es₁, answers₁, es₂, answers₂, hbefore, hlast, rfl, rfl⟩ :=
      Pifo.serve_append.mp hserved
    obtain ⟨q', es₃, a, es₄, later, hd, hnil, rfl, rfl⟩ := Pifo.serve_cons.mp hlast
    cases hnil
    rw [List.append_nil]
    exact (h q es₁ answers₁ hbefore).snoc hbefore hnext hd

/-- **Every schedule is followed.** -/
theorem FollowsAlone.run (h : s.FollowsAlone p₀ clients past) (schedule : List ι) :
    (s.run schedule).FollowsAlone p₀ clients (past ++ schedule) := by
  induction schedule generalizing s past with
  | nil =>
    rw [List.append_nil]
    exact h
  | cons i rest ih =>
    rw [← List.singleton_append, ← List.append_assoc]
    exact ih (h.step i)

theorem followsAlone_start : (start p₀ clients).FollowsAlone p₀ clients [] := by
  intro p es answers hserved
  cases hserved
  exact follows_start

end System

/-- **A record of the reference model.** After the requests before it, the model gives this
response, and the client saw the response and the state of the model, unless it broke off. -/
def GivenByModel {ι : Type} (c : Config Value) (before : List (Request Value)) (e : Entry ι)
    (a : Response Value) : Prop :=
  ∃ m results m', (Model.ofConfig c).applyAll before = .ok (m, results) ∧
    m.apply e.deed.asked = .ok (m', .ofResponse a) ∧ e.outcome = e.deed.shows (a, m'.state)

/-- What a scheduler shows is what the model shows. -/
theorem givenByModel_of_run {ι : Type} {c : Config Value}
    {p₀ q q' : Pifo Value (Fifo Value) (Fifo Value)} (built : Pifo.withFifos c = .ok p₀)
    {before : List (Request Value)} {es es' : List Event} {answers : List (Response Value)}
    (reached : (Pifo.serve before).run p₀ = ⟨q, es, .ok answers⟩) {e : Entry ι} {a : Response Value}
    (served : (Pifo.handle e.deed.asked).run q = ⟨q', es', .ok a⟩)
    (shown : e.outcome = e.deed.shows (a, q'.observe)) : GivenByModel c before e a := by
  obtain ⟨hsound, hempty, -⟩ := Pifo.sound_of_build built
  obtain ⟨hq, hafter, -⟩ := hsound.serve reached
  have way := Pifo.transition_of_run served
  have taken := hq.takes way
  have hq' := hq.transition way
  have hcap : c.flowCapacity * 2 < wordLimit := ((Config.validate_eq_ok_iff c).mp hsound.valid).2
  -- The model goes through the same turns of the same backlog.
  obtain ⟨m, hbefore, hm, hconfig⟩ := Model.applyAll_eq_turns (m := .ofConfig c) hcap before
  have hbacklog : q.backlog = m.backlog := by
    rw [hafter, hempty, hm]
    rfl
  obtain ⟨m', happly, hnext, -⟩ := Model.apply_eq_turn (m := m) (hconfig ▸ hcap) e.deed.asked
  have hmodel : m.config = c := hconfig
  rw [← hbacklog, hmodel] at happly hnext
  refine ⟨m, _, m', hbefore, ?_, ?_⟩
  · rw [happly, taken.response]
  · rw [shown, hq'.observe_eq, m'.state_eq, taken.backlog, hnext]

/-- **Clients follow one order.** Any number of clients share a scheduler over the stock queues, of
a valid configuration, and take the lock by any schedule; each issues its own requests, and some
break off under the lock after a last push. The requests of all, in the order in which the lock was
taken, are requests that one scheduler alone serves, at least as long as a machine word counts them.
Then the shared scheduler has come to the same state, and each client has done its deeds in its own
order, one for each turn it had: a poisoned lock holds nobody up. Each record is the one of the
reference model at its place. Of each flow, what was accepted from all clients is what was popped by
all clients, in order, followed by what is left. One by one, each pop has a push of an earlier
place, of whatever client, and what was accepted from one client has left in the order of this
client. -/
theorem clients_follow_one_order {ι : Type} [DecidableEq ι] {c : Config Value}
    (valid : c.validate = .ok ()) (clients : ι → Client) :
    ∃ p₀, Pifo.withFifos c = .ok p₀ ∧ ∀ (schedule : List ι) (s : System ι),
      (System.start p₀ clients).run schedule = s →
      (s.log.length < wordLimit →
        ∃ p es answers, (Pifo.serve s.requests).run p₀ = ⟨p, es, .ok answers⟩) ∧
      ∀ p es answers, (Pifo.serve s.requests).run p₀ = ⟨p, es, .ok answers⟩ →
        s.shared.pifo = p ∧
        (s.shared.poisoned = true ↔ ∃ e ∈ s.log, e.deed.breaksOff = true) ∧
        (∀ i, (s.log.filter (·.client = i)).map (·.deed) ++ (s.ahead i).deeds =
          (clients i).deeds) ∧
        (∀ i, (s.log.filter (·.client = i)).length =
          min (schedule.count i) (clients i).deeds.length) ∧
        (∀ before e after, s.log = before ++ e :: after → ∃ a,
          answers[before.length]? = some a ∧ GivenByModel c (before.map (·.deed.asked)) e a) ∧
        s.events.filterMap Event.servedBy? =
          (popped (s.requests.zip answers)).map c.classifier.classify ∧
        ∀ f, c.classifier.ofFlow f (accepted (s.requests.zip answers)) =
            c.classifier.ofFlow f (popped (s.requests.zip answers)) ++ p.items.get f ∧
          ∃ deliveries waiting, Delivered c.classifier f (s.exchanges answers) deliveries waiting ∧
            waiting.map (·.value) = p.items.get f := by
  obtain ⟨p₀, built⟩ := Pifo.exists_withFifos valid
  obtain ⟨hsound, hempty, -⟩ := Pifo.sound_of_build built
  refine ⟨p₀, built, ?_⟩
  rintro schedule s rfl
  constructor
  · intro few
    have hfew : ((System.start p₀ clients).run schedule).requests.length < wordLimit := by
      rwa [System.requests, List.length_map]
    obtain ⟨p, es, answers, hserved, -⟩ := Pifo.exists_run_of_build built hfew
    exact ⟨p, es, answers, hserved⟩
  · intro p es answers hserved
    have follows := System.followsAlone_start.run schedule p es answers hserved
    refine ⟨follows.pifo, ?_, follows.order, follows.turns, ?_, ?_, fun f => ⟨?_, ?_⟩⟩
    · rw [follows.poisoned, List.any_eq_true]
    · intro before e after hsplit
      obtain ⟨q, q', es₁, es₂, answers₁, a, hbefore, he, hanswer, hshown⟩ :=
        follows.recorded before e after hsplit
      exact ⟨a, hanswer, givenByModel_of_run built hbefore he hshown⟩
    · rw [follows.events]
      exact hsound.servedBy_eq hserved
    · have hconserved := hsound.conserves hserved f
      rwa [Pifo.get_items_of_empty hempty, List.nil_append] at hconserved
    · exact hsound.exists_delivered hempty (System.run_exchanges hserved) f

/-- At flow capacity two, with equal values of two producers: the first one breaks off while it
pushes its second value, after the consumer has popped its first. The consumer then pops the value
of the other one, and the value pushed last waits behind a poisoned lock. -/
theorem clients_follow_one_order_poisoned :
    ∃ p₀ s p es answers deliveries waiting, Pifo.withFifos (⟨2, 10⟩ : Config Value) = .ok p₀ ∧
      (System.start p₀ fun i : Fin 3 =>
          if i = 0 then ⟨[.push 1], some (1, "gone")⟩
          else if i = 1 then ⟨[.push 1, .push 11], none⟩
          else ⟨[.pop, .peek, .pop, .pop], none⟩).run [0, 1, 2, 0, 0, 1, 2, 2, 0, 2] = s ∧
      (Pifo.serve s.requests).run p₀ = ⟨p, es, .ok answers⟩ ∧ s.shared.pifo = p ∧
      s.shared.poisoned = true ∧
      Delivered ⟨10⟩ .zero (s.exchanges answers) deliveries waiting ∧
      deliveries = [(⟨0, 0, 1⟩, ⟨2, 2, 1⟩), (⟨1, 1, 1⟩, ⟨7, 2, 1⟩)] ∧ waiting = [⟨3, 0, 1⟩] := by
  obtain ⟨p₀, built, hruns⟩ := clients_follow_one_order (c := ⟨2, 10⟩) rfl fun i : Fin 3 =>
    if i = 0 then ⟨[.push 1], some (1, "gone")⟩
    else if i = 1 then ⟨[.push 1, .push 11], none⟩
    else ⟨[.pop, .peek, .pop, .pop], none⟩
  obtain ⟨hserves, hlaws⟩ := hruns [0, 1, 2, 0, 0, 1, 2, 2, 0, 2] _ rfl
  cases built
  obtain ⟨p, es, answers, hserved⟩ := hserves (by decide)
  obtain ⟨hpifo, -, -, -, -, -, hflows⟩ := hlaws p es answers hserved
  obtain ⟨-, deliveries, waiting, hdelivered, -⟩ := hflows .zero
  refine ⟨_, _, p, es, answers, deliveries, waiting, rfl, rfl, hserved, hpifo, rfl, hdelivered, ?_⟩
  cases hserved
  have hdepart : ([⟨2, 2, 1⟩, ⟨7, 2, 1⟩] : List (Passage (Fin 3) Value)) =
    deliveries.map Prod.snd := hdelivered.departures_eq
  have harrive : ([⟨0, 0, 1⟩, ⟨1, 1, 1⟩, ⟨3, 0, 1⟩] : List (Passage (Fin 3) Value)) =
    deliveries.map Prod.fst ++ waiting := hdelivered.arrivals_eq
  obtain ⟨⟨x, _⟩, rest, rfl, rfl, hrest⟩ := List.map_eq_cons_iff.mp hdepart.symm
  obtain ⟨⟨y, _⟩, none, rfl, rfl, hnone⟩ := List.map_eq_cons_iff.mp hrest
  cases List.map_eq_nil_iff.mp hnone
  cases harrive
  exact ⟨rfl, rfl⟩

end Shared

end TwoFlow
