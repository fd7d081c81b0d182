import TwoFlow.Proofs.Simulation

/-!
# Nothing is lost, doubled or reordered within a flow

A popped value does not say which flow it came from, and a pop may be served by either flow. Still,
the values that a flow took in are, in the order in which they came, the values that were handed out
for it, followed by those that wait. The reason is that each flow holds only values of its own, so
the flow that hands a value out is the flow of the value.

The law is one of a single request, with what waited before on the left-hand side; along a list of
requests the laws of its members compose.

## Main definitions

* `accepted`, `popped`: the values taken in and handed out over some exchanges
* `Classifier.ofFlow`: the values of a flow

## Main results

* `Backlog.Sound.turn_conserves`, `Backlog.Sound.turns_conserve`: the law of a request, and of a
  list of requests
* `Pifo.Sound.conserves`: the law of a scheduler, from any sound state on
* `Pifo.serve_conserves`: the law of a scheduler over the stock queues
-/

namespace TwoFlow

variable {V : Type}

/-- The values that were taken in, in order: those of the pushes that were not rejected. -/
def accepted : List (Request V × Response V) → List V :=
  List.filterMap fun
    | (.push v, .ok _) => some v
    | _ => none

/-- The values that were handed out, in order: those that a pop was answered with. -/
def popped : List (Request V × Response V) → List V :=
  List.filterMap fun
    | (.pop, .ok (some v)) => some v
    | _ => none

/-- The flow that served a pop, if the event is one. -/
def Event.servedBy? : Event → Option Flow
  | popped flow _ _ => some flow
  | _ => none

section Exchanges

variable (r : Request V) (v : V) (e : QueueError) (trace : List (Request V × Response V))

@[simp] theorem accepted_nil : accepted ([] : List (Request V × Response V)) = [] := rfl

@[simp] theorem accepted_push_ok (o : Option V) :
    accepted ((.push v, .ok o) :: trace) = v :: accepted trace := rfl

@[simp] theorem accepted_error : accepted ((r, .error e) :: trace) = accepted trace := by
  cases r <;> rfl

@[simp] theorem accepted_pop (a : Response V) :
    accepted ((.pop, a) :: trace) = accepted trace := rfl

@[simp] theorem accepted_peek (a : Response V) :
    accepted ((.peek, a) :: trace) = accepted trace := rfl

@[simp] theorem popped_nil : popped ([] : List (Request V × Response V)) = [] := rfl

@[simp] theorem popped_pop_ok : popped ((.pop, .ok (some v)) :: trace) = v :: popped trace := rfl

@[simp] theorem popped_error : popped ((r, .error e) :: trace) = popped trace := by
  cases r <;> rfl

@[simp] theorem popped_push (a : Response V) :
    popped ((.push v, a) :: trace) = popped trace := rfl

@[simp] theorem popped_peek (a : Response V) :
    popped ((.peek, a) :: trace) = popped trace := rfl

theorem accepted_cons (x : Request V × Response V) :
    accepted (x :: trace) = accepted [x] ++ accepted trace :=
  List.filterMap_append (l := [x])

theorem popped_cons (x : Request V × Response V) :
    popped (x :: trace) = popped [x] ++ popped trace :=
  List.filterMap_append (l := [x])

theorem accepted_append (later : List (Request V × Response V)) :
    accepted (trace ++ later) = accepted trace ++ accepted later :=
  List.filterMap_append

theorem popped_append (later : List (Request V × Response V)) :
    popped (trace ++ later) = popped trace ++ popped later :=
  List.filterMap_append

end Exchanges

variable [LE V] [DecidableLE V]

/-- The values of a flow among some values. -/
def Classifier.ofFlow (c : Classifier V) (f : Flow) (l : List V) : List V :=
  l.filter (c.classify · = f)

theorem Classifier.ofFlow_append (c : Classifier V) (f : Flow) (l l' : List V) :
    c.ofFlow f (l ++ l') = c.ofFlow f l ++ c.ofFlow f l' :=
  List.filter_append l l'

@[simp] theorem Classifier.ofFlow_nil (c : Classifier V) (f : Flow) : c.ofFlow f [] = [] := rfl

theorem Classifier.ofFlow_singleton_self {c : Classifier V} {f : Flow} {v : V}
    (h : c.classify v = f) : c.ofFlow f [v] = [v] := by
  simp [ofFlow, h]

theorem Classifier.ofFlow_singleton_of_ne {c : Classifier V} {f g : Flow} {v : V}
    (h : c.classify v = g) (hne : f ≠ g) : c.ofFlow f [v] = [] := by
  simp [ofFlow, h, hne.symm]

namespace Backlog

variable {c : Config V} {s : Backlog V}

/-- A flow that takes a value in holds it as its newest. -/
theorem get_set_append (s : Backlog V) (c : Config V) (v : V) (f : Flow) :
    (s.flows.set (c.classifier.classify v)
        (s.flows.get (c.classifier.classify v) ++ [v])).get f =
      s.flows.get f ++ c.classifier.ofFlow f [v] := by
  by_cases hf : f = c.classifier.classify v
  · rw [hf, PerFlow.get_set_self, Classifier.ofFlow_singleton_self rfl]
  · rw [PerFlow.get_set_of_ne _ _ hf, Classifier.ofFlow_singleton_of_ne rfl hf, List.append_nil]

/-- A flow that hands its oldest value out had it and keeps the rest. -/
theorem Sound.get_eq_of_rest (h : s.Sound c) {g : Flow} {v : V} {rest : List V}
    (hg : s.flows.get g = v :: rest) (f : Flow) :
    s.flows.get f = c.classifier.ofFlow f [v] ++ (s.flows.set g rest).get f := by
  -- The value stood in `g`, so it is a value of `g` and of no other flow.
  have hclass : c.classifier.classify v = g := h.classify_eq g v (hg ▸ List.mem_cons_self)
  by_cases hf : f = g
  · rw [hf, PerFlow.get_set_self, Classifier.ofFlow_singleton_self hclass, hg]
    rfl
  · rw [PerFlow.get_set_of_ne _ _ hf, Classifier.ofFlow_singleton_of_ne hclass hf, List.nil_append]

/-- **The law of a request.** What waited in a flow and what the request brought to it is what the
request took from it and what waits now. -/
theorem Sound.turn_conserves (h : s.Sound c) (r : Request V) (f : Flow) :
    s.flows.get f ++ c.classifier.ofFlow f (accepted [(r, (s.turn c r).response)]) =
      c.classifier.ofFlow f (popped [(r, (s.turn c r).response)]) ++
        (s.turn c r).next.flows.get f := by
  fun_cases Backlog.turn c s r with
  | case1 v => simp
  | case2 v => simp
  | case3 v flow held hfull hroom =>
    rw [accepted_push_ok, popped_push, get_set_append]
    rfl
  | case4 v rest hhot =>
    rw [accepted_pop, popped_pop_ok, accepted_nil, Classifier.ofFlow_nil, List.append_nil]
    exact h.get_eq_of_rest hhot f
  | case5 v rest hother hhot =>
    rw [accepted_pop, popped_pop_ok, accepted_nil, Classifier.ofFlow_nil, List.append_nil]
    exact h.get_eq_of_rest hother f
  | case6 => simp
  | case7 => simp

/-- The flow that hands a value out is the flow of the value. -/
theorem Sound.servedBy_turn (h : s.Sound c) (r : Request V) :
    (s.turn c r).events.filterMap Event.servedBy? =
      (popped [(r, (s.turn c r).response)]).map c.classifier.classify := by
  fun_cases Backlog.turn c s r with
  | case1 v => rfl
  | case2 v => rfl
  | case3 v flow held hfull hroom => rfl
  | case4 v rest hhot =>
    have hclass := h.classify_eq s.hot v (hhot ▸ List.mem_cons_self)
    rw [popped_pop_ok, List.map_cons, hclass]
    rfl
  | case5 v rest hother hhot =>
    have hclass := h.classify_eq s.hot.other v (hother ▸ List.mem_cons_self)
    rw [popped_pop_ok, List.map_cons, hclass]
    rfl
  | case6 => rfl
  | case7 => simp

/-- The exchanges of a list of requests. -/
def trace (c : Config V) (s : Backlog V) (requests : List (Request V)) :
    List (Request V × Response V) :=
  requests.zip ((s.turns c requests).map (·.response))

theorem trace_cons (c : Config V) (s : Backlog V) (r : Request V) (rest : List (Request V)) :
    s.trace c (r :: rest) = (r, (s.turn c r).response) :: (s.turn c r).next.trace c rest := rfl

/-- **The law of a list of requests.** -/
theorem Sound.turns_conserve (h : s.Sound c) (requests : List (Request V)) (f : Flow) :
    s.flows.get f ++ c.classifier.ofFlow f (accepted (s.trace c requests)) =
      c.classifier.ofFlow f (popped (s.trace c requests)) ++ (s.after c requests).flows.get f := by
  induction requests generalizing s with
  | nil => exact List.append_nil _
  | cons r rest ih =>
    -- What the first request leaves in the flow is what the others begin with.
    rw [trace_cons, accepted_cons, popped_cons, Classifier.ofFlow_append, Classifier.ofFlow_append,
      ← List.append_assoc, h.turn_conserves r f, List.append_assoc, ih (h.turn r),
      List.append_assoc]
    rfl

theorem Sound.servedBy_turns (h : s.Sound c) (requests : List (Request V)) :
    ((s.turns c requests).flatMap (·.events)).filterMap Event.servedBy? =
      (popped (s.trace c requests)).map c.classifier.classify := by
  induction requests generalizing s with
  | nil => rfl
  | cons r rest ih =>
    rw [turns, List.flatMap_cons, List.filterMap_append, h.servedBy_turn r, ih (h.turn r),
      ← List.map_append, ← popped_cons]
    rfl

theorem length_turns (c : Config V) (s : Backlog V) (requests : List (Request V)) :
    (s.turns c requests).length = requests.length := by
  induction requests generalizing s with
  | nil => rfl
  | cons r rest ih => exact congrArg (· + 1) (ih _)

end Backlog

namespace Pifo

/-! ## Schedulers -/

section Lawful

variable {Q₀ Q₁ : Type} [SubQueue Q₀ V] [SubQueue Q₁ V] [SubQueue.Lawful Q₀] [SubQueue.Lawful Q₁]
  {c : Config V} {p p' : Pifo V Q₀ Q₁} {requests : List (Request V)} {es : List Event}
  {answers : List (Response V)}

/-- **The law of a scheduler**, from any sound state on. -/
theorem Sound.conserves (h : Sound c p) (run : (Pifo.serve requests).run p = ⟨p', es, .ok answers⟩)
    (f : Flow) :
    p.items.get f ++ c.classifier.ofFlow f (accepted (requests.zip answers)) =
      c.classifier.ofFlow f (popped (requests.zip answers)) ++ p'.items.get f := by
  obtain ⟨-, hbacklog, rfl, -, -⟩ := h.serve run
  have hlaw := h.backlog.turns_conserve requests f
  rw [← hbacklog] at hlaw
  exact hlaw

/-- Each value is handed out by the sub-queue of its own flow. -/
theorem Sound.servedBy_eq (h : Sound c p)
    (run : (Pifo.serve requests).run p = ⟨p', es, .ok answers⟩) :
    es.filterMap Event.servedBy? =
      (popped (requests.zip answers)).map c.classifier.classify := by
  obtain ⟨-, -, rfl, rfl, -⟩ := h.serve run
  exact h.backlog.servedBy_turns requests

end Lawful

/-- **Conservation and order within a flow.** A scheduler built of a valid configuration answers
every request of a list that a machine word counts. Whenever it has answered all requests of a list,
the values of a flow that it took in are those that it handed out followed by those that wait, in
this order; and each value was handed out by the sub-queue of its own flow. -/
theorem serve_conserves {c : Config V} (valid : c.validate = .ok ()) :
    ∃ p₀, withFifos c = .ok p₀ ∧ ∀ requests : List (Request V),
      (requests.length < wordLimit →
        ∃ p es answers, (serve requests).run p₀ = ⟨p, es, .ok answers⟩) ∧
      ∀ p es answers, (serve requests).run p₀ = ⟨p, es, .ok answers⟩ →
        answers.length = requests.length ∧
        (∀ f, c.classifier.ofFlow f (accepted (requests.zip answers)) =
          c.classifier.ofFlow f (popped (requests.zip answers)) ++ p.items.get f) ∧
        es.filterMap Event.servedBy? =
          (popped (requests.zip answers)).map c.classifier.classify := by
  obtain ⟨p₀, built⟩ := exists_withFifos valid
  obtain ⟨hsound, hempty, -⟩ := sound_of_build built
  refine ⟨p₀, built, fun requests => ⟨fun few => ?_, fun p es answers hrun => ?_⟩⟩
  · obtain ⟨p, es, answers, hrun, -⟩ := exists_run_of_build built few
    exact ⟨p, es, answers, hrun⟩
  · obtain ⟨-, hbacklog, rfl, rfl, -⟩ := hsound.serve hrun
    refine ⟨?_, fun f => ?_, hsound.backlog.servedBy_turns requests⟩
    · rw [List.length_map, Backlog.length_turns]
    · -- Nothing waited at first.
      have hlaw := hsound.backlog.turns_conserve requests f
      rw [← hbacklog, hempty] at hlaw
      rw [hempty]
      cases f <;> exact hlaw

/-- At flow capacity two, over natural numbers: the first pop falls back to flow one, a push is
rejected by its flow, and the last two pops are served by turns. -/
theorem serve_conserves_two :
    (⟨2, 10⟩ : Config Nat).validate = .ok () ∧
      ∃ p₀, withFifos (⟨2, 10⟩ : Config Nat) = .ok p₀ ∧
        ∃ p es answers,
          (serve [.push 11, .pop, .push 4, .push 9, .push 5, .push 12, .pop, .pop]).run p₀ =
              ⟨p, es, .ok answers⟩ ∧
            ∀ f, Classifier.ofFlow ⟨10⟩ f (accepted (List.zip
                [.push 11, .pop, .push 4, .push 9, .push 5, .push 12, .pop, .pop] answers)) =
              Classifier.ofFlow ⟨10⟩ f (popped (List.zip
                [.push 11, .pop, .push 4, .push 9, .push 5, .push 12, .pop, .pop] answers)) ++
                p.items.get f := by
  refine ⟨rfl, ?_⟩
  obtain ⟨p₀, built, hserve⟩ := serve_conserves (c := (⟨2, 10⟩ : Config Nat)) rfl
  obtain ⟨hruns, hlaw⟩ :=
    hserve [.push 11, .pop, .push 4, .push 9, .push 5, .push 12, .pop, .pop]
  obtain ⟨p, es, answers, hrun⟩ := hruns (by decide)
  exact ⟨p₀, built, p, es, answers, hrun, (hlaw p es answers hrun).2.1⟩

end Pifo

end TwoFlow
