import TwoFlow.Model
import TwoFlow.Proofs.Simulation

/-!
# The scheduler refines the reference model

The reference model has no counter and compares lengths for equality; the scheduler answers from a
counter of its own and compares with inequalities. Both have the same backlog to work on, and both
take the turns of that backlog. So they are in step after every request: they give the same results,
show the same observation and hold the same values in each flow.

The model takes the turns of its backlog even where the backlog is not sound: all it needs is that
twice the flow capacity is a machine word.

## Main definitions

* `Backlog.observe`, `Model.backlog`: the backlog seen from outside, and the backlog of a model
* `Agrees`: a scheduler and a model that hold the same values and look alike

## Main results

* `Model.apply_eq_turn`, `Model.applyAll_eq_turns`: the model takes the turns of its backlog
* `Model.turn_of_apply`: and it can do nothing else
* `Pifo.serve_refines_model`: the scheduler refines the model
-/

namespace TwoFlow

/-- The backlog seen from outside. -/
def Backlog.observe {V : Type} (s : Backlog V) : Observation :=
  ⟨s.hot, s.len, (s.flows.get .zero).length, (s.flows.get .one).length⟩

/-- What a sound scheduler shows is what its backlog shows. -/
theorem Pifo.Sound.observe_eq {V Q₀ Q₁ : Type} [SubQueue Q₀ V] [SubQueue Q₁ V]
    [SubQueue.Lawful Q₀] [SubQueue.Lawful Q₁] [LE V] [DecidableLE V] {c : Config V}
    {p : Pifo V Q₀ Q₁} (h : p.Sound c) : p.observe = p.backlog.observe := by
  rw [observe, h.len, flowLen_eq, flowLen_eq]
  rfl

/-! ## The model takes the turns of its backlog -/

namespace Model

/-- What waits in the model. -/
def backlog (m : Model) : Backlog Value := ⟨m.flows.map Queue.toList, m.hot⟩

@[simp] theorem backlog_get (m : Model) (f : Flow) :
    m.backlog.flows.get f = (m.flows.get f).toList :=
  PerFlow.get_map _ _ f

@[simp] theorem backlog_hot (m : Model) : m.backlog.hot = m.hot := rfl

theorem backlog_eq_set {m m' : Model} {f hot : Flow} {q : Queue Value}
    (hflows : m'.flows = m.flows.set f q) (hhot : m'.hot = hot) :
    m'.backlog = ⟨m.backlog.flows.set f q.toList, hot⟩ := by
  rw [backlog, hflows, hhot, PerFlow.map_set]
  rfl

theorem len_eq (m : Model) : m.len = m.backlog.len := by
  rw [len, Queue.length_eq_length_toList, Queue.length_eq_length_toList]
  rfl

theorem state_eq (m : Model) : m.state = m.backlog.observe := by
  rw [state, len_eq, Queue.length_eq_length_toList, Queue.length_eq_length_toList]
  rfl

/-- A push, read on the backlog. -/
theorem push_eq {m : Model} (hcap : m.config.flowCapacity * 2 < wordLimit) (v : Value) :
    m.push v =
      if m.backlog.len = m.config.flowCapacity * 2 then .ok (m, .overflow)
      else if (m.backlog.flows.get (m.config.classifier.classify v)).length = m.config.flowCapacity
      then .ok (m, .overflow)
      else
        let flow := m.config.classifier.classify v
        .ok ({ m with flows := m.flows.set flow ((m.flows.get flow).push v) }, .pushed) := by
  have htotal : checkedMul m.config.flowCapacity 2 = .ok (m.config.flowCapacity * 2) :=
    checkedMul_eq_ok_iff.mpr ⟨hcap, rfl⟩
  -- The model compares with the boundary where it stands; that is what the classifier does.
  simp only [push, htotal, len_eq, Queue.length_eq_length_toList, ← backlog_get]
  rfl

theorem push_eq_turn {m : Model} (hcap : m.config.flowCapacity * 2 < wordLimit) (v : Value) :
    ∃ m', m.push v = .ok (m', .ofResponse (m.backlog.turn m.config (.push v)).response) ∧
      m'.backlog = (m.backlog.turn m.config (.push v)).next ∧ m'.config = m.config := by
  rw [push_eq hcap]
  rcases Backlog.turn_push_cases m.config m.backlog v with
    ⟨hfull, hturn⟩ | ⟨hfull, hflow, hturn⟩ | ⟨hfull, hflow, hturn⟩
  · rw [if_pos hfull, hturn]
    exact ⟨m, rfl, rfl, rfl⟩
  · rw [if_neg hfull, if_pos hflow, hturn]
    exact ⟨m, rfl, rfl, rfl⟩
  · rw [if_neg hfull, if_neg hflow, hturn]
    refine ⟨_, rfl, ?_, rfl⟩
    rw [backlog_eq_set rfl rfl, Queue.toList_push, ← backlog_get]
    rfl

theorem pop_eq_turn (m : Model) :
    ∃ m', m.pop = (m', .ofResponse (m.backlog.turn m.config .pop).response) ∧
      m'.backlog = (m.backlog.turn m.config .pop).next ∧ m'.config = m.config := by
  simp only [pop, Queue.head?_eq, ← backlog_get]
  rw [← backlog_hot]
  rcases Backlog.turn_pop_cases m.config m.backlog with
    ⟨v, rest, hhot, hturn⟩ | ⟨v, rest, hhot, hother, hturn⟩ | ⟨hhot, hother, hturn⟩
  · rw [hturn, hhot]
    refine ⟨_, rfl, ?_, rfl⟩
    rw [backlog_eq_set rfl rfl, Queue.toList_tail, ← backlog_get, hhot]
    rfl
  · rw [hturn, hhot, hother]
    refine ⟨_, rfl, ?_, rfl⟩
    rw [backlog_eq_set rfl rfl, Queue.toList_tail, ← backlog_get, hother]
    rfl
  · rw [hturn, hhot, hother]
    exact ⟨m, rfl, rfl, rfl⟩

theorem peek_eq_turn (m : Model) :
    m.peek = .ofResponse (m.backlog.turn m.config .peek).response := by
  rw [Backlog.turn_peek, peek, Queue.head?_eq, Queue.head?_eq, ← backlog_get, ← backlog_get,
    ← List.head?_append, backlog_hot]
  cases m.backlog.flows.get m.hot ++ m.backlog.flows.get m.hot.other <;> rfl

/-- **The model takes the turns of its backlog.** -/
theorem apply_eq_turn {m : Model} (hcap : m.config.flowCapacity * 2 < wordLimit)
    (r : Request Value) :
    ∃ m', m.apply r = .ok (m', .ofResponse (m.backlog.turn m.config r).response) ∧
      m'.backlog = (m.backlog.turn m.config r).next ∧ m'.config = m.config := by
  cases r with
  | push v => exact push_eq_turn hcap v
  | pop =>
    obtain ⟨m', hpop, hnext, hconfig⟩ := pop_eq_turn m
    exact ⟨m', congrArg Except.ok hpop, hnext, hconfig⟩
  | peek => exact ⟨m, by rw [apply, peek_eq_turn], rfl, rfl⟩

/-- A push that the model serves shows that twice the flow capacity is a machine word. -/
theorem capacity_lt_of_push {m : Model} {v : Value} {x : Model × Result} (h : m.push v = .ok x) :
    m.config.flowCapacity * 2 < wordLimit := by
  refine Decidable.byContradiction fun hcap => ?_
  have hfault : checkedMul m.config.flowCapacity 2 = .error .mulOverflow := if_neg hcap
  rw [push, hfault] at h
  cases h

/-- **What the model can do**: whatever it serves, of whatever configuration, is a turn of its
backlog. -/
theorem turn_of_apply {m m' : Model} {r : Request Value} {result : Result}
    (h : m.apply r = .ok (m', result)) :
    result = .ofResponse (m.backlog.turn m.config r).response ∧
      m'.backlog = (m.backlog.turn m.config r).next ∧ m'.config = m.config := by
  cases r with
  | push v =>
    obtain ⟨q, hpush, hnext, hconfig⟩ := push_eq_turn (capacity_lt_of_push h) v
    obtain ⟨rfl, rfl⟩ := Prod.mk.inj (Except.ok.inj (h.symm.trans hpush))
    exact ⟨rfl, hnext, hconfig⟩
  | pop =>
    obtain ⟨q, hpop, hnext, hconfig⟩ := pop_eq_turn m
    obtain ⟨rfl, rfl⟩ := Prod.mk.inj ((Except.ok.inj h).symm.trans hpop)
    exact ⟨rfl, hnext, hconfig⟩
  | peek =>
    obtain ⟨rfl, rfl⟩ := Prod.mk.inj (Except.ok.inj h)
    exact ⟨peek_eq_turn m, rfl, rfl⟩

/-- The model runs as its backlog. -/
theorem applyAll_eq_turns {m : Model} (hcap : m.config.flowCapacity * 2 < wordLimit)
    (requests : List (Request Value)) :
    ∃ m', m.applyAll requests =
        .ok (m', (m.backlog.turns m.config requests).map (.ofResponse ·.response)) ∧
      m'.backlog = m.backlog.after m.config requests ∧ m'.config = m.config := by
  induction requests generalizing m with
  | nil => exact ⟨m, rfl, rfl, rfl⟩
  | cons r rest ih =>
    obtain ⟨m₁, happly, hnext, hconfig⟩ := apply_eq_turn hcap r
    obtain ⟨m₂, hrest, hafter, hconfig'⟩ := ih (hconfig ▸ hcap)
    rw [hnext, hconfig] at hrest hafter
    refine ⟨m₂, ?_, hafter, hconfig'.trans hconfig⟩
    rw [applyAll, happly]
    simp only [bind, Except.bind, hrest]
    rfl

end Model

/-! ## In step -/

/-- **A scheduler and a model in step**: they look alike from outside, and hold the same values in
each flow, oldest first. -/
structure Agrees (p : Pifo Value (Fifo Value) (Fifo Value)) (m : Model) : Prop where
  observe : p.observe = m.state
  queue0 : p.queue0.items.toList = m.flows.zero.toList
  queue1 : p.queue1.items.toList = m.flows.one.toList

namespace Pifo

theorem Sound.agrees {c : Config Value} {p : Pifo Value (Fifo Value) (Fifo Value)} {m : Model}
    (h : p.Sound c) (hbacklog : p.backlog = m.backlog) : Agrees p m where
  observe := by rw [h.observe_eq, m.state_eq, hbacklog]
  queue0 := congrArg (·.flows.zero) hbacklog
  queue1 := congrArg (·.flows.one) hbacklog

/-- **The scheduler refines the reference model.** From a valid configuration both are built, and
both serve every list of requests that a machine word counts. After each of the requests they have
given the same results and agree on what they show and what they hold. -/
theorem serve_refines_model {c : Config Value} (valid : c.validate = .ok ())
    (requests : List (Request Value)) (few : requests.length < wordLimit) :
    ∃ p₀, withFifos c = .ok p₀ ∧ ∀ served, served <+: requests →
      ∃ p es answers m, (serve served).run p₀ = ⟨p, es, .ok answers⟩ ∧
        (Model.ofConfig c).applyAll served = .ok (m, answers.map .ofResponse) ∧ Agrees p m := by
  obtain ⟨p₀, hbuild⟩ := exists_withFifos valid
  refine ⟨p₀, hbuild, fun served hserved => ?_⟩
  have hcap : c.flowCapacity * 2 < wordLimit := ((Config.validate_eq_ok_iff c).mp valid).2
  obtain ⟨p, es, answers, hrun, hsound, hbacklog, hanswers, -⟩ :=
    exists_run_of_build hbuild (Nat.lt_of_le_of_lt hserved.length_le few)
  obtain ⟨m, happly, hafter, -⟩ := Model.applyAll_eq_turns (m := .ofConfig c) hcap served
  refine ⟨p, es, answers, m, hrun, ?_, hsound.agrees (hbacklog.trans hafter.symm)⟩
  rw [happly, hanswers, List.map_map]
  rfl

/-- At flow capacity one with the boundary in between: an accepted push, one that its flow refuses,
one for the other flow, one that finds both flows full, a pop of each flow. -/
theorem serve_refines_model_one :
    (⟨1, 10⟩ : Config Value).validate = .ok () ∧
      ∃ p₀, withFifos (⟨1, 10⟩ : Config Value) = .ok p₀ ∧
        ∃ p es answers m,
          (serve [.push 4, .push 10, .push 11, .push 7, .pop, .pop, .peek]).run p₀ =
              ⟨p, es, .ok answers⟩ ∧
            (Model.ofConfig ⟨1, 10⟩).applyAll
                [.push 4, .push 10, .push 11, .push 7, .pop, .pop, .peek] =
              .ok (m, answers.map .ofResponse) ∧
            Agrees p m := by
  refine ⟨rfl, ?_⟩
  obtain ⟨p₀, hbuild, hserve⟩ := serve_refines_model (c := ⟨1, 10⟩) rfl
    [.push 4, .push 10, .push 11, .push 7, .pop, .pop, .peek] (by decide)
  exact ⟨p₀, hbuild, hserve _ (List.prefix_refl _)⟩

end Pifo

end TwoFlow
