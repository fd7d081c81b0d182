import TwoFlow.Proofs.Refinement
import TwoFlow.Verification

/-!
# Histories of the model pass every check

A history that the reference model could have written passes all four checks. The comparison with
the model passes by definition. The other three look at the recorded results and states alone, each
with a memory of its own: the lengths, the values pending in each flow, the flow that was hot
before. Along a history of the model the pending values are those of the model and the hot flow is
its hot flow, so a check passes since a turn of a sound backlog passes it.

Nothing is asked of the configuration. Where twice the flow capacity is no machine word the model
serves no push, so it stays empty.

## Main definitions

* `Verification.Recorded`: operations that a model writes on its way from one state to another
* `Verification.Clean`: a history that passes every check
* `Model.Sound`: the invariant of the model

## Main results

* `Verification.compareAll_eq_nil_iff`: the comparison accepts exactly what the model writes
* `Verification.Recorded.clean`: what the model writes passes every check
-/

namespace TwoFlow

/-! ## The invariant of the model -/

theorem Backlog.len_turn_pop_le {V : Type} [LE V] [DecidableLE V] (c : Config V) (s : Backlog V) :
    (s.turn c .pop).next.len ≤ s.len := by
  rcases turn_pop_cases c s with
    ⟨v, rest, hhot, hturn⟩ | ⟨v, rest, -, hother, hturn⟩ | ⟨-, -, hturn⟩
  · rw [hturn, len_set_rest hhot]
    exact Nat.sub_le _ _
  · rw [hturn, len_set_rest hother]
    exact Nat.sub_le _ _
  · exact Nat.le_of_eq (by rw [hturn])

namespace Model

/-- The values of a model are in their flows and within the capacity, and a machine word counts
them. -/
structure Sound (m : Model) : Prop where
  backlog : m.backlog.Sound m.config
  len_lt : m.backlog.len < wordLimit

theorem sound_ofConfig (c : Config Value) : (ofConfig c).Sound where
  backlog := Backlog.sound_empty c
  len_lt := by
    show 0 < wordLimit
    decide

/-- A request keeps a model sound. -/
theorem Sound.apply {m m' : Model} (h : m.Sound) {r : Request Value} {result : Result}
    (happly : m.apply r = .ok (m', result)) : m'.Sound := by
  obtain ⟨-, hnext, hconfig⟩ := turn_of_apply happly
  have hsound : m'.backlog.Sound m'.config := by
    rw [hnext, hconfig]
    exact h.backlog.turn r
  refine ⟨hsound, ?_⟩
  cases r with
  | push v =>
    -- The push was served, so the capacity is a machine word, and the length is below it.
    have hle := hsound.len_le
    rw [hconfig] at hle
    exact Nat.lt_of_le_of_lt hle (capacity_lt_of_push happly)
  | pop =>
    rw [hnext]
    exact Nat.lt_of_le_of_lt (Backlog.len_turn_pop_le _ _) h.len_lt
  | peek =>
    rw [hnext]
    exact h.len_lt

theorem Sound.len_le_totalCapacity {m : Model} (h : m.Sound) :
    m.backlog.len ≤ m.config.totalCapacity := by
  have hlen := h.backlog.len_le
  have hword := h.len_lt
  unfold Config.totalCapacity
  omega

end Model

namespace Verification

/-! ## What the model writes -/

/-- **Operations that a model writes** on its way from one state to another: each is completed with
the result that the model gives and the state that it then shows. -/
inductive Recorded : Model → List Operation → Model → Prop
  | nil (m : Model) : Recorded m [] m
  | cons {m m₁ m₂ : Model} {op : Operation} {rest : List Operation} {result : Result}
    (served : m.apply op.request = .ok (m₁, result))
    (completed : op.completion = some ⟨result, m₁.state⟩) (later : Recorded m₁ rest m₂) :
    Recorded m (op :: rest) m₂

theorem Recorded.append {m m₁ m₂ : Model} {ops ops' : List Operation} (h : Recorded m ops m₁)
    (h' : Recorded m₁ ops' m₂) : Recorded m (ops ++ ops') m₂ := by
  induction h with
  | nil m => exact h'
  | cons served completed _ ih => exact .cons served completed (ih h')

theorem result?_of_completion {op : Operation} {result : Result} {state : Observation}
    (h : op.completion = some ⟨result, state⟩) : op.result? = some result := by
  rw [Operation.result?, h]
  rfl

theorem observed?_of_completion {op : Operation} {result : Result} {state : Observation}
    (h : op.completion = some ⟨result, state⟩) : op.observed? = some state := by
  rw [Operation.observed?, h]
  rfl

theorem compare_eq_nil_iff {op : Operation} {expected : Result} {state : Observation} :
    compare op expected state = [] ↔ op.completion = some ⟨expected, state⟩ := by
  cases h : op.completion with
  | none => simp [compare, h]
  | some done =>
    obtain ⟨result, observed⟩ := done
    simp only [compare, h, List.append_eq_nil_iff, ite_eq_left_iff, List.cons_ne_self, imp_false,
      Decidable.not_not, Option.some.injEq, Completion.mk.injEq]
    exact ⟨fun h => ⟨h.1.symm, h.2.symm⟩, fun h => ⟨h.1.symm, h.2.symm⟩⟩

/-- **The comparison accepts exactly what the model writes.** -/
theorem compareAll_eq_nil_iff {m : Model} {ops : List Operation} :
    compareAll m ops = .ok [] ↔ ∃ m', Recorded m ops m' := by
  induction ops generalizing m with
  | nil => exact ⟨fun _ => ⟨m, .nil m⟩, fun _ => rfl⟩
  | cons op rest ih =>
    constructor
    · intro h
      cases happly : m.apply op.request with
      | error e =>
        rw [compareAll, happly] at h
        cases h
      | ok x =>
        obtain ⟨m₁, result⟩ := x
        rw [compareAll, happly] at h
        cases hrest : compareAll m₁ rest with
        | error e =>
          simp only [bind, Except.bind, hrest] at h
          cases h
        | ok found =>
          simp only [bind, Except.bind, hrest, pure, Except.pure, Except.ok.injEq,
            List.append_eq_nil_iff] at h
          obtain ⟨hcompare, rfl⟩ := h
          obtain ⟨m₂, later⟩ := ih.mp hrest
          exact ⟨m₂, .cons happly (compare_eq_nil_iff.mp hcompare) later⟩
    · rintro ⟨m₂, h⟩
      cases h with
      | cons served completed later =>
        simp only [compareAll, served, compare_eq_nil_iff.mpr completed, bind, Except.bind,
          ih.mpr ⟨m₂, later⟩]
        rfl

/-! ## Lengths -/

theorem checkLengths_eq_nil {m : Model} (h : m.Sound) {op : Operation}
    (hstate : op.observed? = some m.state) : checkLengths m.config.totalCapacity op = .ok [] := by
  have hsum : checkedAdd m.state.flow0Len m.state.flow1Len = .ok m.state.len := by
    rw [m.state_eq]
    exact checkedAdd_eq_ok_iff.mpr ⟨h.len_lt, rfl⟩
  have hcap : ¬ m.config.totalCapacity < m.state.len := by
    rw [m.state_eq]
    exact Nat.not_lt.mpr h.len_le_totalCapacity
  simp only [checkLengths, hstate, hsum, hcap, bind, Except.bind, if_true, if_false]
  rfl

theorem Recorded.checkAllLengths_eq_nil {m m' : Model} {ops : List Operation}
    (h : Recorded m ops m') (hsound : m.Sound) :
    checkAllLengths m.config.totalCapacity ops = .ok [] := by
  induction h with
  | nil m => rfl
  | @cons m m₁ m₂ op rest result served completed later ih =>
    have hstate := observed?_of_completion completed
    have hsound₁ := hsound.apply served
    have hconfig : m₁.config = m.config := (Model.turn_of_apply served).2.2
    rw [← hconfig]
    simp only [checkAllLengths, checkLengths_eq_nil hsound₁ hstate, ih hsound₁, bind, Except.bind]
    rfl

/-! ## Order within a flow -/

/-- The queues of pending values hold what waits in the backlog. -/
def Pending (pending : PerFlow (Queue Value)) (s : Backlog Value) : Prop :=
  ∀ f, (pending.get f).toList = s.flows.get f

theorem Pending.set {pending : PerFlow (Queue Value)} {s : Backlog Value} (h : Pending pending s)
    (f hot : Flow) {q : Queue Value} {l : List Value} (hq : q.toList = l) :
    Pending (pending.set f q) ⟨s.flows.set f l, hot⟩ := by
  intro g
  by_cases hg : g = f
  · rw [hg, PerFlow.get_set_self, PerFlow.get_set_self, hq]
  · rw [PerFlow.get_set_of_ne _ _ hg, PerFlow.get_set_of_ne _ _ hg, h g]

/-- A flow whose oldest value is given has it pending as its oldest. -/
theorem Pending.head? {pending : PerFlow (Queue Value)} {s : Backlog Value} (h : Pending pending s)
    {c : Config Value} (hs : s.Sound c) {f : Flow} {v : Value} {rest : List Value}
    (hf : s.flows.get f = v :: rest) :
    c.classifier.classify v = f ∧ (pending.get f).head? = some v := by
  refine ⟨hs.classify_eq f v (hf ▸ List.mem_cons_self), ?_⟩
  rw [Queue.head?_eq, h f, hf]
  rfl

/-- **The order of a turn**: nothing is reported, and what is pending afterwards is what waits. -/
theorem checkOrder_turn {c : Config Value} {s : Backlog Value} (hs : s.Sound c) {op : Operation}
    (hresult : op.result? = some (.ofResponse (s.turn c op.request).response))
    {pending : PerFlow (Queue Value)} (hp : Pending pending s) :
    ∃ pending', Pending pending' (s.turn c op.request).next ∧ ∀ rest,
      checkOrder c.classifier pending (op :: rest) = checkOrder c.classifier pending' rest := by
  obtain ⟨id, r, completion⟩ := op
  dsimp only at hresult ⊢
  cases r with
  | push v =>
    rcases Backlog.turn_push_cases c s v with ⟨-, hturn⟩ | ⟨-, -, hturn⟩ | ⟨-, -, hturn⟩ <;>
      rw [hturn] at hresult ⊢
    · exact ⟨pending, hp, fun rest => by simp only [checkOrder, hresult, Result.ofResponse]⟩
    · exact ⟨pending, hp, fun rest => by simp only [checkOrder, hresult, Result.ofResponse]⟩
    · refine ⟨pending.set (c.classifier.classify v)
        ((pending.get (c.classifier.classify v)).push v), hp.set _ _ ?_, fun rest => ?_⟩
      · rw [Queue.toList_push, hp]
      · simp only [checkOrder, hresult, Result.ofResponse]
  | pop =>
    -- The value popped is of the flow that had it, and it is the oldest one pending there.
    rcases Backlog.turn_pop_cases c s with
      ⟨v, rest, hhot, hturn⟩ | ⟨v, rest, -, hother, hturn⟩ | ⟨-, -, hturn⟩ <;>
      rw [hturn] at hresult ⊢
    · obtain ⟨hclass, hhead⟩ := hp.head? hs hhot
      refine ⟨pending.set s.hot (pending.get s.hot).tail, hp.set _ _ ?_, fun rest => ?_⟩
      · rw [Queue.toList_tail, hp, hhot, List.tail_cons]
      · simp only [checkOrder, hresult, Result.ofResponse, hclass, hhead, if_true]
    · obtain ⟨hclass, hhead⟩ := hp.head? hs hother
      refine ⟨pending.set s.hot.other (pending.get s.hot.other).tail, hp.set _ _ ?_, fun rest => ?_⟩
      · rw [Queue.toList_tail, hp, hother, List.tail_cons]
      · simp only [checkOrder, hresult, Result.ofResponse, hclass, hhead, if_true]
    · exact ⟨pending, hp, fun rest => by simp only [checkOrder, hresult, Result.ofResponse]⟩
  | peek =>
    refine ⟨pending, hp, fun rest => ?_⟩
    rw [Backlog.turn_peek] at hresult
    -- A peek shows what a pop would hand out, and takes nothing off.
    rcases hhot : s.flows.get s.hot with _ | ⟨v, others⟩
    · rcases hother : s.flows.get s.hot.other with _ | ⟨v, others⟩
      · simp only [hhot, hother, List.nil_append, Answer.ofHead_nil, Except.map,
          Result.ofResponse] at hresult
        simp only [checkOrder, hresult]
      · obtain ⟨hclass, hhead⟩ := hp.head? hs hother
        simp only [hhot, hother, List.nil_append, Answer.ofHead_cons, Except.map,
          Result.ofResponse] at hresult
        simp only [checkOrder, hresult, hclass, hhead, if_true]
    · obtain ⟨hclass, hhead⟩ := hp.head? hs hhot
      simp only [hhot, List.cons_append, Answer.ofHead_cons, Except.map,
        Result.ofResponse] at hresult
      simp only [checkOrder, hresult, hclass, hhead, if_true]

theorem Recorded.checkOrder_eq_nil {m m' : Model} {ops : List Operation} (h : Recorded m ops m')
    (hsound : m.Sound) {pending : PerFlow (Queue Value)} (hp : Pending pending m.backlog) :
    checkOrder m.config.classifier pending ops = [] := by
  induction h generalizing pending with
  | nil m => rfl
  | @cons m m₁ m₂ op rest result served completed later ih =>
    obtain ⟨hresult, hnext, hconfig⟩ := Model.turn_of_apply served
    have hdone := result?_of_completion completed
    obtain ⟨pending', hp', hstep⟩ := checkOrder_turn hsound.backlog (hresult ▸ hdone) hp
    rw [← hnext] at hp'
    rw [hstep, ← hconfig]
    exact ih (hsound.apply served) hp'

/-! ## The hot flow -/

/-- **The hot flow over a turn** stays, or moves to the other flow on a pop that succeeded. -/
theorem mayMove_turn (c : Config Value) (s : Backlog Value) {op : Operation}
    (hresult : op.result? = some (.ofResponse (s.turn c op.request).response)) :
    mayMove op s.hot (s.turn c op.request).next.hot = true := by
  obtain ⟨id, r, completion⟩ := op
  dsimp only at hresult ⊢
  cases r with
  | push v =>
    have hstays : (s.turn c (.push v)).next.hot = s.hot := by
      rcases Backlog.turn_push_cases c s v with ⟨-, hturn⟩ | ⟨-, -, hturn⟩ | ⟨-, -, hturn⟩ <;>
        rw [hturn]
    simp [mayMove, hstays]
  | pop =>
    rcases Backlog.turn_pop_cases c s with
      ⟨v, rest, -, hturn⟩ | ⟨v, rest, -, -, hturn⟩ | ⟨-, -, hturn⟩ <;> rw [hturn] at hresult ⊢
    · simp [mayMove, Operation.command, Request.command, Operation.isOk, hresult, Result.ofResponse,
        Result.isOk]
    · simp [mayMove]
    · simp [mayMove]
  | peek => simp [mayMove, Backlog.turn_peek]

theorem Recorded.checkHot_eq_nil {m m' : Model} {ops : List Operation} (h : Recorded m ops m') :
    checkHot m.hot ops = [] := by
  induction h with
  | nil m => rfl
  | @cons m m₁ m₂ op rest result served completed later ih =>
    obtain ⟨hresult, hnext, -⟩ := Model.turn_of_apply served
    have hdone := result?_of_completion completed
    have hstate := observed?_of_completion completed
    have hmove : mayMove op m.hot m₁.state.hot = true := by
      have hturn := mayMove_turn m.config m.backlog (hresult ▸ hdone)
      rw [← hnext] at hturn
      exact hturn
    simp only [checkHot, hstate, hmove, if_true, List.nil_append]
    exact ih

/-! ## All checks -/

/-- **A history that passes every check.** -/
structure Clean (c : Config Value) (h : History) : Prop where
  againstModel : againstModel c h = .ok []
  bookkeeping : bookkeeping c h = .ok []
  fifoPerFlow : fifoPerFlow c h = []
  hotMoves : hotMoves h = []

theorem Clean.verify {c : Config Value} {h : History} (hclean : Clean c h) :
    verify c h = .ok [] := by
  simp only [Verification.verify, hclean.againstModel, hclean.bookkeeping, hclean.fifoPerFlow,
    hclean.hotMoves, bind, Except.bind]
  rfl

/-- **What the model writes passes every check.** -/
theorem Recorded.clean {c : Config Value} {h : History} {m : Model}
    (hrec : Recorded (.ofConfig c) h.operations m) : Clean c h where
  againstModel := compareAll_eq_nil_iff.mpr ⟨m, hrec⟩
  bookkeeping := hrec.checkAllLengths_eq_nil (Model.sound_ofConfig c)
  fifoPerFlow := hrec.checkOrder_eq_nil (Model.sound_ofConfig c) fun f => by cases f <;> rfl
  hotMoves := hrec.checkHot_eq_nil

end Verification

end TwoFlow
