import TwoFlow.Proofs.Replay

/-!
# What the comparison with the model tells

The comparison replays the requests of a history on the reference model and never looks back at what
was recorded, so a wrong record is charged to its own operation and to no other one.

Two things follow. A history with which the comparison finds nothing wrong is one that the model has
written, whatever the configuration, and the other three checks find nothing wrong with it either.
And if the record of a true run is altered, at any number of places at once, the comparison names
these places: it reports each of them as it was altered, beside what had been recorded first.

## Main definitions

* `Alteration`, `History.alter`: what is done to the record of an operation, and to that of a
  history
* `Operation.faults`: what is to be reported of an altered operation
* `History.Filed`: the operations of some requests, numbered in order and all completed

## Main results

* `Verification.checks_of_againstModel`: what passes the comparison passes every check
* `Verification.Recorded.compareAll_alter`: an alteration shows where it was made and nowhere else
* `Session.filed_of_replay`: a replay files its requests
* `Verification.againstModel_alter_replay`: the faults of an altered replay are located
-/

namespace TwoFlow

/-! ## The comparison is the strictest check -/

namespace Verification

/-- What the model writes is complete. -/
theorem Recorded.completed {m m' : Model} {ops : List Operation} (h : Recorded m ops m') :
    ∀ op ∈ ops, op.completion ≠ none := by
  induction h with
  | nil m =>
    intro op hop
    cases hop
  | cons served completed later ih =>
    intro op hop
    rcases List.mem_cons.mp hop with rfl | hop
    · rw [completed]
      exact Option.some_ne_none _
    · exact ih op hop

/-- **What passes the comparison passes every check.** Let the configuration be any one, valid or
not, and the history any one, with whatever results, states and incomplete operations. If the
comparison with the model ends and reports nothing, then every operation is complete, the other
three checks end and report nothing, and so does the verification as a whole. -/
theorem checks_of_againstModel {c : Config Value} {h : History}
    (passed : againstModel c h = .ok []) :
    (∀ op ∈ h.operations, op.completion ≠ none) ∧ bookkeeping c h = .ok [] ∧
      fifoPerFlow c h = [] ∧ hotMoves h = [] ∧ verify c h = .ok [] := by
  obtain ⟨m, hrecorded⟩ := compareAll_eq_nil_iff.mp passed
  have hclean : Clean c h := hrecorded.clean
  exact ⟨hrecorded.completed, hclean.bookkeeping, hclean.fifoPerFlow, hclean.hotMoves,
    hclean.verify⟩

/-- A history of a valid configuration, with a pop of each flow, and one of a configuration whose
capacity is no machine word. -/
theorem checks_of_againstModel_large :
    againstModel ⟨1, 10⟩
        ⟨[⟨3, .pop, some ⟨.value 11, ⟨.zero, 0, 0, 0⟩⟩⟩,
          ⟨2, .pop, some ⟨.value 4, ⟨.one, 1, 0, 1⟩⟩⟩,
          ⟨1, .push 11, some ⟨.pushed, ⟨.zero, 2, 1, 1⟩⟩⟩,
          ⟨0, .push 4, some ⟨.pushed, ⟨.zero, 1, 1, 0⟩⟩⟩]⟩ = .ok [] ∧
      verify ⟨1, 10⟩
        ⟨[⟨3, .pop, some ⟨.value 11, ⟨.zero, 0, 0, 0⟩⟩⟩,
          ⟨2, .pop, some ⟨.value 4, ⟨.one, 1, 0, 1⟩⟩⟩,
          ⟨1, .push 11, some ⟨.pushed, ⟨.zero, 2, 1, 1⟩⟩⟩,
          ⟨0, .push 4, some ⟨.pushed, ⟨.zero, 1, 1, 0⟩⟩⟩]⟩ = .ok [] ∧
      againstModel ⟨9223372036854775808, 10⟩
        ⟨[⟨0, .pop, some ⟨.underflow, ⟨.zero, 0, 0, 0⟩⟩⟩]⟩ = .ok [] ∧
      verify ⟨9223372036854775808, 10⟩
        ⟨[⟨0, .pop, some ⟨.underflow, ⟨.zero, 0, 0, 0⟩⟩⟩]⟩ = .ok [] :=
  ⟨rfl, (checks_of_againstModel rfl).2.2.2.2, rfl, (checks_of_againstModel rfl).2.2.2.2⟩

end Verification

/-! ## Alterations -/

/-- What is done to the record of an operation. -/
inductive Alteration where
  /-- The operation is left incomplete. -/
  | strike
  /-- The result, the state observed, or both are replaced by the given ones. -/
  | replace (result : Option Result) (observed : Option Observation)

namespace Operation

/-- The operation with its record altered. -/
def alter (op : Operation) : Alteration → Operation
  | .strike => { op with completion := none }
  | .replace result observed =>
    { op with completion := op.completion.map fun done =>
        ⟨result.getD done.result, observed.getD done.observed⟩ }

/-- **What is to be reported of an altered operation**: that it is incomplete, or one mismatch for a
result and one for a state that have been replaced by other ones, each with what was recorded
first. -/
def faults (op : Operation) : Alteration → List Violation
  | .strike => [.incomplete op.id]
  | .replace result observed =>
    match op.completion with
    | none => [.incomplete op.id]
    | some done =>
      ((result.filter (· ≠ done.result)).map
          (.resultMismatch op.id op.command done.result)).toList ++
        ((observed.filter (· ≠ done.observed)).map
          (.stateMismatch op.id done.observed)).toList

end Operation

/-- The history with its records altered, each as is said for the number of its operation. -/
def History.alter (h : History) (alterations : Nat → Alteration) : History :=
  ⟨h.newestFirst.map fun op => op.alter (alterations op.id)⟩

theorem History.operations_alter (h : History) (alterations : Nat → Alteration) :
    (h.alter alterations).operations =
      h.operations.map fun op => op.alter (alterations op.id) := by
  unfold operations alter
  rw [List.map_reverse]

namespace Verification

/-- Something is reported of a part exactly if it has been replaced, and by another one. -/
theorem report_getD {α β : Type} [DecidableEq α] (first : α) (replaced : Option α)
    (report : α → β) :
    (if first = replaced.getD first then [] else [report (replaced.getD first)]) =
      ((replaced.filter (· ≠ first)).map report).toList := by
  cases replaced with
  | none => simp
  | some now =>
    by_cases h : first = now
    · simp [h]
    · have hother : decide (now ≠ first) = true := decide_eq_true (Ne.symm h)
      simp only [Option.getD_some, h, if_false, Option.filter_some, hother, if_true]
      rfl

/-- An altered operation is compared with what it was. -/
theorem compare_alter {op : Operation} {result : Result} {state : Observation}
    (completed : op.completion = some ⟨result, state⟩) (a : Alteration) :
    compare (op.alter a) result state = op.faults a := by
  cases a with
  | strike => rfl
  | replace result' observed =>
    simp only [Operation.alter, Operation.faults, compare, completed, Option.map_some]
    rw [← report_getD result result', ← report_getD state observed]
    rfl

/-- **An alteration shows where it was made and nowhere else.** What the model has written is
altered; the comparison reports of each operation what was done to it. -/
theorem Recorded.compareAll_alter {m m' : Model} {ops : List Operation} (h : Recorded m ops m')
    (alterations : Nat → Alteration) :
    compareAll m (ops.map fun op => op.alter (alterations op.id)) =
      .ok (ops.flatMap fun op => op.faults (alterations op.id)) := by
  induction h with
  | nil m => rfl
  | @cons m m₁ m₂ op rest result served completed later ih =>
    -- The model is asked the request, which no alteration touches.
    have happly : m.apply (op.alter (alterations op.id)).request = .ok (m₁, result) := by
      cases alterations op.id <;> exact served
    rw [List.map_cons, List.flatMap_cons, compareAll, happly]
    simp only [bind, Except.bind, ih, compare_alter completed]
    rfl

end Verification

/-! ## What a replay files -/

/-- **The operations of some requests**: there is one for each request, in order; they are numbered
from zero, and all of them are completed. -/
structure History.Filed (h : History) (requests : List (Request Value)) : Prop where
  request_eq : h.operations.map (·.request) = requests
  id_eq : h.operations.map (·.id) = List.range requests.length
  completed : ∀ op ∈ h.operations, op.completion ≠ none

namespace History

theorem filed_empty : empty.Filed [] where
  request_eq := rfl
  id_eq := rfl
  completed := nofun

theorem Filed.len_eq {h : History} {requests : List (Request Value)} (filed : h.Filed requests) :
    h.len = requests.length := by
  rw [← filed.request_eq, List.length_map, length_operations]

/-- The next number is the number of the requests so far. -/
theorem Filed.nextId_eq {h : History} {requests : List (Request Value)} (filed : h.Filed requests) :
    h.nextId = requests.length := by
  have numbered : h.Numbered := by
    rw [Numbered, filed.len_eq]
    exact filed.id_eq
  rw [numbered.nextId_eq, filed.len_eq]

/-- A request is filed after others. -/
theorem Filed.snoc {h : History} {requests : List (Request Value)} (filed : h.Filed requests)
    (r : Request Value) (done : Completion) :
    Filed ⟨⟨h.nextId, r, some done⟩ :: h.newestFirst⟩ (requests ++ [r]) where
  request_eq := by
    rw [operations_cons, List.map_append]
    exact congrArg (· ++ [r]) filed.request_eq
  id_eq := by
    rw [operations_cons, List.map_append, List.length_append, List.length_singleton,
      List.range_succ, ← filed.nextId_eq]
    rw [filed.nextId_eq, ← filed.id_eq, ← filed.nextId_eq]
    rfl
  completed := by
    rw [operations_cons]
    intro op hop
    rcases List.mem_append.mp hop with hop | hop
    · exact filed.completed op hop
    · rw [List.mem_singleton.mp hop]
      exact Option.some_ne_none done

end History

namespace Session

variable {τ : Type} [Target τ] {s s' : Session τ} {es : List WorkloadEvent}

/-- A request that returns is filed, whatever the target. -/
theorem filed_of_replayOne {filed : List (Request Value)} (h : s.workload.history.Filed filed)
    {r : Request Value} {tally tally' : Tally}
    (returned : (replayOne tally r).run s = ⟨s', es, .ok tally'⟩) :
    s'.workload.history.Filed (filed ++ [r]) := by
  obtain ⟨t, es₁, a, observed, -, rfl, -⟩ := exists_of_replayOne returned
  exact h.snoc r ⟨.ofResponse a, observed⟩

/-- Requests that return are filed. -/
theorem filed_of_replayAll {filed requests : List (Request Value)}
    (h : s.workload.history.Filed filed) {tally tally' : Tally}
    (returned : (replayAll tally requests).run s = ⟨s', es, .ok tally'⟩) :
    s'.workload.history.Filed (filed ++ requests) := by
  induction requests generalizing s filed tally es with
  | nil =>
    cases returned
    rw [List.append_nil]
    exact h
  | cons r rest ih =>
    obtain ⟨s₁, es₁, tally₁, es₂, hone, hrest, -⟩ := Action.exists_of_run_bind returned
    rw [List.append_cons]
    exact ih (filed_of_replayOne h hone) hrest

/-- **A replay that returns files its requests**, after those already filed. -/
theorem filed_of_replay {filed requests : List (Request Value)}
    (h : s.workload.history.Filed filed) {summary : Summary}
    (returned : (replay requests).run s = ⟨s', es, .ok summary⟩) :
    s'.workload.history.Filed (filed ++ requests) := by
  obtain ⟨es₁, hall, -⟩ := exists_of_replay returned
  exact filed_of_replayAll h hall

end Session

namespace Verification

/-- **The faults of an altered replay are located.** Requests are replayed from the start on a
scheduler over the stock queues of a valid configuration; the replay returns and files them. Let
what it filed then be altered in any way, at any places. The comparison ends, and what it reports
is, in the order of the requests, what was done to each of them: nothing where nothing was
changed. -/
theorem againstModel_alter_replay {c : WorkloadConfig} (valid : c.pifo.validate = .ok ())
    (requests : List (Request Value)) (few : requests.length < wordLimit) :
    ∃ p s es summary, Pifo.withFifos c.pifo = .ok p ∧
      (Session.replay requests).run ⟨.ofConfig c, p⟩ = ⟨s, es, .ok summary⟩ ∧
      s.workload.history.Filed requests ∧
      ∀ alterations, againstModel c.pifo (s.workload.history.alter alterations) =
        .ok (s.workload.history.operations.flatMap fun op => op.faults (alterations op.id)) := by
  obtain ⟨p, built⟩ := Pifo.exists_withFifos valid
  obtain ⟨s, m, es, summary, hreplay, -, hstep, -⟩ :=
    (Session.inStep_of_withFifos (t := p) built few).exists_replay
  refine ⟨p, s, es, summary, built, hreplay, ?_, fun alterations => ?_⟩
  · exact Session.filed_of_replay History.filed_empty hreplay
  · rw [againstModel, History.operations_alter]
    exact hstep.recorded.compareAll_alter alterations

/-- Of four requests the second is struck, the third has both parts replaced and the fourth one of
them. -/
theorem againstModel_alter_replay_four :
    ∃ p s es summary, Pifo.withFifos (⟨1, 10⟩ : Config Value) = .ok p ∧
      (Session.replay [.push 4, .push 11, .pop, .pop]).run ⟨.ofConfig { pifo := ⟨1, 10⟩ }, p⟩ =
        ⟨s, es, .ok summary⟩ ∧
      againstModel ⟨1, 10⟩ (s.workload.history.alter fun
        | 1 => .strike
        | 2 => .replace (some (.value 11)) (some ⟨.zero, 1, 1, 0⟩)
        | 3 => .replace (some .underflow) none
        | _ => .replace none none) =
      .ok [.incomplete 1, .resultMismatch 2 .pop (.value 4) (.value 11),
        .stateMismatch 2 ⟨.one, 1, 0, 1⟩ ⟨.zero, 1, 1, 0⟩,
        .resultMismatch 3 .pop (.value 11) .underflow] := by
  obtain ⟨p, s, es, summary, built, hreplay, -, hfaults⟩ :=
    againstModel_alter_replay (c := { pifo := ⟨1, 10⟩ }) rfl [.push 4, .push 11, .pop, .pop]
      (by decide)
  refine ⟨p, s, es, summary, built, hreplay, ?_⟩
  cases built
  have hstate : _ = s := congrArg Step.state hreplay
  rw [hfaults, ← hstate]
  rfl

end Verification

end TwoFlow
