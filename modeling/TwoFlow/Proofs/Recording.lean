import TwoFlow.Workload.Session

/-!
# Histories under calls in any order

A history takes two kinds of calls. An operation is invoked once and gets the next number. It may be
completed at any time after that, in between other calls, once more, or never; a completion may also
name an operation that has not been invoked, and then it is a fault. However the calls are mixed,
the history they leave can be read off them: there is one operation for each request invoked, and it
carries the last of the completions that named it since its invocation.

The counts over a history and the two lists of its answers follow from this, since they look at one
operation at a time.

## Main definitions

* `History.Call`, `History.after`: calls on a history, and the history they leave
* `History.Call.invoked`, `History.Call.latest`: the requests invoked, and the last completion of an
  operation
* `History.Written`: a history is what some calls leave

## Main results

* `History.Numbered.complete_eq`: what a completion does to a numbered history, and when it is a
  fault
* `History.Written.called`, `History.Written.after`: a call, and any calls, keep a history written
* `History.calls_leave_latest_completions`: the operations, counts and answers that calls leave
-/

namespace TwoFlow

/-! ## Sessions -/

namespace Session

variable {τ α : Type} {s : Session τ}

theorem run_onWorkload {x : Action WorkloadEvent Workload α} {s : Session τ} {w : Workload}
    {es : List WorkloadEvent} {o : Except Fault α} (h : x.run s.workload = ⟨w, es, o⟩) :
    (onWorkload x).run s = ⟨{ s with workload := w }, es, o⟩ := by
  show Step.mk { s with workload := (x.run s.workload).state } ((x.run s.workload).events.map id)
    (x.run s.workload).outcome = _
  rw [h, List.map_id]

/-- A completion that is a fault leaves the session in which it is made as it was. -/
theorem run_complete_of_fault {id : Nat} {result : Result} {observed : Observation} {e : Fault}
    (fault : s.workload.history.complete id result observed = .error e) :
    (complete id result observed).run s = ⟨s, [], .error e⟩ := by
  refine run_onWorkload (w := s.workload) ?_
  simp [fault]

end Session

/-! ## Counts -/

namespace HistoryStats

/-- **The counts of `n` operations**: each is counted once, by its command and by its result. -/
structure Totals (s : HistoryStats) (n : Nat) : Prop where
  total : s.totalOps = n
  results : s.totalOps = s.successfulOps + s.overflows + s.underflows + s.pendingOps
  commands : s.totalOps = s.pushCount + s.popCount + s.peekCount

variable {s : HistoryStats} {n : Nat}

theorem Totals.countOperation (h : s.Totals n) (op : Operation) :
    (s.countOperation op).Totals (n + 1) := by
  obtain ⟨htotal, hresults, hcommands⟩ := h
  unfold HistoryStats.countOperation
  cases op.command <;> rcases op.result? with _ | _ | v | _ | _ <;>
    constructor <;> simp only [countCommand, countResult] <;> omega

theorem Totals.foldl (h : s.Totals n) (ops : List Operation) :
    (ops.foldl HistoryStats.countOperation s).Totals (n + ops.length) := by
  induction ops generalizing s n with
  | nil => exact h
  | cons op rest ih =>
    rw [List.length_cons, Nat.add_comm rest.length, ← Nat.add_assoc]
    exact ih (h.countOperation op)

end HistoryStats

/-- The operation after a completion that names an operation by its number. -/
def Operation.settle (op : Operation) (id : Nat) (done : Completion) : Operation :=
  if op.id = id then { op with completion := some done } else op

namespace History

theorem operations_cons (op : Operation) (older : List Operation) :
    operations ⟨op :: older⟩ = operations ⟨older⟩ ++ [op] :=
  List.reverse_cons

theorem length_operations (h : History) : h.operations.length = h.len :=
  List.length_reverse

theorem totals_stats (h : History) : h.stats.Totals h.len := by
  have hstart : ({} : HistoryStats).Totals 0 := ⟨rfl, rfl, rfl⟩
  have htotals := hstart.foldl h.operations
  rw [Nat.zero_add, length_operations] at htotals
  exact htotals

/-! ## Numbered histories -/

/-- The operations are numbered from zero. -/
def Numbered (h : History) : Prop := h.operations.map (·.id) = List.range h.len

variable {h : History}

theorem Numbered.nextId_eq (numbered : h.Numbered) : h.nextId = h.len := by
  obtain ⟨_ | ⟨op, older⟩⟩ := h
  · rfl
  · -- The newest operation is the last one, so it has the last of the numbers.
    have hlen : len ⟨op :: older⟩ = older.length + 1 := rfl
    unfold Numbered at numbered
    rw [operations_cons, List.map_append, hlen, List.range_succ] at numbered
    have hlast := List.append_inj_right' numbered rfl
    exact congrArg (· + 1) (List.singleton_inj.mp hlast)

theorem Numbered.mem_iff (numbered : h.Numbered) {i : Nat} :
    i ∈ h.newestFirst.map (·.id) ↔ i < h.len := by
  have hmem : i ∈ h.operations.map (·.id) ↔ i ∈ List.range h.len := by rw [numbered]
  rw [operations, List.map_reverse, List.mem_reverse, List.mem_range] at hmem
  exact hmem

theorem Numbered.nodup (numbered : h.Numbered) : (h.newestFirst.map (·.id)).Nodup := by
  have hnodup : (h.operations.map (·.id)).Nodup := by
    rw [numbered]
    exact List.nodup_range
  rw [operations, List.map_reverse] at hnodup
  exact (List.reverse_perm _).nodup_iff.mp hnodup

/-- The operation at a place has its number. -/
theorem Numbered.id_eq (numbered : h.Numbered) {i : Nat} {op : Operation}
    (hop : h.operations[i]? = some op) : op.id = i := by
  have hid : (h.operations.map (·.id))[i]? = some op.id := by rw [List.getElem?_map, hop]; rfl
  rw [numbered] at hid
  obtain ⟨hi, hget⟩ := List.getElem?_eq_some_iff.mp hid
  rw [← hget, List.getElem_range]

/-- An invocation adds a pending operation with the next number. -/
theorem Numbered.operations_invoke (numbered : h.Numbered) (r : Request Value) :
    (h.invoke r).2.operations = h.operations ++ [⟨h.len, r, none⟩] := by
  rw [← numbered.nextId_eq]
  exact operations_cons _ _

/-- An operation is found by its number at its place. -/
theorem Numbered.get?_eq (numbered : h.Numbered) (i : Nat) : h.get? i = h.operations[i]? := by
  unfold get?
  cases hfound : h.newestFirst.find? (·.id = i) with
  | none =>
    have hnone : ¬ i < h.len := by
      rw [← numbered.mem_iff, List.mem_map]
      rintro ⟨op, hop, hid⟩
      exact absurd (decide_eq_true hid) (List.find?_eq_none.mp hfound op hop)
    rw [List.getElem?_eq_none]
    rw [length_operations]
    exact Nat.le_of_not_lt hnone
  | some op =>
    have hid : op.id = i := by simpa using List.find?_some hfound
    obtain ⟨j, hj⟩ := List.mem_iff_getElem?.mp
      (List.mem_reverse.mpr (List.mem_of_find?_eq_some hfound))
    -- Its place is its number, and that is the number looked for.
    have hplace : j = i := (numbered.id_eq hj).symm.trans hid
    rw [← hplace]
    exact hj.symm

/-! ## What a completion does -/

/-- Where no number occurs twice, a completion settles the operation with its number, and is a fault
if there is none. -/
theorem completeIn_eq {ops : List Operation} (nodup : (ops.map (·.id)).Nodup) (id : Nat)
    (done : Completion) :
    completeIn id done ops =
      if id ∈ ops.map (·.id) then .ok (ops.map (·.settle id done))
      else .error .invalidOperation := by
  induction ops with
  | nil => rfl
  | cons op older ih =>
    rw [List.map_cons, List.nodup_cons] at nodup
    obtain ⟨hnew, holder⟩ := nodup
    by_cases hid : op.id = id
    · -- The search stops here; the others have other numbers, so settling them changes nothing.
      have hkept : older.map (·.settle id done) = older := by
        refine (List.map_congr_left fun x hx => ?_).trans (List.map_id' older)
        refine if_neg fun hx' => hnew ?_
        rw [hid, ← hx']
        exact List.mem_map_of_mem hx
      rw [completeIn, if_pos hid, List.map_cons, if_pos (List.mem_cons.mpr (.inl hid.symm)),
        List.map_cons, hkept, Operation.settle, if_pos hid]
    · have hmem : id ∈ (op :: older).map (·.id) ↔ id ∈ older.map (·.id) := by
        rw [List.map_cons, List.mem_cons, or_iff_right (Ne.symm hid)]
      rw [completeIn, if_neg hid, ih holder]
      by_cases hin : id ∈ older.map (·.id)
      · rw [if_pos hin, if_pos (hmem.mpr hin), List.map_cons, Operation.settle, if_neg hid]
        rfl
      · rw [if_neg hin, if_neg (mt hmem.mp hin)]
        rfl

/-- **What a completion does to a numbered history**: it settles the operation with its number, and
is a fault if the number has not been reached. -/
theorem Numbered.complete_eq (numbered : h.Numbered) (id : Nat) (done : Completion) :
    h.complete id done.result done.observed =
      if id < h.len then .ok ⟨h.newestFirst.map (·.settle id done)⟩
      else .error .invalidOperation := by
  rw [complete, completeIn_eq numbered.nodup]
  by_cases hid : id < h.len
  · rw [if_pos hid, if_pos (numbered.mem_iff.mpr hid)]
    rfl
  · rw [if_neg hid, if_neg (mt numbered.mem_iff.mp hid)]
    rfl

theorem operations_map_settle (h : History) (id : Nat) (done : Completion) :
    operations ⟨h.newestFirst.map (·.settle id done)⟩ = h.operations.map (·.settle id done) :=
  List.map_reverse.symm

/-- **A completion changes no other operation.** -/
theorem Numbered.getElem?_settle (numbered : h.Numbered) {id i : Nat} (hi : i ≠ id)
    (done : Completion) :
    (operations ⟨h.newestFirst.map (·.settle id done)⟩)[i]? = h.operations[i]? := by
  rw [operations_map_settle, List.getElem?_map]
  cases hop : h.operations[i]? with
  | none => rfl
  | some op =>
    have hid : op.id ≠ id := by
      rw [numbered.id_eq hop]
      exact hi
    rw [Option.map_some, Operation.settle, if_neg hid]

/-! ## Calls -/

/-- A call on a history. -/
inductive Call where
  | invoke (request : Request Value)
  | complete (id : Nat) (done : Completion)
  deriving DecidableEq, Repr

/-- The history that a call leaves. A call that is a fault leaves the history as it was. -/
def called (h : History) : Call → History
  | .invoke r => (h.invoke r).2
  | .complete id done =>
    match h.complete id done.result done.observed with
    | .ok h' => h'
    | .error _ => h

/-- The history that calls leave, one after the other. -/
def after (h : History) (calls : List Call) : History := calls.foldl called h

namespace Call

/-- The requests that calls invoke, in order. -/
def invoked : List Call → List (Request Value) :=
  List.filterMap fun
    | invoke r => some r
    | complete _ _ => none

/-- The calls made since operation `i` was invoked; none if it has not been. -/
def since : Nat → List Call → List Call
  | _, [] => []
  | 0, invoke _ :: rest => rest
  | i + 1, invoke _ :: rest => since i rest
  | i, complete _ _ :: rest => since i rest

/-- The completions that name operation `i`, in order. -/
def naming (i : Nat) : List Call → List Completion :=
  List.filterMap fun
    | invoke _ => none
    | complete id done => if id = i then some done else none

/-- **The latest completion of operation `i`**: the last one that named it since it was invoked. -/
def latest (calls : List Call) (i : Nat) : Option Completion := (naming i (since i calls)).getLast?

/-- The value that operation `i` gave last, if its latest result is one. -/
def latestValue? (calls : List Call) (i : Nat) : Option Value :=
  (latest calls i).bind (·.result.value?)

variable {calls : List Call} {i : Nat}

theorem invoked_snoc_invoke (calls : List Call) (r : Request Value) :
    invoked (calls ++ [invoke r]) = invoked calls ++ [r] :=
  List.filterMap_append

theorem invoked_snoc_complete (calls : List Call) (id : Nat) (done : Completion) :
    invoked (calls ++ [complete id done]) = invoked calls :=
  List.filterMap_append.trans (List.append_nil _)

theorem naming_append (i : Nat) (calls later : List Call) :
    naming i (calls ++ later) = naming i calls ++ naming i later :=
  List.filterMap_append

theorem since_of_le (hi : (invoked calls).length ≤ i) : since i calls = [] := by
  fun_induction since i calls with
  | case1 => rfl
  | case2 r rest => exact absurd hi (Nat.not_succ_le_zero _)
  | case3 i r rest ih => exact ih (Nat.le_of_succ_le_succ hi)
  | case4 i id done rest ih => exact ih hi

theorem since_snoc_of_lt (hi : i < (invoked calls).length) (call : Call) :
    since i (calls ++ [call]) = since i calls ++ [call] := by
  fun_induction since i calls with
  | case1 => exact absurd hi (Nat.not_lt_zero _)
  | case2 r rest => rfl
  | case3 i r rest ih => exact ih (Nat.lt_of_succ_lt_succ hi)
  | case4 i id done rest ih => exact ih hi

theorem since_snoc_of_le (hi : (invoked calls).length ≤ i) (call : Call) :
    since i (calls ++ [call]) = [] := by
  fun_induction since i calls with
  | case1 i => cases call <;> cases i <;> rfl
  | case2 r rest => exact absurd hi (Nat.not_succ_le_zero _)
  | case3 i r rest ih => exact ih (Nat.le_of_succ_le_succ hi)
  | case4 i id done rest ih => exact ih hi

/-- An operation that has not been invoked has not been completed. -/
theorem latest_of_le (hi : (invoked calls).length ≤ i) : latest calls i = none := by
  rw [latest, since_of_le hi]
  rfl

/-- An invocation completes nothing. -/
theorem latest_snoc_invoke (calls : List Call) (r : Request Value) (i : Nat) :
    latest (calls ++ [invoke r]) i = latest calls i := by
  by_cases hi : i < (invoked calls).length
  · rw [latest, since_snoc_of_lt hi, naming_append]
    exact congrArg List.getLast? (List.append_nil _)
  · rw [latest_of_le (Nat.le_of_not_lt hi), latest, since_snoc_of_le (Nat.le_of_not_lt hi)]
    rfl

/-- The newest completion of an operation that has been invoked is its latest. -/
theorem latest_snoc_self (hi : i < (invoked calls).length) (done : Completion) :
    latest (calls ++ [complete i done]) i = some done := by
  have hnaming : naming i [complete i done] = [done] := by simp [naming]
  rw [latest, since_snoc_of_lt hi, naming_append, hnaming, List.getLast?_concat]

/-- A completion is none of another operation. -/
theorem latest_snoc_of_ne {id : Nat} (hid : id ≠ i) (done : Completion) :
    latest (calls ++ [complete id done]) i = latest calls i := by
  by_cases hi : i < (invoked calls).length
  · have hnaming : naming i [complete id done] = [] := by simp [naming, hid]
    rw [latest, since_snoc_of_lt hi, naming_append, hnaming, List.append_nil, latest]
  · rw [latest_of_le (Nat.le_of_not_lt hi), latest, since_snoc_of_le (Nat.le_of_not_lt hi)]
    rfl

end Call

open Call

/-! ## What calls leave -/

/-- **A history is what some calls leave**: it has an operation for each request invoked, numbered
from zero, with its latest completion. -/
def Written (calls : List Call) (h : History) : Prop :=
  h.operations = (invoked calls).mapIdx fun i r => ⟨i, r, latest calls i⟩

variable {calls : List Call}

theorem written_empty : Written [] empty := rfl

theorem Written.len_eq (written : Written calls h) : h.len = (invoked calls).length := by
  rw [← length_operations, written, List.length_mapIdx]

theorem Written.getElem?_operations (written : Written calls h) (i : Nat) :
    h.operations[i]? = (invoked calls)[i]?.map fun r => ⟨i, r, latest calls i⟩ := by
  rw [written, List.getElem?_mapIdx]

theorem Written.numbered (written : Written calls h) : h.Numbered := by
  refine List.ext_getElem? fun i => ?_
  rw [List.getElem?_map, written.getElem?_operations, Option.map_map, written.len_eq]
  by_cases hi : i < (invoked calls).length
  · rw [List.getElem?_eq_getElem hi, List.getElem?_range hi]
    rfl
  · rw [List.getElem?_eq_none (Nat.le_of_not_lt hi), List.getElem?_eq_none]
    · rfl
    · rw [List.length_range]
      exact Nat.le_of_not_lt hi

theorem Written.invoke (written : Written calls h) (r : Request Value) :
    Written (calls ++ [.invoke r]) (h.invoke r).2 := by
  -- The new operation has no completion; what the others have is not touched.
  have hnew : latest calls (invoked calls).length = none := latest_of_le (Nat.le_refl _)
  unfold Written
  simp only [latest_snoc_invoke]
  rw [written.numbered.operations_invoke, written, written.len_eq, invoked_snoc_invoke,
    List.mapIdx_concat, hnew]

/-- Settling an operation of the past is settling what the calls leave. -/
theorem Written.settle (written : Written calls h) {id : Nat} (hid : id < h.len)
    (done : Completion) :
    Written (calls ++ [.complete id done]) ⟨h.newestFirst.map (·.settle id done)⟩ := by
  unfold Written
  rw [operations_map_settle, invoked_snoc_complete]
  refine List.ext_getElem? fun i => ?_
  rw [List.getElem?_map, written.getElem?_operations, List.getElem?_mapIdx, Option.map_map]
  refine congrArg (fun f => Option.map f _) (funext fun r => ?_)
  by_cases hi : i = id
  · subst hi
    rw [latest_snoc_self (written.len_eq ▸ hid)]
    exact if_pos rfl
  · rw [latest_snoc_of_ne (Ne.symm hi)]
    exact if_neg hi

/-- A completion of an operation that was never invoked leaves no trace in what the calls say. -/
theorem Written.overlook (written : Written calls h) {id : Nat} (hid : h.len ≤ id)
    (done : Completion) : Written (calls ++ [.complete id done]) h := by
  unfold Written
  rw [invoked_snoc_complete]
  refine List.ext_getElem? fun i => ?_
  rw [written.getElem?_operations, List.getElem?_mapIdx]
  by_cases hi : i < (invoked calls).length
  · have hne : id ≠ i := by
      rw [written.len_eq] at hid
      omega
    rw [latest_snoc_of_ne hne]
  · rw [List.getElem?_eq_none (Nat.le_of_not_lt hi)]
    rfl

/-- **A call keeps a history written.** -/
theorem Written.called (written : Written calls h) (call : Call) :
    Written (calls ++ [call]) (h.called call) := by
  cases call with
  | invoke r => exact written.invoke r
  | complete id done =>
    by_cases hid : id < h.len
    · have hsettled := written.numbered.complete_eq id done
      rw [if_pos hid] at hsettled
      rw [History.called, hsettled]
      exact written.settle hid done
    · have hfault := written.numbered.complete_eq id done
      rw [if_neg hid] at hfault
      rw [History.called, hfault]
      exact written.overlook (Nat.le_of_not_lt hid) done

/-- **Any calls keep a history written.** -/
theorem Written.after {past : List Call} (written : Written past h) (calls : List Call) :
    Written (past ++ calls) (h.after calls) := by
  induction calls generalizing past h with
  | nil =>
    rw [List.append_nil]
    exact written
  | cons call rest ih =>
    rw [List.append_cons]
    exact ih (written.called call)

/-! ## Answers -/

theorem length_answerTrace (h : History) : h.answerTrace.length = h.len := by
  rw [answerTrace, List.length_map, length_operations]

/-- The answer of an operation is the value of its latest completion, or zero. -/
theorem Written.getElem?_answerTrace (written : Written calls h) {i : Nat} (hi : i < h.len) :
    h.answerTrace[i]? = some ((latestValue? calls i).getD 0) := by
  rw [written.len_eq] at hi
  rw [answerTrace, List.getElem?_map, written.getElem?_operations, List.getElem?_eq_getElem hi,
    Option.map_some, Option.map_some, latestValue?]
  cases hlatest : latest calls i with
  | none => simp [Operation.result?]
  | some done => simp [Operation.result?, Result.answer]

/-- What is picked from a list is picked place by place. -/
theorem filterMap_getElem?_range {α β : Type} (l : List α) (g : α → Option β) :
    (List.range l.length).filterMap (fun i => l[i]?.bind g) = l.filterMap g := by
  induction l with
  | nil => rfl
  | cons a l ih =>
    rw [List.length_cons, List.range_succ_eq_map, List.filterMap_cons, List.filterMap_map,
      List.filterMap_cons]
    have hrest : (List.range l.length).filterMap ((fun i => (a :: l)[i]?.bind g) ∘ Nat.succ) =
        l.filterMap g := ih
    rw [hrest]
    rfl

/-- **The answers are the trace without the places that gave no value.** -/
theorem Written.answers_eq (written : Written calls h) :
    h.answers = (List.range h.len).filterMap fun i =>
      if (latestValue? calls i).isSome then h.answerTrace[i]? else none := by
  rw [answers, ← filterMap_getElem?_range, length_operations]
  refine congrArg (fun f => List.filterMap f _) (funext fun i => ?_)
  by_cases hi : i < h.len
  · rw [written.getElem?_answerTrace hi, written.getElem?_operations]
    rw [written.len_eq] at hi
    rw [List.getElem?_eq_getElem hi, Option.map_some, Option.bind_some, latestValue?]
    cases hlatest : latest calls i with
    | none => simp [Operation.result?]
    | some done => cases hvalue : done.result.value? <;> simp [Operation.result?, hvalue]
  · -- Beyond the last operation there is nothing on either side.
    have hout := Nat.le_of_not_lt hi
    rw [List.getElem?_eq_none (length_operations h ▸ hout), latestValue?,
      latest_of_le (written.len_eq ▸ hout)]
    rfl

/-! ## Histories under any calls -/

/-- **A history under calls in any order.** Let requests be invoked and operations be completed in
any order, with completions that come late, come twice, or name an operation that was never invoked.
There is one operation for each request invoked; it is found by its number, which is its place, and
carries the result and the state of its latest completion, or neither. The next invocation adds an
operation with the next number. A completion whose number has not been reached is a fault and leaves
everything as it was; any other one succeeds and changes no other operation. Each operation is
counted once by its result and once by its command. Its place in the trace has the value of its
latest completion, or zero if that has none, and the answers are the trace at the places that have
one. -/
theorem calls_leave_latest_completions (calls : List Call) :
    ∃ h, empty.after calls = h ∧ h.len = (invoked calls).length ∧
      (∀ i op, h.operations[i]? = some op →
        op.id = i ∧ (invoked calls)[i]? = some op.request ∧
        op.result? = (latest calls i).map (·.result) ∧
        op.observed? = (latest calls i).map (·.observed)) ∧
      (∀ i, h.get? i = h.operations[i]?) ∧
      (∀ r, (h.invoke r).1 = h.len ∧
        (h.invoke r).2.operations = h.operations ++ [⟨h.len, r, none⟩]) ∧
      (∀ id result observed, h.len ≤ id →
        h.complete id result observed = .error .invalidOperation ∧
        ∀ (τ : Type) (s : Session τ), s.workload.history = h →
          (Session.complete id result observed).run s = ⟨s, [], .error .invalidOperation⟩) ∧
      (∀ id result observed, id < h.len →
        ∃ h', h.complete id result observed = .ok h' ∧ h'.len = h.len ∧
          ∀ i, i ≠ id → h'.operations[i]? = h.operations[i]?) ∧
      h.stats.totalOps = h.len ∧
      h.stats.totalOps = h.stats.successfulOps + h.stats.overflows + h.stats.underflows +
        h.stats.pendingOps ∧
      h.stats.totalOps = h.stats.pushCount + h.stats.popCount + h.stats.peekCount ∧
      h.answerTrace.length = h.len ∧
      (∀ i, i < h.len → h.answerTrace[i]? = some ((latestValue? calls i).getD 0)) ∧
      h.answers = (List.range h.len).filterMap fun i =>
        if (latestValue? calls i).isSome then h.answerTrace[i]? else none := by
  have written : Written calls (empty.after calls) := written_empty.after calls
  have numbered := written.numbered
  have totals := totals_stats (empty.after calls)
  refine ⟨_, rfl, written.len_eq, ?_, numbered.get?_eq, ?_, ?_, ?_, totals.total, totals.results,
    totals.commands, length_answerTrace _, fun i => written.getElem?_answerTrace,
    written.answers_eq⟩
  · intro i op hop
    rw [written.getElem?_operations, Option.map_eq_some_iff] at hop
    obtain ⟨r, hr, rfl⟩ := hop
    exact ⟨rfl, hr, rfl, rfl⟩
  · intro r
    exact ⟨numbered.nextId_eq, numbered.operations_invoke r⟩
  · intro id result observed hid
    have hfault := numbered.complete_eq id ⟨result, observed⟩
    rw [if_neg (Nat.not_lt.mpr hid)] at hfault
    refine ⟨hfault, ?_⟩
    intro τ s hs
    rw [← hs] at hfault
    exact Session.run_complete_of_fault hfault
  · intro id result observed hid
    have hsettled := numbered.complete_eq id ⟨result, observed⟩
    rw [if_pos hid] at hsettled
    refine ⟨_, hsettled, List.length_map _, ?_⟩
    intro i hi
    exact numbered.getElem?_settle hi _

/-- A completion before the invocation is lost, and of two completions the second one counts. -/
example :
    (empty.after [.complete 0 ⟨.value 9, ⟨.zero, 0, 0, 0⟩⟩, .invoke .pop, .invoke .peek,
      .complete 1 ⟨.underflow, ⟨.zero, 0, 0, 0⟩⟩,
      .complete 1 ⟨.value 5, ⟨.zero, 1, 1, 0⟩⟩]).answerTrace =
      [0, 5] := by decide

end History

end TwoFlow
