import TwoFlow.Proofs.Conservation
import TwoFlow.Verification

/-!
# The order check decides the index law

The check of the order within each flow goes through a history with a queue of pending values for
each flow. It takes a value off when a pop hands it out in order, and leaves the queue alone when it
reports a value. What it decides can be said without any queue: a value that an operation gives is
the one that its flow has taken in at the position given by the number of values handed out before.

Nothing is asked of the history. Operations may have no result, or a result of another kind than
their request; values may repeat, and may be given without ever having been taken in. The law and
the check agree on all of them since the queue is needed only as long as nothing has been reported:
up to there, what a flow has taken in is what it has handed out followed by what is pending. From
the first report on both sides are false.

## Main definitions

* `Operation.taken?`, `Operation.handed?`, `Operation.given?`: the value that an operation took in,
  handed out, and gave at all
* `Verification.InOrder`, `Verification.Ordered`: the index law of an operation, and of each one of
  a list
* `Verification.Outstanding`: the queues hold what was taken in and not handed out

## Main results

* `Verification.Outstanding.inOrder_iff`: the law of an operation, by the queues
* `Verification.Outstanding.checkOrder_eq_nil_iff`: the check finds nothing exactly if the law holds
* `Verification.fifoPerFlow_decides_index_law`: the same of a history
-/

namespace TwoFlow

/-! ## The values of an operation -/

namespace Operation

/-- The value that the operation took in: that of a push recorded as accepted. -/
def taken? (op : Operation) : Option Value :=
  match op.request, op.result? with
  | .push v, some .pushed => some v
  | _, _ => none

/-- The value that the operation handed out: the one that a pop is recorded with. -/
def handed? (op : Operation) : Option Value :=
  match op.request, op.result? with
  | .pop, some (.value v) => some v
  | _, _ => none

/-- The value that the operation gave: the one that a pop or a peek is recorded with. -/
def given? (op : Operation) : Option Value :=
  match op.request, op.result? with
  | .pop, some (.value v) => some v
  | .peek, some (.value v) => some v
  | _, _ => none

end Operation

namespace Verification

open Operation

variable {classifier : Classifier Value} {before rest : List Operation} {op : Operation}
  {pending : PerFlow (Queue Value)} {f : Flow} {v : Value}

/-! ## The index law -/

/-- **The index law of an operation** after others: a value that it gives is the one of its flow
that was taken in at position `k`, where `k` values of the flow were handed out before. -/
def InOrder (classifier : Classifier Value) (before : List Operation) (op : Operation) : Prop :=
  ∀ v f, op.given? = some v → classifier.classify v = f →
    (classifier.ofFlow f (before.filterMap taken?))[
      (before.filterMap handed?).countP (classifier.classify · = f)]? = some v

/-- The law asks nothing of an operation that gives nothing. -/
theorem inOrder_of_given_eq_none (given : op.given? = none) : InOrder classifier before op := by
  intro v f hv
  simp [given] at hv

/-- The index law of each of some operations, where others came before them. -/
def Ordered (classifier : Classifier Value) (before ops : List Operation) : Prop :=
  ∀ i op, ops[i]? = some op → InOrder classifier (before ++ ops.take i) op

theorem ordered_nil : Ordered classifier before [] := by
  intro i op hop
  simp at hop

theorem ordered_cons_iff :
    Ordered classifier before (op :: rest) ↔
      InOrder classifier before op ∧ Ordered classifier (before ++ [op]) rest := by
  constructor
  · intro h
    constructor
    · simpa using h 0 op rfl
    · intro i x hx
      simpa using h (i + 1) x hx
  · rintro ⟨hop, hrest⟩ i x hx
    cases i with
    | zero =>
      obtain rfl : op = x := by simpa using hx
      simpa using hop
    | succ i =>
      simpa using hrest i x (by simpa using hx)

/-! ## What is outstanding -/

/-- **The queues hold what is outstanding**: what a flow has taken in is what it has handed out,
followed by what is pending. -/
def Outstanding (classifier : Classifier Value) (before : List Operation)
    (pending : PerFlow (Queue Value)) : Prop :=
  ∀ f, classifier.ofFlow f (before.filterMap taken?) =
    classifier.ofFlow f (before.filterMap handed?) ++ (pending.get f).toList

theorem outstanding_nil : Outstanding classifier [] (.both .empty) := by
  intro f
  simp

/-- **The index law by the queues**: the value is the oldest one pending in its flow. -/
theorem Outstanding.inOrder_iff (h : Outstanding classifier before pending) :
    InOrder classifier before op ↔
      ∀ v, op.given? = some v → (pending.get (classifier.classify v)).head? = some v := by
  -- At the position of the law, what was handed out ends and what is pending begins.
  have hindex : ∀ f, (classifier.ofFlow f (before.filterMap taken?))[
      (before.filterMap handed?).countP (classifier.classify · = f)]? = (pending.get f).head? := by
    intro f
    rw [h f, List.countP_eq_length_filter, Queue.head?_eq, List.head?_eq_getElem?]
    exact (List.getElem?_append_right (Nat.le_refl _)).trans
      (by rw [Classifier.ofFlow, Nat.sub_self])
  constructor
  · intro hop v hv
    rw [← hindex]
    exact hop v _ hv rfl
  · rintro hop v _ hv rfl
    rw [hindex]
    exact hop v hv

theorem Outstanding.inOrder_iff_of_given (h : Outstanding classifier before pending)
    (given : op.given? = some v) :
    InOrder classifier before op ↔ (pending.get (classifier.classify v)).head? = some v := by
  rw [h.inOrder_iff]
  constructor
  · intro hop
    exact hop v given
  · intro holdest w hw
    obtain rfl : v = w := Option.some.inj (given.symm.trans hw)
    exact holdest

/-- What was taken in, with one more operation. -/
theorem Outstanding.snoc (h : Outstanding classifier before pending) (op : Operation) (f : Flow) :
    classifier.ofFlow f ((before ++ [op]).filterMap taken?) =
      classifier.ofFlow f (before.filterMap handed?) ++ (pending.get f).toList ++
        classifier.ofFlow f op.taken?.toList := by
  rw [List.filterMap_append, Classifier.ofFlow_append, h f]
  cases htaken : op.taken? <;> simp [htaken]

/-- An operation that neither took in nor handed out a value leaves the queues as they are. -/
theorem Outstanding.idle (h : Outstanding classifier before pending) (taken : op.taken? = none)
    (handed : op.handed? = none) : Outstanding classifier (before ++ [op]) pending := by
  intro f
  rw [h.snoc, taken, List.filterMap_append]
  simp [handed]

/-- A value that was taken in is the newest one pending in its flow. -/
theorem Outstanding.push (h : Outstanding classifier before pending) (taken : op.taken? = some v)
    (handed : op.handed? = none) :
    Outstanding classifier (before ++ [op]) (pending.set (classifier.classify v)
      ((pending.get (classifier.classify v)).push v)) := by
  intro f
  rw [h.snoc, taken, List.filterMap_append, Option.toList_some]
  by_cases hf : f = classifier.classify v
  · simp [hf, handed, Classifier.ofFlow_singleton_self]
  · simp [PerFlow.get_set_of_ne _ _ hf, handed, Classifier.ofFlow_singleton_of_ne rfl hf]

/-- A value that was handed out in order is taken off. -/
theorem Outstanding.pop (h : Outstanding classifier before pending) (taken : op.taken? = none)
    (handed : op.handed? = some v) (oldest : (pending.get (classifier.classify v)).head? = some v) :
    Outstanding classifier (before ++ [op]) (pending.set (classifier.classify v)
      (pending.get (classifier.classify v)).tail) := by
  rw [Queue.head?_eq, List.head?_eq_some_iff] at oldest
  obtain ⟨others, hpending⟩ := oldest
  intro f
  rw [h.snoc, taken, List.filterMap_append, Classifier.ofFlow_append]
  by_cases hf : f = classifier.classify v
  · simp [hf, handed, hpending, Classifier.ofFlow_singleton_self]
  · simp [PerFlow.get_set_of_ne _ _ hf, handed, Classifier.ofFlow_singleton_of_ne rfl hf]

/-! ## The check -/

/-- **The check finds nothing exactly if the law holds**, from any place in a history up to which
nothing was out of order. -/
theorem Outstanding.checkOrder_eq_nil_iff {ops : List Operation}
    (h : Outstanding classifier before pending) :
    checkOrder classifier pending ops = [] ↔ Ordered classifier before ops := by
  -- The induction is that of the check; the operations behind it grow by the one that was looked
  -- at.
  fun_induction checkOrder classifier pending ops generalizing before with
  | case1 => exact iff_of_true rfl ordered_nil
  | case2 pending op rest v hresult hrequest flow =>
    rename_i ih
    have htaken : op.taken? = some v := by simp [taken?, hrequest, hresult]
    have hhanded : op.handed? = none := by simp [handed?, hrequest]
    have hgiven : op.given? = none := by simp [given?, hrequest]
    rw [ordered_cons_iff, ih (h.push htaken hhanded)]
    exact (and_iff_right (inOrder_of_given_eq_none hgiven)).symm
  | case3 pending op rest v hresult hrequest flow oldest holdest =>
    rename_i ih
    have htaken : op.taken? = none := by simp [taken?, hrequest]
    have hhanded : op.handed? = some v := by simp [handed?, hrequest, hresult]
    have hgiven : op.given? = some v := by simp [given?, hrequest, hresult]
    rw [ordered_cons_iff, ih (h.pop htaken hhanded holdest)]
    exact (and_iff_right ((h.inOrder_iff_of_given hgiven).mpr holdest)).symm
  | case4 pending op rest v hresult hrequest flow oldest holdest =>
    have hgiven : op.given? = some v := by simp [given?, hrequest, hresult]
    -- What is pending from here on does not matter: the law is broken already.
    rw [ordered_cons_iff, h.inOrder_iff_of_given hgiven]
    exact iff_of_false (List.cons_ne_nil _ _) (fun hlaw => holdest hlaw.1)
  | case5 pending op rest v hresult hrequest flow oldest holdest =>
    rename_i ih
    have htaken : op.taken? = none := by simp [taken?, hrequest]
    have hhanded : op.handed? = none := by simp [handed?, hrequest]
    have hgiven : op.given? = some v := by simp [given?, hrequest, hresult]
    rw [ordered_cons_iff, ih (h.idle htaken hhanded)]
    exact (and_iff_right ((h.inOrder_iff_of_given hgiven).mpr holdest)).symm
  | case6 pending op rest v hresult hrequest flow oldest holdest =>
    have hgiven : op.given? = some v := by simp [given?, hrequest, hresult]
    rw [ordered_cons_iff, h.inOrder_iff_of_given hgiven]
    exact iff_of_false (List.cons_ne_nil _ _) (fun hlaw => holdest hlaw.1)
  | case7 pending op rest hpush hpop hpeek ih =>
    have htaken : op.taken? = none := by
      unfold taken?
      split
      · exact (hpush _ ‹_› ‹_›).elim
      · rfl
    have hhanded : op.handed? = none := by
      unfold handed?
      split
      · exact (hpop _ ‹_› ‹_›).elim
      · rfl
    have hgiven : op.given? = none := by
      unfold given?
      split
      · exact (hpop _ ‹_› ‹_›).elim
      · exact (hpeek _ ‹_› ‹_›).elim
      · rfl
    rw [ordered_cons_iff, ih (h.idle htaken hhanded)]
    exact (and_iff_right (inOrder_of_given_eq_none hgiven)).symm

/-- **The order check decides the index law.** It reports nothing of a history exactly if, whatever
its operations are, each value that a pop or a peek gives is the one that was taken in for its flow
at the position given by the number of values of the flow that pops handed out before. -/
theorem fifoPerFlow_decides_index_law (c : Config Value) (h : History) :
    fifoPerFlow c h = [] ↔
      ∀ i op v f, h.operations[i]? = some op → op.given? = some v → c.classifier.classify v = f →
        (c.classifier.ofFlow f ((h.operations.take i).filterMap taken?))[
          ((h.operations.take i).filterMap handed?).countP (c.classifier.classify · = f)]? =
            some v := by
  have hcheck : fifoPerFlow c h = [] ↔ Ordered c.classifier [] h.operations :=
    outstanding_nil.checkOrder_eq_nil_iff
  rw [hcheck]
  constructor
  · intro hlaw i op v f hop hv hf
    simpa using hlaw i op hop v f hv hf
  · intro hlaw i op hop v f hv hf
    simpa using hlaw i op v f hop hv hf

end Verification

end TwoFlow
