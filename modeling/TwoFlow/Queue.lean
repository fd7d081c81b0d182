/-!
# First-in first-out queues

Values in the order in which they arrived. The oldest values stand in a list, oldest first, and the
newer ones in a second list, newest first, which is turned round when the first one runs out. So a
value is added and removed in constant time on average, and the length is at hand. Everything that
can be said of a queue is said of the one list `toList`, oldest first; there is a lemma for each
operation.

## Main definitions

* `Queue`, `Queue.toList`: a queue and its values
* `Queue.push`, `Queue.head?`, `Queue.tail`, `Queue.erase`: its operations

## Main results

* `Queue.toList_push`, `Queue.head?_eq`, `Queue.toList_tail`, `Queue.toList_erase`,
  `Queue.length_eq_length_toList`: the operations seen on the list of values
-/

namespace TwoFlow

/-- Values in the order in which they arrived. -/
structure Queue (α : Type) where
  /-- The oldest values, oldest first. -/
  front : List α := []
  /-- The values after those, newest first. -/
  back : List α := []
  /-- The number of values. -/
  length : Nat := front.length + back.length
  length_eq : length = front.length + back.length := by simp
  /-- The second list holds values only if the first one does. -/
  back_eq_nil : front = [] → back = [] := by simp

namespace Queue

variable {α : Type}

/-- The queue without values. -/
def empty : Queue α :=
  { front := [], back := [], length := 0, length_eq := rfl, back_eq_nil := fun _ => rfl }

/-- The queue with the given values, oldest first. -/
def ofList (l : List α) : Queue α := { front := l }

/-- The values, oldest first. -/
def toList (q : Queue α) : List α := q.front ++ q.back.reverse

/-- Does the queue hold no value? -/
def isEmpty (q : Queue α) : Bool := q.front.isEmpty

/-- The oldest value. -/
def head? (q : Queue α) : Option α := q.front.head?

/-- Adds a value as the newest one. -/
def push (q : Queue α) (a : α) : Queue α :=
  match q with
  | { front := [], .. } => { front := [a], length := 1 }
  | { front := b :: front, back, length, length_eq, .. } =>
    { front := b :: front, back := a :: back, length := length + 1
      length_eq := by simp only [length_eq, List.length_cons]; omega }

/-- Removes the oldest value, if there is one. -/
def tail (q : Queue α) : Queue α :=
  match q with
  | { front := [], .. } => empty
  | { front := [_], back, length, length_eq, .. } =>
    { front := back.reverse, length := length - 1
      length_eq := by simp [length_eq] }
  | { front := _ :: b :: front, back, length, length_eq, .. } =>
    { front := b :: front, back, length := length - 1
      length_eq := by simp only [length_eq, List.length_cons]; omega }

/-- Removes the oldest value equal to a given one, if there is one. -/
def erase [DecidableEq α] (q : Queue α) (a : α) : Queue α :=
  if q.head? = some a then q.tail else ofList (q.toList.erase a)

/-! ## The operations seen on the list of values -/

@[simp] theorem toList_empty : (empty : Queue α).toList = [] := rfl

@[simp] theorem toList_ofList (l : List α) : (ofList l).toList = l := by
  simp [ofList, toList]

theorem length_eq_length_toList (q : Queue α) : q.length = q.toList.length := by
  simp [toList, q.length_eq]

theorem head?_eq (q : Queue α) : q.head? = q.toList.head? := by
  cases h : q.front with
  | nil => simp [head?, toList, h, q.back_eq_nil h]
  | cons a front => simp [head?, toList, h]

@[simp] theorem toList_push (q : Queue α) (a : α) : (q.push a).toList = q.toList ++ [a] := by
  obtain ⟨front, back, length, length_eq, back_eq_nil⟩ := q
  cases front with
  | nil => simp [push, toList, back_eq_nil rfl]
  | cons b front => simp [push, toList]

@[simp] theorem toList_tail (q : Queue α) : q.tail.toList = q.toList.tail := by
  obtain ⟨front, back, length, length_eq, back_eq_nil⟩ := q
  match front with
  | [] => simp [tail, toList, empty, back_eq_nil rfl]
  | [_] => simp [tail, toList]
  | _ :: b :: front => simp [tail, toList]

@[simp] theorem toList_erase [DecidableEq α] (q : Queue α) (a : α) :
    (q.erase a).toList = q.toList.erase a := by
  unfold erase
  split
  · rename_i h
    rw [head?_eq, List.head?_eq_some_iff] at h
    obtain ⟨l, hl⟩ := h
    simp [hl]
  · simp

end Queue

end TwoFlow
