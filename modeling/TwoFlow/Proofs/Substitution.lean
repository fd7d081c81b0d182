import TwoFlow.Proofs.Lawful
import TwoFlow.Proofs.Parametricity

/-!
# Any sub-queues that keep the contract will do

The contract of a sub-queue is about a list of values that the sub-queue holds. How it holds them is
its own business: here the contract asks only for a relation between the states and the lists, so it
says nothing of states that are never reached, and one list may be held in many ways. A ring buffer
keeps the contract, with values left behind in the slots that are free.

Two sub-queues that keep the contract with the same capacity simulate each other: they are related
where they hold the same list. So nobody who talks to a scheduler can tell which sub-queues it has.

## Main definitions

* `SubQueue.Keeps`: the contract, for a relation between states and lists
* `SubQueue.HoldImages`: sub-queues that hold the same list, up to a map of the values
* `RingQueue`: a queue in a fixed number of slots

## Main results

* `SubQueue.Keeps.simulation`: sub-queues that keep the contract simulate each other
* `RingQueue.keeps`: a ring buffer keeps the contract
* `Pifo.serve_eq_withFifos`: over sub-queues that keep the contract, a scheduler is the stock one
-/

namespace TwoFlow

/-! ## The contract -/

theorem Answer.ofHead_map {V W : Type} (g : V → W) (l : List V) :
    ofHead (l.map g) = (ofHead l).map g := by
  cases l <;> rfl

namespace SubQueue

variable {Q Q' V W : Type} [SubQueue Q V] [SubQueue Q' W]

/-- **The contract of a sub-queue** of a given capacity, for a relation that says which list of
values a state holds, oldest first. -/
structure Keeps (capacity : Nat) (holds : Q → List V → Prop) : Prop where
  capacity_eq {q : Q} {l : List V} (h : holds q l) : SubQueue.capacity q = capacity
  len_eq {q : Q} {l : List V} (h : holds q l) : SubQueue.len q = l.length
  /-- Below the capacity a push appends. -/
  push_of_lt {q : Q} {l : List V} (h : holds q l) (v : V) (room : l.length < capacity) :
    ∃ q', SubQueue.push q v = (q', .ok ()) ∧ holds q' (l ++ [v])
  /-- At the capacity a push is refused. -/
  push_of_le {q : Q} {l : List V} (h : holds q l) (v : V) (full : capacity ≤ l.length) :
    ∃ q', SubQueue.push q v = (q', .error (.overflow l.length capacity)) ∧ holds q' l
  /-- A pop takes the oldest value off. -/
  pop_eq {q : Q} {l : List V} (h : holds q l) :
    ∃ q', SubQueue.pop q = (q', .ofHead l) ∧ holds q' l.tail
  /-- A peek shows the oldest value. -/
  peek_eq {q : Q} {l : List V} (h : holds q l) :
    ∃ q', SubQueue.peek q = (q', .ofHead l) ∧ holds q' l

/-- The list that a lawful sub-queue of a given capacity holds. -/
def Lawful.Holds [Lawful Q] (capacity : Nat) (q : Q) (l : List V) : Prop :=
  SubQueue.capacity q = capacity ∧ Lawful.items q = l

/-- A lawful sub-queue keeps the contract. -/
theorem Lawful.keeps [Lawful Q] (capacity : Nat) :
    Keeps capacity (Lawful.Holds capacity : Q → List V → Prop) where
  capacity_eq h := h.1
  len_eq {q l} h := by
    rw [Lawful.len_eq, h.2]
  push_of_lt {q l} h v room := by
    obtain ⟨rfl, rfl⟩ := h
    obtain ⟨q', hpush, hitems, hcapacity⟩ := Lawful.push_of_lt v room
    exact ⟨q', hpush, hcapacity, hitems⟩
  push_of_le {q l} h v full := by
    obtain ⟨rfl, rfl⟩ := h
    obtain ⟨q', hpush, hitems, hcapacity⟩ := Lawful.push_of_le v full
    exact ⟨q', hpush, hcapacity, hitems⟩
  pop_eq {q l} h := by
    obtain ⟨rfl, rfl⟩ := h
    obtain ⟨q', hpop, hitems, hcapacity⟩ := Lawful.pop_eq q
    exact ⟨q', hpop, hcapacity, hitems⟩
  peek_eq {q l} h := by
    obtain ⟨rfl, rfl⟩ := h
    obtain ⟨q', hpeek, hitems, hcapacity⟩ := Lawful.peek_eq q
    exact ⟨q', hpeek, hcapacity, hitems⟩

/-- Two sub-queues of which the second holds the images of the values that the first holds. -/
def HoldImages (g : V → W) (holds : Q → List V → Prop) (holds' : Q' → List W → Prop) (q : Q)
    (q' : Q') : Prop :=
  ∃ l, holds q l ∧ holds' q' (l.map g)

/-- **Sub-queues that keep the contract simulate each other.** -/
theorem Keeps.simulation {capacity : Nat} {holds : Q → List V → Prop} {holds' : Q' → List W → Prop}
    (keeps : Keeps capacity holds) (keeps' : Keeps capacity holds') (g : V → W) :
    Simulation g (HoldImages g holds holds') where
  len_eq := by
    rintro q q' ⟨l, h, h'⟩
    rw [keeps.len_eq h, keeps'.len_eq h', List.length_map]
  push := by
    rintro q q' ⟨l, h, h'⟩ v
    have hlength : (l.map g).length = l.length := List.length_map g
    by_cases room : l.length < capacity
    · obtain ⟨r, hpush, hr⟩ := keeps.push_of_lt h v room
      obtain ⟨r', hpush', hr'⟩ := keeps'.push_of_lt h' (g v) (by omega)
      rw [hpush, hpush']
      refine ⟨⟨l ++ [v], hr, ?_⟩, rfl⟩
      rw [List.map_append]
      exact hr'
    · obtain ⟨r, hpush, hr⟩ := keeps.push_of_le h v (by omega)
      obtain ⟨r', hpush', hr'⟩ := keeps'.push_of_le h' (g v) (by omega)
      rw [hpush, hpush', hlength]
      exact ⟨⟨l, hr, hr'⟩, rfl⟩
  pop := by
    rintro q q' ⟨l, h, h'⟩
    obtain ⟨r, hpop, hr⟩ := keeps.pop_eq h
    obtain ⟨r', hpop', hr'⟩ := keeps'.pop_eq h'
    rw [hpop, hpop']
    refine ⟨⟨l.tail, hr, ?_⟩, Answer.ofHead_map g l⟩
    rw [List.map_tail]
    exact hr'
  peek := by
    rintro q q' ⟨l, h, h'⟩
    obtain ⟨r, hpeek, hr⟩ := keeps.peek_eq h
    obtain ⟨r', hpeek', hr'⟩ := keeps'.peek_eq h'
    rw [hpeek, hpeek']
    exact ⟨⟨l, hr, hr'⟩, Answer.ofHead_map g l⟩

end SubQueue

/-! ## A ring buffer -/

/-- A queue in a fixed number of slots: the oldest value is in the slot `head`, and the others
follow it, past the last slot from the first one on. -/
structure RingQueue (V : Type) where
  slots : Array V
  head : Nat := 0
  len : Nat := 0

namespace RingQueue

variable {V : Type}

/-- The slot that many places after the head. -/
def slotOf (r : RingQueue V) (i : Nat) : Nat := (r.head + i) % r.slots.size

/-- Fills the slot behind the newest value; a full queue rejects the value and stays as it is. -/
def push (r : RingQueue V) (v : V) : RingQueue V × Answer Unit :=
  if r.len = r.slots.size then (r, .error (.overflow r.len r.slots.size))
  else ({ r with slots := r.slots.setIfInBounds (r.slotOf r.len) v, len := r.len + 1 }, .ok ())

/-- Shows the value in the slot of the head. -/
def peek (r : RingQueue V) : Answer V :=
  if r.len = 0 then .error .underflow else r.slots[r.head]?.elim (.error .underflow) .ok

/-- Moves the head on; the value stays behind in its slot. -/
def pop (r : RingQueue V) : RingQueue V × Answer V :=
  match r.peek with
  | .error e => (r, .error e)
  | .ok v => ({ r with head := r.slotOf 1, len := r.len - 1 }, .ok v)

instance : SubQueue (RingQueue V) V where
  push := push
  pop := pop
  peek r := (r, r.peek)
  len := len
  capacity r := r.slots.size

/-- **The list in a ring**: value number `i` is in the slot `i` places after the head. Nothing is
said of the other slots. -/
structure Holds (capacity : Nat) (r : RingQueue V) (l : List V) : Prop where
  size_eq : r.slots.size = capacity
  head_lt : r.head < capacity
  len_eq : r.len = l.length
  length_le : l.length ≤ capacity
  slot_eq (i : Nat) (h : i < l.length) : r.slots[r.slotOf i]? = l[i]?

theorem holds_nil {capacity : Nat} (pos : 0 < capacity) (fill : V) :
    Holds capacity ⟨Array.replicate capacity fill, 0, 0⟩ [] where
  size_eq := Array.size_replicate
  head_lt := pos
  len_eq := rfl
  length_le := Nat.zero_le _
  slot_eq _ h := nomatch h

variable {capacity : Nat} {r : RingQueue V} {l : List V}

/-- Before the ring is once around, no slot is met twice. -/
theorem slotOf_ne (r : RingQueue V) {i j : Nat} (hij : i < j) (hj : j < r.slots.size) :
    r.slotOf j ≠ r.slotOf i := by
  intro h
  have hzero := Nat.sub_mod_eq_zero_of_mod_eq h
  rw [Nat.add_sub_add_left, Nat.mod_eq_of_lt (Nat.lt_of_le_of_lt (Nat.sub_le j i) hj)] at hzero
  omega

theorem Holds.peek_eq (h : Holds capacity r l) : r.peek = .ofHead l := by
  unfold peek
  rw [h.len_eq]
  cases l with
  | nil => rfl
  | cons v rest =>
    have hfirst := h.slot_eq 0 (Nat.zero_lt_succ _)
    have hslot : r.slotOf 0 = r.head := Nat.mod_eq_of_lt (h.size_eq ▸ h.head_lt)
    rw [hslot] at hfirst
    rw [hfirst]
    rfl

theorem Holds.push (h : Holds capacity r l) (v : V) (room : l.length < capacity) :
    Holds capacity
      { r with slots := r.slots.setIfInBounds (r.slotOf r.len) v, len := r.len + 1 }
      (l ++ [v]) where
  size_eq := by
    rw [Array.size_setIfInBounds]
    exact h.size_eq
  head_lt := h.head_lt
  len_eq := by
    rw [List.length_append, h.len_eq]
    rfl
  length_le := by
    rw [List.length_append]
    exact room
  slot_eq i hi := by
    have hlen := h.len_eq
    have hsize := h.size_eq
    have hslot : slotOf { r with
        slots := r.slots.setIfInBounds (r.slotOf r.len) v, len := r.len + 1 } i = r.slotOf i := by
      simp only [slotOf, Array.size_setIfInBounds]
    rw [List.length_append, List.length_singleton] at hi
    rw [hslot, Array.getElem?_setIfInBounds]
    by_cases hnew : i = l.length
    · have hin : r.slotOf i < r.slots.size := Nat.mod_lt _ (by omega)
      rw [hnew, ← hlen] at hin ⊢
      rw [if_pos rfl, if_pos hin, hlen, List.getElem?_append_right (Nat.le_refl _), Nat.sub_self]
      rfl
    · -- The slot that is filled holds none of the older values.
      have hold : i < l.length := by omega
      rw [if_neg (r.slotOf_ne (by omega) (by omega)), h.slot_eq i hold,
        List.getElem?_append_left hold]

theorem Holds.tail (h : Holds capacity r l) :
    Holds capacity { r with head := r.slotOf 1, len := r.len - 1 } l.tail where
  size_eq := h.size_eq
  head_lt := by
    rw [← h.size_eq]
    exact Nat.mod_lt _ (h.size_eq ▸ Nat.zero_lt_of_lt h.head_lt)
  len_eq := by
    rw [List.length_tail, h.len_eq]
  length_le := by
    rw [List.length_tail]
    exact Nat.le_trans (Nat.sub_le _ _) h.length_le
  slot_eq i hi := by
    rw [List.length_tail] at hi
    have hslot : slotOf { r with head := r.slotOf 1, len := r.len - 1 } i = r.slotOf (i + 1) := by
      simp only [slotOf, Nat.mod_add_mod]
      rw [Nat.add_assoc, Nat.add_comm 1 i]
    rw [hslot, List.getElem?_tail]
    exact h.slot_eq (i + 1) (by omega)

/-- **A ring buffer keeps the contract.** -/
theorem keeps (capacity : Nat) : SubQueue.Keeps capacity (Holds (V := V) capacity) where
  capacity_eq h := h.size_eq
  len_eq h := h.len_eq
  push_of_lt {r l} h v room := by
    have hroom : ¬ r.len = r.slots.size := by
      rw [h.len_eq, h.size_eq]
      omega
    exact ⟨_, if_neg hroom, h.push v room⟩
  push_of_le {r l} h v full := by
    have hfull : r.len = r.slots.size := by
      rw [h.len_eq, h.size_eq]
      exact Nat.le_antisymm h.length_le full
    refine ⟨r, ?_, h⟩
    show RingQueue.push r v = _
    rw [RingQueue.push, if_pos hfull, h.len_eq, h.size_eq]
  pop_eq {r l} h := by
    show ∃ q', RingQueue.pop r = (q', .ofHead l) ∧ Holds capacity q' l.tail
    rw [RingQueue.pop, h.peek_eq]
    cases l with
    | nil => exact ⟨r, rfl, h⟩
    | cons v rest => exact ⟨_, rfl, h.tail⟩
  peek_eq {r l} h := ⟨r, congrArg (Prod.mk r) h.peek_eq, h⟩

end RingQueue

/-! ## Substitution -/

theorem Request.map_id {V : Type} : Request.map (id : V → V) = id := by
  funext r
  cases r <;> rfl

namespace Pifo

variable {V Q₀ Q₁ : Type} [SubQueue Q₀ V] [SubQueue Q₁ V] [LE V] [DecidableLE V]

/-- **Any sub-queues that keep the contract will do.** A scheduler is built of a valid configuration
and of two sub-queues that keep the contract, each in its own way, and hold nothing; another one is
built of the stock queues. Let them serve the same requests. They give the same responses, report
the same events, and show the same state and the same statistics afterwards; drained then, they give
the same values. A fault, where a counter has reached the largest word, is no exception. Below that
number of requests both return all their responses, and the drain its values. -/
theorem serve_eq_withFifos {c : Config V} (valid : c.validate = .ok ())
    {holds₀ : Q₀ → List V → Prop} {holds₁ : Q₁ → List V → Prop}
    (keeps₀ : SubQueue.Keeps c.flowCapacity holds₀) (keeps₁ : SubQueue.Keeps c.flowCapacity holds₁)
    {queue0 : Q₀} {queue1 : Q₁} (empty₀ : holds₀ queue0 []) (empty₁ : holds₁ queue1 []) :
    ∃ p q, build c queue0 queue1 = .ok p ∧ withFifos c = .ok q ∧ ∀ requests,
      ((serve requests).run p).outcome = ((serve requests).run q).outcome ∧
      ((serve requests).run p).events = ((serve requests).run q).events ∧
      ((serve requests).run p).state.observe = ((serve requests).run q).state.observe ∧
      ((serve requests).run p).state.stats = ((serve requests).run q).state.stats ∧
      (drain ((serve requests).run p).state).outcome =
        (drain ((serve requests).run q).state).outcome ∧
      (requests.length + 1 < wordLimit → ∃ answers values,
        ((serve requests).run p).outcome = .ok answers ∧ answers.length = requests.length ∧
        (drain ((serve requests).run p).state).outcome = .ok values) := by
  obtain ⟨p, built⟩ : ∃ p, build c queue0 queue1 = .ok p :=
    ⟨_, build_eq_ok_iff.mpr ⟨valid, ⟨keeps₀.capacity_eq empty₀, keeps₀.len_eq empty₀⟩,
      ⟨keeps₁.capacity_eq empty₁, keeps₁.len_eq empty₁⟩, rfl⟩⟩
  obtain ⟨q, stock⟩ := exists_withFifos valid
  refine ⟨p, q, built, stock, fun requests => ?_⟩
  -- The stock queues are lawful, so they simulate whatever keeps the contract.
  have sim₀ := keeps₀.simulation (SubQueue.Lawful.keeps (Q := Fifo V) c.flowCapacity) id
  have sim₁ := keeps₁.simulation (SubQueue.Lawful.keeps (Q := Fifo V) c.flowCapacity) id
  have served := mirrors_serve sim₀ sim₁ requests
    (related_of_build built stock rfl (fun _ => rfl) ⟨[], empty₀, rfl, rfl⟩ ⟨[], empty₁, rfl, rfl⟩)
  rw [Request.map_id, List.map_id] at served
  have drained := mirrors_drain sim₀ sim₁ served.state
  refine ⟨?_, served.events.symm, (served.state.observe_eq sim₀ sim₁).symm, served.state.stats.symm,
    ?_, fun few => ?_⟩
  · rw [served.outcome, Option.map_id, Except.map_id, List.map_id_fun, Except.map_id, id_eq]
  · rw [drained.outcome, List.map_id_fun, Except.map_id, id_eq]
  · obtain ⟨p', es, answers, p'', es', values, hrun, hlength, hdrain⟩ :=
      exists_drain_of_build built few
    rw [hrun]
    exact ⟨answers, values, rfl, hlength, congrArg Step.outcome hdrain⟩

/-- Over a ring buffer of two slots and a stock queue, with a value refused and the ring once
around. -/
theorem serve_eq_withFifos_ring :
    ∃ (p : Pifo UInt32 (RingQueue UInt32) (Fifo UInt32))
      (q : Pifo UInt32 (Fifo UInt32) (Fifo UInt32)),
      build ⟨2, 10⟩ ⟨Array.replicate 2 0, 0, 0⟩ (Fifo.empty 2) = .ok p ∧ withFifos ⟨2, 10⟩ = .ok q ∧
        ((serve [.push 1, .push 2, .push 3, .push 11, .pop, .push 4]).run p).outcome =
          .ok [.ok none, .ok none, .error (.overflow 2 2), .ok none, .ok (some 1), .ok none] ∧
        (drain ((serve [.push 1, .push 2, .push 3, .push 11, .pop, .push 4]).run p).state).outcome =
          (drain
            ((serve [.push 1, .push 2, .push 3, .push 11, .pop, .push 4]).run q).state).outcome ∧
        ∃ values,
          (drain
            ((serve [.push 1, .push 2, .push 3, .push 11, .pop, .push 4]).run p).state).outcome =
              .ok values := by
  have empty₁ : SubQueue.Lawful.Holds 2 (Fifo.empty 2 : Fifo UInt32) [] := ⟨rfl, rfl⟩
  obtain ⟨p, q, built, stock, same⟩ :=
    serve_eq_withFifos (c := (⟨2, 10⟩ : Config UInt32)) rfl (RingQueue.keeps 2)
      (SubQueue.Lawful.keeps 2) (RingQueue.holds_nil (by decide) 0) empty₁
  obtain ⟨hresponses, -, -, -, hdrain, hreturns⟩ :=
    same [.push 1, .push 2, .push 3, .push 11, .pop, .push 4]
  obtain ⟨answers, values, -, -, hvalues⟩ := hreturns (by decide)
  refine ⟨p, q, built, stock, ?_, hdrain, values, hvalues⟩
  rw [hresponses]
  cases stock
  rfl

end Pifo

end TwoFlow
