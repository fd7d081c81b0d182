import TwoFlow.Proofs.Lawful

/-!
# The backlog of a scheduler

Over lawful sub-queues a scheduler is a function of its backlog: the values waiting in each flow and
the hot flow. The function is `Backlog.turn`; it has no counter of its own, asks no sub-queue and
cannot fault. It says of a request what it leaves behind, what it answers, which counters it raises
and which events it reports.

## Main definitions

* `Backlog`, `Backlog.turn`, `Turn`: the backlog, and what a request comes to on it
* `Backlog.turns`, `Backlog.after`: the turns of a list of requests, and the backlog they leave
* `Backlog.Sound`: each flow within its capacity, and only with values of its own

## Main results

* `Backlog.Sound.len_eq_iff`: a sound backlog is full exactly when both flows are
* `Backlog.turn_push_cases`, `Backlog.turn_pop_cases`: what a turn can be
* `Backlog.Sound.turn`, `Backlog.Sound.after`: a turn keeps a backlog sound, and so do any turns
* `Backlog.bothFailed_not_mem_events`: no turn finds both flows empty and counts a value
-/

namespace TwoFlow

/-- What waits in a scheduler. -/
structure Backlog (V : Type) where
  /-- The values of each flow, oldest first. -/
  flows : PerFlow (List V)
  /-- The flow preferred by the next pop. -/
  hot : Flow

/-- What a request comes to. -/
structure Turn (V : Type) where
  /-- The backlog that it leaves. -/
  next : Backlog V
  response : Response V
  /-- The counters that it raises, in order. -/
  raised : List Counter := []
  /-- The events that it reports, in order. -/
  events : List Event := []

namespace Backlog

variable {V : Type}

/-- Nothing waits, and flow zero is hot. -/
def empty : Backlog V := ⟨.both [], .zero⟩

/-- The number of values waiting. -/
def len (s : Backlog V) : Nat := s.flows.zero.length + s.flows.one.length

theorem len_eq (s : Backlog V) (f : Flow) :
    s.len = (s.flows.get f).length + (s.flows.get f.other).length := by
  cases f with
  | zero => rfl
  | one => exact Nat.add_comm _ _

theorem len_set (s : Backlog V) (f hot : Flow) (l : List V) :
    len ⟨s.flows.set f l, hot⟩ = l.length + (s.flows.get f.other).length := by
  rw [len_eq _ f, PerFlow.get_set_self, PerFlow.get_set_of_ne _ _ f.other_ne]

theorem len_set_append (s : Backlog V) (f hot : Flow) (v : V) :
    len ⟨s.flows.set f (s.flows.get f ++ [v]), hot⟩ = s.len + 1 := by
  rw [len_set, List.length_append, len_eq s f]
  exact Nat.add_right_comm _ _ _

theorem len_set_rest {s : Backlog V} {f : Flow} {v : V} {rest : List V}
    (hf : s.flows.get f = v :: rest) (hot : Flow) :
    len ⟨s.flows.set f rest, hot⟩ = s.len - 1 := by
  rw [len_set, len_eq s f, hf, List.length_cons, Nat.add_right_comm, Nat.add_sub_cancel]

theorem len_eq_zero_iff (s : Backlog V) : s.len = 0 ↔ ∀ f, s.flows.get f = [] := by
  constructor
  · intro h f
    rw [len_eq s f] at h
    exact List.eq_nil_of_length_eq_zero (Nat.eq_zero_of_add_eq_zero_right h)
  · intro h
    rw [len_eq s .zero, h, h]
    rfl

section Turns

variable [LE V] [DecidableLE V]

/-- **The turn of a request.** A push goes to the flow of its value unless both flows or that one
are full. A pop takes the oldest value of the hot flow and passes the turn on; if the hot flow has
none, it takes one of the other flow and the turn stays. -/
def turn (c : Config V) (s : Backlog V) : Request V → Turn V
  | .push v =>
    let flow := c.classifier.classify v
    let held := s.flows.get flow
    if s.len = c.flowCapacity * 2 then
      { next := s, response := .error (.overflow s.len s.len), raised := [.pushesRejectedFull]
        events := [.pushRejectedFull s.len] }
    else if held.length = c.flowCapacity then
      { next := s, response := .error (.overflow held.length held.length)
        raised := [.pushesRejectedFlow]
        events := [.pushRejectedByFlow flow (.overflow held.length held.length)] }
    else
      { next := { s with flows := s.flows.set flow (held ++ [v]) }, response := .ok none
        raised := [.pushesAccepted], events := [.pushed flow (s.len + 1)] }
  | .pop =>
    match s.flows.get s.hot, s.flows.get s.hot.other with
    | v :: rest, _ =>
      { next := ⟨s.flows.set s.hot rest, s.hot.other⟩, response := .ok (some v)
        raised := [.popsPrimary, .served s.hot]
        events := [.popped s.hot s.hot.other (s.len - 1)] }
    | [], v :: rest =>
      { next := ⟨s.flows.set s.hot.other rest, s.hot⟩, response := .ok (some v)
        raised := [.popsFallback, .served s.hot.other]
        events := [.fallingBack s.hot s.hot.other, .popped s.hot.other s.hot (s.len - 1)] }
    | [], [] =>
      { next := s, response := .error .underflow, raised := [.popUnderflows]
        events := [.popRejectedEmpty] }
  | .peek =>
    { next := s
      response := (Answer.ofHead (s.flows.get s.hot ++ s.flows.get s.hot.other)).map some }

variable {c : Config V} {s : Backlog V}

theorem turn_push_full {v : V} (hfull : s.len = c.flowCapacity * 2) :
    s.turn c (.push v) =
      ⟨s, .error (.overflow s.len s.len), [.pushesRejectedFull], [.pushRejectedFull s.len]⟩ := by
  simp only [turn, hfull, if_true]

theorem turn_push_refused {v : V} (hfull : s.len ≠ c.flowCapacity * 2)
    (hflow : (s.flows.get (c.classifier.classify v)).length = c.flowCapacity) :
    s.turn c (.push v) =
      ⟨s, .error (.overflow c.flowCapacity c.flowCapacity), [.pushesRejectedFlow],
        [.pushRejectedByFlow (c.classifier.classify v)
          (.overflow c.flowCapacity c.flowCapacity)]⟩ := by
  simp only [turn, hfull, hflow, if_true, if_false]

theorem turn_push_accepted {v : V} (hfull : s.len ≠ c.flowCapacity * 2)
    (hflow : (s.flows.get (c.classifier.classify v)).length ≠ c.flowCapacity) :
    s.turn c (.push v) =
      ⟨⟨s.flows.set (c.classifier.classify v) (s.flows.get (c.classifier.classify v) ++ [v]),
          s.hot⟩,
        .ok none, [.pushesAccepted], [.pushed (c.classifier.classify v) (s.len + 1)]⟩ := by
  simp only [turn, hfull, hflow, if_false]

theorem turn_pop_primary {v : V} {rest : List V} (hhot : s.flows.get s.hot = v :: rest) :
    s.turn c .pop =
      ⟨⟨s.flows.set s.hot rest, s.hot.other⟩, .ok (some v), [.popsPrimary, .served s.hot],
        [.popped s.hot s.hot.other (s.len - 1)]⟩ := by
  simp only [turn, hhot]

theorem turn_pop_fallback {v : V} {rest : List V} (hhot : s.flows.get s.hot = [])
    (hother : s.flows.get s.hot.other = v :: rest) :
    s.turn c .pop =
      ⟨⟨s.flows.set s.hot.other rest, s.hot⟩, .ok (some v),
        [.popsFallback, .served s.hot.other],
        [.fallingBack s.hot s.hot.other, .popped s.hot.other s.hot (s.len - 1)]⟩ := by
  simp only [turn, hhot, hother]

theorem turn_pop_empty (hempty : ∀ f, s.flows.get f = []) :
    s.turn c .pop = ⟨s, .error .underflow, [.popUnderflows], [.popRejectedEmpty]⟩ := by
  simp only [turn, hempty]

theorem turn_peek :
    s.turn c .peek =
      ⟨s, (Answer.ofHead (s.flows.get s.hot ++ s.flows.get s.hot.other)).map some, [], []⟩ := rfl

/-- **What a push comes to**, and when: both flows are full, its own flow is, or neither. -/
theorem turn_push_cases (c : Config V) (s : Backlog V) (v : V) :
    s.len = c.flowCapacity * 2 ∧
        s.turn c (.push v) =
          ⟨s, .error (.overflow s.len s.len), [.pushesRejectedFull], [.pushRejectedFull s.len]⟩ ∨
      s.len ≠ c.flowCapacity * 2 ∧
        (s.flows.get (c.classifier.classify v)).length = c.flowCapacity ∧
        s.turn c (.push v) =
          ⟨s, .error (.overflow c.flowCapacity c.flowCapacity), [.pushesRejectedFlow],
            [.pushRejectedByFlow (c.classifier.classify v)
              (.overflow c.flowCapacity c.flowCapacity)]⟩ ∨
      s.len ≠ c.flowCapacity * 2 ∧
        (s.flows.get (c.classifier.classify v)).length ≠ c.flowCapacity ∧
        s.turn c (.push v) =
          ⟨⟨s.flows.set (c.classifier.classify v) (s.flows.get (c.classifier.classify v) ++ [v]),
              s.hot⟩, .ok none, [.pushesAccepted],
            [.pushed (c.classifier.classify v) (s.len + 1)]⟩ := by
  by_cases hfull : s.len = c.flowCapacity * 2
  · exact .inl ⟨hfull, turn_push_full hfull⟩
  · by_cases hflow : (s.flows.get (c.classifier.classify v)).length = c.flowCapacity
    · exact .inr (.inl ⟨hfull, hflow, turn_push_refused hfull hflow⟩)
    · exact .inr (.inr ⟨hfull, hflow, turn_push_accepted hfull hflow⟩)

/-- **What a pop comes to**, and when: the hot flow has a value, only the other one has, or neither
has. -/
theorem turn_pop_cases (c : Config V) (s : Backlog V) :
    (∃ v rest, s.flows.get s.hot = v :: rest ∧
        s.turn c .pop =
          ⟨⟨s.flows.set s.hot rest, s.hot.other⟩, .ok (some v), [.popsPrimary, .served s.hot],
            [.popped s.hot s.hot.other (s.len - 1)]⟩) ∨
      (∃ v rest, s.flows.get s.hot = [] ∧ s.flows.get s.hot.other = v :: rest ∧
        s.turn c .pop =
          ⟨⟨s.flows.set s.hot.other rest, s.hot⟩, .ok (some v),
            [.popsFallback, .served s.hot.other],
            [.fallingBack s.hot s.hot.other, .popped s.hot.other s.hot (s.len - 1)]⟩) ∨
      s.flows.get s.hot = [] ∧ s.flows.get s.hot.other = [] ∧
        s.turn c .pop = ⟨s, .error .underflow, [.popUnderflows], [.popRejectedEmpty]⟩ := by
  rcases hhot : s.flows.get s.hot with _ | ⟨v, rest⟩
  · rcases hother : s.flows.get s.hot.other with _ | ⟨v, rest⟩
    · exact .inr (.inr ⟨rfl, rfl, by simp only [turn, hhot, hother]⟩)
    · exact .inr (.inl ⟨v, rest, rfl, rfl, turn_pop_fallback hhot hother⟩)
  · exact .inl ⟨v, rest, rfl, turn_pop_primary hhot⟩

/-- A peek shows what a pop would hand out. -/
theorem response_turn_peek (c : Config V) (s : Backlog V) :
    (s.turn c .peek).response = (s.turn c .pop).response := by
  rw [turn_peek]
  rcases turn_pop_cases c s with
    ⟨v, rest, hhot, hturn⟩ | ⟨v, rest, hhot, hother, hturn⟩ | ⟨hhot, hother, hturn⟩
  · rw [hturn, hhot]
    rfl
  · rw [hturn, hhot, hother]
    rfl
  · rw [hturn, hhot, hother]
    rfl

/-- Each flow holds at most its capacity, and only values of its own. -/
structure Sound (c : Config V) (s : Backlog V) : Prop where
  length_le : ∀ f, (s.flows.get f).length ≤ c.flowCapacity
  classify_eq : ∀ f, ∀ v ∈ s.flows.get f, c.classifier.classify v = f

theorem sound_empty (c : Config V) : Sound c empty := by
  constructor <;> intro f <;> simp [empty]

theorem Sound.len_le (h : s.Sound c) : s.len ≤ c.flowCapacity * 2 := by
  have h₀ := h.length_le .zero
  have h₁ := h.length_le .one
  rw [len_eq s .zero]
  exact Nat.mul_two _ ▸ Nat.add_le_add h₀ h₁

/-- The backlog is full exactly when both flows are. -/
theorem Sound.len_eq_iff (h : s.Sound c) :
    s.len = c.flowCapacity * 2 ↔ ∀ f, (s.flows.get f).length = c.flowCapacity := by
  constructor
  · intro hlen f
    -- A flow with room could not be made up for by the other one.
    have hf := h.length_le f
    have ho := h.length_le f.other
    rw [len_eq s f] at hlen
    omega
  · intro hfull
    rw [len_eq s .zero, hfull, hfull, Nat.mul_two]

/-- A flow that is below its capacity shows that the backlog is not full either. -/
theorem Sound.turn_push_of_lt (h : s.Sound c) {v : V}
    (room : (s.flows.get (c.classifier.classify v)).length < c.flowCapacity) :
    s.turn c (.push v) =
      ⟨⟨s.flows.set (c.classifier.classify v) (s.flows.get (c.classifier.classify v) ++ [v]),
          s.hot⟩,
        .ok none, [.pushesAccepted], [.pushed (c.classifier.classify v) (s.len + 1)]⟩ := by
  have hflow := Nat.ne_of_lt room
  exact turn_push_accepted (fun hlen => hflow (h.len_eq_iff.mp hlen _)) hflow

/-- Soundness looks at one flow at a time. -/
theorem Sound.set (h : s.Sound c) {f hot : Flow} {l : List V} (hlen : l.length ≤ c.flowCapacity)
    (hclass : ∀ v ∈ l, c.classifier.classify v = f) : Sound c ⟨s.flows.set f l, hot⟩ := by
  constructor
  · intro g
    by_cases hg : g = f
    · rw [hg, PerFlow.get_set_self]
      exact hlen
    · rw [PerFlow.get_set_of_ne _ _ hg]
      exact h.length_le g
  · intro g
    by_cases hg : g = f
    · rw [hg, PerFlow.get_set_self]
      exact hclass
    · rw [PerFlow.get_set_of_ne _ _ hg]
      exact h.classify_eq g

/-- A flow that loses its oldest value leaves a sound backlog. -/
theorem Sound.set_rest (h : s.Sound c) {f hot : Flow} {v : V} {rest : List V}
    (hf : s.flows.get f = v :: rest) : Sound c ⟨s.flows.set f rest, hot⟩ := by
  have hlen := h.length_le f
  have hclass := h.classify_eq f
  rw [hf] at hlen hclass
  refine h.set ?_ fun w hw => hclass w (List.mem_cons_of_mem _ hw)
  exact Nat.le_of_succ_le hlen

/-- **A turn keeps a backlog sound.** -/
theorem Sound.turn (h : s.Sound c) (r : Request V) : (s.turn c r).next.Sound c := by
  fun_cases Backlog.turn c s r with
  | case1 => exact h
  | case2 => exact h
  | case3 v flow held hfull hroom =>
    -- The test for equality is one for room, since no flow is above its capacity.
    have hlt : held.length < c.flowCapacity := Nat.lt_of_le_of_ne (h.length_le flow) hroom
    refine h.set (by simpa using Nat.succ_le_of_lt hlt) fun w hw => ?_
    rcases List.mem_append.mp hw with hw | hw
    · exact h.classify_eq _ w hw
    · rw [List.mem_singleton.mp hw]
  | case4 v rest hhot => exact h.set_rest hhot
  | case5 v rest hother hhot => exact h.set_rest hother
  | case6 => exact h
  | case7 => exact h

/-- No turn reports that both flows failed although a value was counted. -/
theorem bothFailed_not_mem_events (c : Config V) (s : Backlog V) (r : Request V) (len : Nat)
    (e : QueueError) : .bothFailed len e ∉ (s.turn c r).events := by
  fun_cases Backlog.turn c s r <;> simp

/-! ## Lists of requests -/

/-- The turns of a list of requests. -/
def turns (c : Config V) (s : Backlog V) : List (Request V) → List (Turn V)
  | [] => []
  | r :: rest => s.turn c r :: turns c (s.turn c r).next rest

theorem bothFailed_not_mem_turns {c : Config V} {s : Backlog V} {requests : List (Request V)}
    {len : Nat} {e : QueueError} :
    .bothFailed len e ∉ (s.turns c requests).flatMap (·.events) := by
  induction requests generalizing s with
  | nil => exact List.not_mem_nil
  | cons r rest ih =>
    rw [turns, List.flatMap_cons, List.mem_append]
    rintro (hmem | hmem)
    · exact bothFailed_not_mem_events c s r len e hmem
    · exact ih hmem

/-- The backlog that a list of requests leaves. -/
def after (c : Config V) (s : Backlog V) : List (Request V) → Backlog V
  | [] => s
  | r :: rest => after c (s.turn c r).next rest

theorem turns_append (c : Config V) (s : Backlog V) (requests rest : List (Request V)) :
    s.turns c (requests ++ rest) = s.turns c requests ++ (s.after c requests).turns c rest := by
  induction requests generalizing s with
  | nil => rfl
  | cons r requests ih => exact congrArg (s.turn c r :: ·) (ih _)

theorem after_append (c : Config V) (s : Backlog V) (requests rest : List (Request V)) :
    s.after c (requests ++ rest) = (s.after c requests).after c rest := by
  induction requests generalizing s with
  | nil => rfl
  | cons r requests ih => exact ih _

theorem Sound.after (h : s.Sound c) (requests : List (Request V)) :
    (s.after c requests).Sound c := by
  induction requests generalizing s with
  | nil => exact h
  | cons r rest ih => exact ih (h.turn r)

end Turns

end Backlog

end TwoFlow
