import TwoFlow.Error

/-!
# Actions: state changes that report events and may break off

An action reads and changes a state, reports events on the way, and ends with a value or with a
fault. A fault does not undo anything: the state and the events reached before it stay. So the
result of an action always has a state and a list of events, and only its outcome may be missing.

## Main definitions

* `Step`, `Step.andThen`: the state reached, the events reported, the outcome
* `Action`, `Action.run`: a function from a state to a step
* `Action.emit`, `Action.fault`: report an event, break off
* `Action.focus`: an action on a part of the state

## Main results

* `Step.andThen_ok`, `Step.andThen_error`: a sequence goes on from a value and stops at a fault
* `Action.exists_of_run_bind`, `exists_of_bind_eq_ok`: a sequence that gives a value, by its parts
-/

namespace TwoFlow

/-- What an action gives back: the state it reached, the events it reported in order, and its
value, or the fault that broke it off. -/
structure Step (ε σ α : Type) where
  state : σ
  events : List ε
  outcome : Except Fault α

/-- Goes on from the value of a step, with the events of both parts in order. A fault ends the
sequence and keeps what was reached. -/
def Step.andThen {ε σ α β : Type} (t : Step ε σ α) (f : α → σ → Step ε σ β) : Step ε σ β :=
  match t.outcome with
  | .ok a =>
    let u := f a t.state
    ⟨u.state, t.events ++ u.events, u.outcome⟩
  | .error e => ⟨t.state, t.events, .error e⟩

/-- A change of a state `σ` that reports events `ε` and ends with an `α` or a fault. -/
def Action (ε σ α : Type) : Type := σ → Step ε σ α

namespace Action

variable {ε ε' σ τ α β : Type}

/-- Runs an action from a state. -/
def run (x : Action ε σ α) (s : σ) : Step ε σ α := x s

instance : Monad (Action ε σ) where
  pure a := fun s => ⟨s, [], .ok a⟩
  bind x f := fun s => (x s).andThen f

instance : MonadStateOf σ (Action ε σ) where
  get := fun s => ⟨s, [], .ok s⟩
  set s := fun _ => ⟨s, [], .ok ()⟩
  modifyGet f := fun s => ⟨(f s).2, [], .ok (f s).1⟩

/-- A checked computation as an action that leaves the state alone. -/
instance : MonadLift (Except Fault) (Action ε σ) where
  monadLift x := fun s => ⟨s, [], x⟩

/-- Reports an event. -/
def emit (e : ε) : Action ε σ Unit := fun s => ⟨s, [e], .ok ()⟩

/-- Breaks off. -/
def fault (e : Fault) : Action ε σ α := fun s => ⟨s, [], .error e⟩

/-- A silent state change that gives a value. -/
def ofState (f : σ → σ × α) : Action ε σ α := fun s => ⟨(f s).1, [], .ok (f s).2⟩

/-- An action on a part of the state, its events renamed. -/
def focus (view : σ → τ) (update : σ → τ → σ) (rename : ε' → ε) (x : Action ε' τ α) :
    Action ε σ α := fun s =>
  let t := x (view s)
  ⟨update s t.state, t.events.map rename, t.outcome⟩

/-! ## Running a sequence -/

@[simp] theorem run_pure (a : α) (s : σ) : (pure a : Action ε σ α).run s = ⟨s, [], .ok a⟩ := rfl

@[simp] theorem run_get (s : σ) : (get : Action ε σ σ).run s = ⟨s, [], .ok s⟩ := rfl

@[simp] theorem run_set (s s' : σ) : (set s' : Action ε σ PUnit).run s = ⟨s', [], .ok ()⟩ := rfl

@[simp] theorem run_modify (f : σ → σ) (s : σ) :
    (modify f : Action ε σ PUnit).run s = ⟨f s, [], .ok ()⟩ := rfl

@[simp] theorem run_emit (e : ε) (s : σ) :
    (emit e : Action ε σ Unit).run s = ⟨s, [e], .ok ()⟩ := rfl

@[simp] theorem run_fault (e : Fault) (s : σ) :
    (fault e : Action ε σ α).run s = ⟨s, [], .error e⟩ := rfl

@[simp] theorem run_ofState (f : σ → σ × α) (s : σ) :
    (ofState f : Action ε σ α).run s = ⟨(f s).1, [], .ok (f s).2⟩ := rfl

@[simp] theorem run_lift (x : Except Fault α) (s : σ) :
    (liftM x : Action ε σ α).run s = ⟨s, [], x⟩ := rfl

@[simp] theorem run_bind (x : Action ε σ α) (f : α → Action ε σ β) (s : σ) :
    (x >>= f).run s = (x.run s).andThen fun a => (f a).run := rfl

@[simp] theorem run_map (g : α → β) (x : Action ε σ α) (s : σ) :
    (g <$> x).run s = (x.run s).andThen fun a s' => ⟨s', [], .ok (g a)⟩ := rfl

@[simp] theorem run_ite (c : Prop) [Decidable c] (x y : Action ε σ α) (s : σ) :
    (if c then x else y).run s = if c then x.run s else y.run s := by
  split <;> rfl

theorem run_get_bind (f : σ → Action ε σ α) (s : σ) : (get >>= f).run s = (f s).run s := rfl

theorem eq_of_run_pure {s s' : σ} {es : List ε} {a b : α}
    (h : (pure a : Action ε σ α).run s = ⟨s', es, .ok b⟩) : s' = s ∧ a = b := by
  cases h
  exact ⟨rfl, rfl⟩

end Action

namespace Step

variable {ε σ α β : Type}

/-- **A sequence goes on from a value.** -/
@[simp] theorem andThen_ok (s : σ) (es : List ε) (a : α) (f : α → σ → Step ε σ β) :
    andThen ⟨s, es, .ok a⟩ f = ⟨(f a s).state, es ++ (f a s).events, (f a s).outcome⟩ := rfl

/-- **A sequence stops at a fault**, keeping what was reached. -/
@[simp] theorem andThen_error (s : σ) (es : List ε) (e : Fault) (f : α → σ → Step ε σ β) :
    andThen ⟨s, es, .error e⟩ f = ⟨s, es, .error e⟩ := rfl

end Step

/-- What a sequence gives is given by its second part, after the first. -/
theorem Action.exists_of_run_bind {ε σ α β : Type} {x : Action ε σ α} {f : α → Action ε σ β}
    {s s' : σ} {es : List ε} {b : β} (h : (x >>= f).run s = ⟨s', es, .ok b⟩) :
    ∃ s₁ es₁ a es₂, x.run s = ⟨s₁, es₁, .ok a⟩ ∧ (f a).run s₁ = ⟨s', es₂, .ok b⟩ ∧
      es = es₁ ++ es₂ := by
  rw [run_bind] at h
  rcases hx : x.run s with ⟨s₁, es₁, e | a⟩
  · rw [hx] at h
    cases h
  · rcases hf : (f a).run s₁ with ⟨s₂, es₂, o⟩
    rw [hx, Step.andThen_ok, hf] at h
    cases h
    exact ⟨s₁, es₁, a, es₂, rfl, hf, rfl⟩

/-- The same of checked computations. -/
theorem exists_of_bind_eq_ok {α β : Type} {x : Except Fault α} {f : α → Except Fault β} {b : β}
    (h : x >>= f = .ok b) : ∃ a, x = .ok a ∧ f a = .ok b := by
  cases x with
  | error e => cases h
  | ok a => exact ⟨a, rfl, h⟩

end TwoFlow
