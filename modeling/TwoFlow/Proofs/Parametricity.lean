import TwoFlow.Proofs.Draining

/-!
# What a scheduler sees of its values and its sub-queues

A scheduler looks at a value to tell its flow, and at a sub-queue to get an answer. So let two
schedulers have the same books, the values of the second be images of those of the first with the
same flows, and the sub-queues of the second answer as those of the first do. Then the second one
mirrors the first: it reports the same events, gives the images of its answers or the same faults,
and the two stay so related.

Actions mirror each other part by part, by one rule for each way to make an action. The requests are
then related by the rules alone, and no run of a request is taken apart. Nothing is asked of the
counters, so faults are mirrored too.

## Main definitions

* `Step.Mirrors`, `Action.Mirrors`: the same up to a relation of the states and a map of the results
* `SubQueue.Simulation`: sub-queues of which one answers with the images of what the other answers
* `Pifo.Related`: schedulers with the same books over such sub-queues

## Main results

* `Action.mirrors_bind`, `Action.mirrors_get_bind`: the rules for a sequence
* `Pifo.mirrors_handle`, `Pifo.mirrors_serve`, `Pifo.mirrors_drain`: related schedulers mirror each
  other
-/

namespace TwoFlow

/-! ## Mirrored actions -/

section Mirroring

variable {ε σ τ α β γ δ : Type}

/-- **A step mirrors another one**: the states are related, the events are the same, and the outcome
is the image of the other one's, with the same fault if there is one. -/
structure Step.Mirrors (R : σ → τ → Prop) (φ : α → β) (u : Step ε σ α) (v : Step ε τ β) : Prop where
  state : R u.state v.state
  events : v.events = u.events
  outcome : v.outcome = u.outcome.map φ

/-- The mirror of a step that is written out. -/
theorem Step.Mirrors.exists_eq {R : σ → τ → Prop} {φ : α → β} {s : σ} {es : List ε}
    {o : Except Fault α} {v : Step ε τ β} (h : Mirrors R φ ⟨s, es, o⟩ v) :
    ∃ t, v = ⟨t, es, o.map φ⟩ ∧ R s t := by
  obtain ⟨t, es', o'⟩ := v
  obtain ⟨hstate, hevents, houtcome⟩ := h
  dsimp only at hevents houtcome
  exact ⟨t, by rw [hevents, houtcome], hstate⟩

/-- **A sequence is mirrored** if its first part is, and its second part from related states. -/
theorem Step.Mirrors.andThen {R : σ → τ → Prop} {φ : α → β} {ψ : γ → δ} {u : Step ε σ α}
    {v : Step ε τ β} {f : α → σ → Step ε σ γ} {g : β → τ → Step ε τ δ} (h : u.Mirrors R φ v)
    (hf : ∀ a s t, R s t → (f a s).Mirrors R ψ (g (φ a) t)) :
    (u.andThen f).Mirrors R ψ (v.andThen g) := by
  obtain ⟨s, es, o⟩ := u
  obtain ⟨t, rfl, hstate⟩ := h.exists_eq
  cases o with
  | error e => exact ⟨hstate, rfl, rfl⟩
  | ok a =>
    have hrest := hf a s t hstate
    exact ⟨hrest.state, congrArg (es ++ ·) hrest.events, hrest.outcome⟩

namespace Action

/-- **An action mirrors another one** if it does so from all related states. -/
def Mirrors (R : σ → τ → Prop) (φ : α → β) (x : Action ε σ α) (y : Action ε τ β) : Prop :=
  ∀ ⦃s t⦄, R s t → (x.run s).Mirrors R φ (y.run t)

variable {R : σ → τ → Prop} {φ : α → β} {ψ : γ → δ}

theorem mirrors_pure (φ : α → β) (a : α) :
    Mirrors (ε := ε) R φ (pure a) (pure (φ a)) :=
  fun _ _ h => ⟨h, rfl, rfl⟩

theorem mirrors_fault (φ : α → β) (e : Fault) : Mirrors (ε := ε) R φ (fault e) (fault e) :=
  fun _ _ h => ⟨h, rfl, rfl⟩

theorem mirrors_emit (e : ε) : Mirrors R id (emit e) (emit e) :=
  fun _ _ h => ⟨h, rfl, rfl⟩

theorem mirrors_lift (x : Except Fault α) :
    Mirrors (ε := ε) R id (liftM x) (liftM x) := by
  intro s t h
  refine ⟨h, rfl, ?_⟩
  cases x <;> rfl

theorem mirrors_set {s : σ} {t : τ} (h : R s t) : Mirrors (ε := ε) R id (set s) (set t) :=
  fun _ _ _ => ⟨h, rfl, rfl⟩

theorem mirrors_modify {f : σ → σ} {g : τ → τ} (h : ∀ s t, R s t → R (f s) (g t)) :
    Mirrors (ε := ε) R id (modify f) (modify g) :=
  fun s t hst => ⟨h s t hst, rfl, rfl⟩

theorem mirrors_ite {c : Prop} [Decidable c] {x x' : Action ε σ α} {y y' : Action ε τ β}
    (h : Mirrors R φ x y) (h' : Mirrors R φ x' y') :
    Mirrors R φ (if c then x else x') (if c then y else y') := by
  split
  · exact h
  · exact h'

/-- What reads the state is mirrored if it is from any two related states that are read. -/
theorem mirrors_get_bind {f : σ → Action ε σ α} {g : τ → Action ε τ β}
    (h : ∀ s t, R s t → Mirrors R φ (f s) (g t)) : Mirrors R φ (get >>= f) (get >>= g) := by
  intro s t hst
  exact h s t hst hst

/-- A sequence is mirrored part by part. -/
theorem mirrors_bind {x : Action ε σ α} {y : Action ε τ β} {f : α → Action ε σ γ}
    {g : β → Action ε τ δ} (hx : Mirrors R φ x y) (hf : ∀ a, Mirrors R ψ (f a) (g (φ a))) :
    Mirrors R ψ (x >>= f) (y >>= g) := by
  intro s t hst
  rw [run_bind, run_bind]
  exact (hx hst).andThen fun a _ _ hstate => hf a hstate

end Action

end Mirroring

/-! ## Related schedulers -/

/-- The request for the image of its value. -/
def Request.map {V W : Type} (g : V → W) : Request V → Request W
  | .pop => .pop
  | .peek => .peek
  | .push v => .push (g v)

/-- **A sub-queue that simulates another one** over a map of the values: in related states the two
have the same length, and asked the same, they answer the same up to the map and are related
again. -/
structure SubQueue.Simulation {Q Q' V W : Type} [SubQueue Q V] [SubQueue Q' W] (g : V → W)
    (ρ : Q → Q' → Prop) : Prop where
  len_eq {q : Q} {q' : Q'} (h : ρ q q') : SubQueue.len q' = SubQueue.len q
  push {q : Q} {q' : Q'} (h : ρ q q') (v : V) :
    ρ (SubQueue.push q v).1 (SubQueue.push q' (g v)).1 ∧
      (SubQueue.push q' (g v)).2 = (SubQueue.push q v).2
  pop {q : Q} {q' : Q'} (h : ρ q q') :
    ρ (SubQueue.pop q).1 (SubQueue.pop q').1 ∧
      (SubQueue.pop q').2 = (SubQueue.pop q).2.map g
  peek {q : Q} {q' : Q'} (h : ρ q q') :
    ρ (SubQueue.peek q).1 (SubQueue.peek q').1 ∧
      (SubQueue.peek q').2 = (SubQueue.peek q).2.map g

namespace Pifo

variable {V W Q₀ Q₁ Q₀' Q₁' : Type} [LE V] [DecidableLE V] [LE W] [DecidableLE W] {g : V → W}
  {ρ₀ : Q₀ → Q₀' → Prop} {ρ₁ : Q₁ → Q₁' → Prop}

/-- **Related schedulers**: their sub-queues are related, a value has the flow of its image, and the
books are the same. -/
structure Related (g : V → W) (ρ₀ : Q₀ → Q₀' → Prop) (ρ₁ : Q₁ → Q₁' → Prop) (p : Pifo V Q₀ Q₁)
    (q : Pifo W Q₀' Q₁') : Prop where
  queue0 : ρ₀ p.queue0 q.queue0
  queue1 : ρ₁ p.queue1 q.queue1
  classify (v : V) : q.classifier.classify (g v) = p.classifier.classify v
  hot : q.hot = p.hot
  len : q.len = p.len
  capacity : q.capacity = p.capacity
  stats : q.stats = p.stats

/-! ## The books -/

theorem mirrors_count (c : Counter) :
    (count c).Mirrors (Related g ρ₀ ρ₁) id (count c) := by
  unfold count
  refine Action.mirrors_get_bind fun p q h => ?_
  rw [h.stats]
  refine Action.mirrors_bind (Action.mirrors_lift _) fun stats => ?_
  exact Action.mirrors_set { h with stats := rfl }

theorem mirrors_grow : grow.Mirrors (Related g ρ₀ ρ₁) id grow := by
  unfold grow
  refine Action.mirrors_get_bind fun p q h => ?_
  rw [h.len, h.capacity]
  refine Action.mirrors_ite ?_ (Action.mirrors_fault _ _)
  refine Action.mirrors_bind (Action.mirrors_lift _) fun len => ?_
  exact Action.mirrors_set { h with len := rfl, capacity := rfl }

theorem mirrors_shrink : shrink.Mirrors (Related g ρ₀ ρ₁) id shrink := by
  unfold shrink
  refine Action.mirrors_get_bind fun p q h => ?_
  rw [h.len]
  refine Action.mirrors_ite ?_ (Action.mirrors_fault _ _)
  exact Action.mirrors_set { h with len := rfl }

theorem mirrors_flip : flip.Mirrors (Related g ρ₀ ρ₁) id flip :=
  Action.mirrors_modify fun _ _ h => { h with hot := congrArg Flow.other h.hot }

theorem mirrors_deliver (flow : Flow) (v : V) :
    (deliver flow v).Mirrors (Related g ρ₀ ρ₁) (Except.map g) (deliver flow (g v)) := by
  unfold deliver
  refine Action.mirrors_bind mirrors_shrink fun _ => ?_
  refine Action.mirrors_bind (mirrors_count _) fun _ => ?_
  refine Action.mirrors_get_bind fun p q h => ?_
  rw [h.hot, h.len]
  refine Action.mirrors_bind (Action.mirrors_emit _) fun _ => ?_
  exact Action.mirrors_pure (Except.map g) (.ok v)

/-! ## The requests -/

variable [SubQueue Q₀ V] [SubQueue Q₁ V] [SubQueue Q₀' W] [SubQueue Q₁' W]

/-- Schedulers are related as they begin, if the sub-queues they are built of are. -/
theorem related_of_build {c : Config V} {c' : Config W} {queue0 : Q₀} {queue1 : Q₁} {queue0' : Q₀'}
    {queue1' : Q₁'} {p : Pifo V Q₀ Q₁} {q : Pifo W Q₀' Q₁'}
    (built : build c queue0 queue1 = .ok p) (built' : build c' queue0' queue1' = .ok q)
    (hflowCapacity : c'.flowCapacity = c.flowCapacity)
    (classify : ∀ v, c'.classifier.classify (g v) = c.classifier.classify v)
    (h₀ : ρ₀ queue0 queue0') (h₁ : ρ₁ queue1 queue1') : Related g ρ₀ ρ₁ p q := by
  obtain ⟨-, -, -, rfl⟩ := build_eq_ok_iff.mp built
  obtain ⟨-, -, -, rfl⟩ := build_eq_ok_iff.mp built'
  have hcapacity : c'.totalCapacity = c.totalCapacity := by
    unfold Config.totalCapacity
    rw [hflowCapacity]
  exact ⟨h₀, h₁, classify, rfl, rfl, hcapacity, rfl⟩

variable (sim₀ : SubQueue.Simulation g ρ₀) (sim₁ : SubQueue.Simulation g ρ₁)

include sim₀ sim₁

/-- Related schedulers look the same from outside. -/
theorem Related.observe_eq {p : Pifo V Q₀ Q₁} {q : Pifo W Q₀' Q₁'} (h : Related g ρ₀ ρ₁ p q) :
    q.observe = p.observe := by
  unfold observe flowLen
  rw [h.hot, h.len, sim₀.len_eq h.queue0, sim₁.len_eq h.queue1]

theorem mirrors_subPush (flow : Flow) (v : V) :
    (subPush flow v).Mirrors (Related g ρ₀ ρ₁) id (subPush flow (g v)) := by
  intro p q h
  cases flow with
  | zero =>
    obtain ⟨hqueue, hanswer⟩ := sim₀.push h.queue0 v
    exact ⟨{ h with queue0 := hqueue }, rfl, congrArg Except.ok hanswer⟩
  | one =>
    obtain ⟨hqueue, hanswer⟩ := sim₁.push h.queue1 v
    exact ⟨{ h with queue1 := hqueue }, rfl, congrArg Except.ok hanswer⟩

theorem mirrors_subPop (flow : Flow) :
    (subPop flow).Mirrors (Related g ρ₀ ρ₁) (Except.map g) (subPop flow) := by
  intro p q h
  cases flow with
  | zero =>
    obtain ⟨hqueue, hanswer⟩ := sim₀.pop h.queue0
    exact ⟨{ h with queue0 := hqueue }, rfl, congrArg Except.ok hanswer⟩
  | one =>
    obtain ⟨hqueue, hanswer⟩ := sim₁.pop h.queue1
    exact ⟨{ h with queue1 := hqueue }, rfl, congrArg Except.ok hanswer⟩

theorem mirrors_subPeek (flow : Flow) :
    (subPeek flow).Mirrors (Related g ρ₀ ρ₁) (Except.map g) (subPeek flow) := by
  intro p q h
  cases flow with
  | zero =>
    obtain ⟨hqueue, hanswer⟩ := sim₀.peek h.queue0
    exact ⟨{ h with queue0 := hqueue }, rfl, congrArg Except.ok hanswer⟩
  | one =>
    obtain ⟨hqueue, hanswer⟩ := sim₁.peek h.queue1
    exact ⟨{ h with queue1 := hqueue }, rfl, congrArg Except.ok hanswer⟩

theorem mirrors_push (v : V) : (push v).Mirrors (Related g ρ₀ ρ₁) id (push (g v)) := by
  unfold push
  refine Action.mirrors_get_bind fun p q h => ?_
  rw [h.capacity, h.len, h.classify]
  apply Action.mirrors_ite
  · -- Full: no sub-queue is asked.
    refine Action.mirrors_bind (mirrors_count _) fun _ => ?_
    refine Action.mirrors_bind (Action.mirrors_emit _) fun _ => ?_
    exact Action.mirrors_pure id _
  · refine Action.mirrors_bind (mirrors_subPush sim₀ sim₁ _ v) fun a => ?_
    cases a with
    | error e =>
      refine Action.mirrors_bind (mirrors_count _) fun _ => ?_
      refine Action.mirrors_bind (Action.mirrors_emit _) fun _ => ?_
      exact Action.mirrors_pure id _
    | ok _ =>
      refine Action.mirrors_bind mirrors_grow fun _ => ?_
      refine Action.mirrors_bind (mirrors_count _) fun _ => ?_
      -- The length reported is read after the value has been counted in.
      refine Action.mirrors_get_bind fun p' q' h' => ?_
      rw [h'.len]
      refine Action.mirrors_bind (Action.mirrors_emit _) fun _ => ?_
      exact Action.mirrors_pure id _

theorem mirrors_pop : pop.Mirrors (Related g ρ₀ ρ₁) (Except.map g) pop := by
  unfold pop
  refine Action.mirrors_get_bind fun p q h => ?_
  rw [h.len, h.hot]
  apply Action.mirrors_ite
  · refine Action.mirrors_bind (mirrors_count _) fun _ => ?_
    refine Action.mirrors_bind (Action.mirrors_emit _) fun _ => ?_
    exact Action.mirrors_pure (Except.map g) (.error QueueError.underflow)
  · refine Action.mirrors_bind (mirrors_subPop sim₀ sim₁ p.hot) fun a => ?_
    -- The answers are of one kind, so both schedulers take the same branch.
    cases a with
    | ok v =>
      refine Action.mirrors_bind mirrors_flip fun _ => ?_
      refine Action.mirrors_bind (mirrors_count _) fun _ => ?_
      exact mirrors_deliver p.hot v
    | error e =>
      refine Action.mirrors_bind (Action.mirrors_emit _) fun _ => ?_
      refine Action.mirrors_bind (mirrors_subPop sim₀ sim₁ p.hot.other) fun a => ?_
      cases a with
      | ok v =>
        refine Action.mirrors_bind (mirrors_count _) fun _ => ?_
        exact mirrors_deliver p.hot.other v
      | error e =>
        refine Action.mirrors_bind (mirrors_count _) fun _ => ?_
        refine Action.mirrors_bind (Action.mirrors_emit _) fun _ => ?_
        exact Action.mirrors_pure (Except.map g) (.error e)

theorem mirrors_peek : peek.Mirrors (Related g ρ₀ ρ₁) (Except.map g) peek := by
  unfold peek
  refine Action.mirrors_get_bind fun p q h => ?_
  rw [h.len, h.hot]
  apply Action.mirrors_ite
  · exact Action.mirrors_pure (Except.map g) (.error QueueError.underflow)
  · refine Action.mirrors_bind (mirrors_subPeek sim₀ sim₁ p.hot) fun a => ?_
    cases a with
    | ok v => exact Action.mirrors_pure (Except.map g) (.ok v)
    | error e => exact mirrors_subPeek sim₀ sim₁ p.hot.other

/-- **A request is mirrored.** -/
theorem mirrors_handle (r : Request V) :
    (handle r).Mirrors (Related g ρ₀ ρ₁) (Except.map (Option.map g)) (handle (r.map g)) := by
  cases r with
  | pop =>
    refine Action.mirrors_bind (mirrors_pop sim₀ sim₁) fun a => ?_
    cases a <;> exact Action.mirrors_pure (Except.map (Option.map g)) _
  | peek =>
    refine Action.mirrors_bind (mirrors_peek sim₀ sim₁) fun a => ?_
    cases a <;> exact Action.mirrors_pure (Except.map (Option.map g)) _
  | push v =>
    refine Action.mirrors_bind (mirrors_push sim₀ sim₁ v) fun a => ?_
    cases a <;> exact Action.mirrors_pure (Except.map (Option.map g)) _

/-- **A list of requests is mirrored.** -/
theorem mirrors_serve (requests : List (Request V)) :
    (serve requests).Mirrors (Related g ρ₀ ρ₁) (List.map (Except.map (Option.map g)))
      (serve (requests.map (Request.map g))) := by
  induction requests with
  | nil => exact Action.mirrors_pure (List.map (Except.map (Option.map g))) []
  | cons r rest ih =>
    refine Action.mirrors_bind (mirrors_handle sim₀ sim₁ r) fun a => ?_
    refine Action.mirrors_bind ih fun later => ?_
    exact Action.mirrors_pure (List.map (Except.map (Option.map g))) (a :: later)

/-- **A drain is mirrored.** -/
theorem mirrors_drain {p : Pifo V Q₀ Q₁} {q : Pifo W Q₀' Q₁'} (h : Related g ρ₀ ρ₁ p q) :
    (drain p).Mirrors (Related g ρ₀ ρ₁) (List.map g) (drain q) := by
  induction p using drain.induct generalizing q with
  | case1 p p' es v hpop hlt ih =>
    -- The first pops agree, and the schedulers that they leave are related.
    obtain ⟨q', hq, hrelated⟩ := (hpop ▸ mirrors_pop sim₀ sim₁ h).exists_eq
    have hrest := ih hrelated
    rw [drain_of_value hpop, drain_of_value (v := g v) hq]
    refine ⟨hrest.state, congrArg (es ++ ·) hrest.events, ?_⟩
    show (drain q').outcome.map (g v :: ·) = ((drain p').outcome.map (v :: ·)).map (List.map g)
    rw [hrest.outcome]
    cases (drain p').outcome <;> rfl
  | case2 p p' es e hpop =>
    obtain ⟨q', hq, hrelated⟩ := (hpop ▸ mirrors_pop sim₀ sim₁ h).exists_eq
    rw [drain_of_rejection hpop, drain_of_rejection (e := e) hq]
    exact ⟨hrelated, rfl, rfl⟩
  | case3 p p' es e hpop =>
    obtain ⟨q', hq, hrelated⟩ := (hpop ▸ mirrors_pop sim₀ sim₁ h).exists_eq
    rw [drain_of_fault hpop, drain_of_fault (e := e) hq]
    exact ⟨hrelated, rfl, rfl⟩

end Pifo

end TwoFlow
