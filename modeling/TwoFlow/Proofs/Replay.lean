import TwoFlow.Proofs.Generation
import TwoFlow.Proofs.Recording
import TwoFlow.Proofs.Verification
import TwoFlow.Replay.Run

/-!
# Replays raise no false alarm

A session replays requests against a target, records them and verifies the whole history after each
replay. Where the target is a front of a scheduler over the stock queues, the scheduler itself or a
shared one, the history it writes is one that the reference model could have written, so every check
passes after every call, however many calls there are and however they are mixed, as long as there
is room for their requests.

The invariant ties together what the four checks look at: the scheduler is sound, it holds what the
model holds, and the history is what the model has written on its way. A request uses up headroom of
the scheduler, and generating uses up headroom of the count of pushes.

## Main definitions

* `Target.Front`: a target that serves requests by a scheduler
* `Session.InStep`: the invariant of a session
* `Session.Call`, `Session.performAll`: replays of given and of generated requests, in any order
* `Session.NoAlarm`: the calls return, and no check reports anything

## Main results

* `Session.InStep.exists_replayOne`, `Session.InStep.exists_replay`, `Session.InStep.exists_run`,
  `Session.InStep.exists_performAll`: a request, a replay, a run and any calls keep a session in
  step
* `Replay.calls_raise_no_alarm`: no false alarms, in a session and in the replay tool, for as many
  requests as a history has room for
* `Replay.run_of_long_stream_aborts`: a stream that is too long to be held is not replayed
-/

namespace TwoFlow

/-! ## Fronts of a scheduler -/

/-- **A front of a scheduler**: a target that serves each request by its scheduler and shows what
the scheduler shows. -/
class Target.Front (τ : Type) [Target τ] where
  /-- The scheduler behind the front. -/
  pifo : τ → Pifo Value (Fifo Value) (Fifo Value)
  executes {t : τ} {r : Request Value} {p : Pifo Value (Fifo Value) (Fifo Value)} {es : List Event}
    {a : Response Value} (served : (Pifo.handle r).run (pifo t) = ⟨p, es, .ok a⟩) :
    ∃ t', (executeObserved r).run t = ⟨t', es, .ok (a, p.observe)⟩ ∧ pifo t' = p

theorem Pifo.run_handle_observe {p₀ p : Pifo Value (Fifo Value) (Fifo Value)} {r : Request Value}
    {es : List Event} {a : Response Value} (served : (handle r).run p₀ = ⟨p, es, .ok a⟩) :
    (do
      let response ← handle r
      return (response, (← get).observe) : Action Event _ _).run p₀ =
      ⟨p, es, .ok (a, p.observe)⟩ := by
  rw [Action.run_bind, served]
  simp

instance : Target.Front (Pifo Value (Fifo Value) (Fifo Value)) where
  pifo := id
  executes {_ _ p _ _} served := ⟨p, Pifo.run_handle_observe served, rfl⟩

/-- What is done under the lock is done to the scheduler, and a fault poisons the lock. -/
theorem Shared.run_exclusively {V Q₀ Q₁ α : Type} {x : Action Event (Pifo V Q₀ Q₁) α}
    {s : Shared V Q₀ Q₁} {p : Pifo V Q₀ Q₁} {es : List Event} {o : Except Fault α}
    (h : x.run s.pifo = ⟨p, es, o⟩) :
    (exclusively x).run s = ⟨⟨p, s.poisoned || !o.isOk⟩, es, o⟩ := by
  show Step.mk (Shared.mk (x.run s.pifo).state (s.poisoned || !(x.run s.pifo).outcome.isOk))
    (x.run s.pifo).events (x.run s.pifo).outcome = _
  rw [h]

instance : Target.Front (Shared Value (Fifo Value) (Fifo Value)) where
  pifo := Shared.pifo
  executes served :=
    ⟨_, Shared.run_exclusively (Pifo.run_handle_observe served), rfl⟩

/-! ## Recording -/

theorem History.complete_invoke (h : History) (r : Request Value) (result : Result)
    (observed : Observation) :
    (h.invoke r).2.complete h.nextId result observed =
      .ok ⟨⟨h.nextId, r, some ⟨result, observed⟩⟩ :: h.newestFirst⟩ := by
  simp [invoke, complete, completeIn, Except.map]

namespace Session

open Verification Target

section Recording

variable {τ α : Type}

theorem run_onTarget {x : Action Event τ α} {s : Session τ} {t : τ} {es : List Event}
    {o : Except Fault α} (h : x.run s.target = ⟨t, es, o⟩) :
    (onTarget x).run s = ⟨{ s with target := t }, es.map .scheduler, o⟩ := by
  show Step.mk { s with target := (x.run s.target).state }
    ((x.run s.target).events.map WorkloadEvent.scheduler) (x.run s.target).outcome = _
  rw [h]

/-- The session after a request: its target has moved on and the request is recorded. -/
def recording (s : Session τ) (r : Request Value) (done : Completion) (t : τ) : Session τ :=
  let h := s.workload.history
  { workload := { s.workload with history := ⟨⟨h.nextId, r, some done⟩ :: h.newestFirst⟩ }
    target := t }

theorem run_complete_invoke (s : Session τ) (r : Request Value) (result : Result)
    (observed : Observation) (t : τ) :
    (complete s.workload.history.nextId result observed).run
        { workload := { s.workload with history := (s.workload.history.invoke r).2 }
          target := t } =
      ⟨s.recording r ⟨result, observed⟩ t, [], .ok ()⟩ := by
  apply run_onWorkload
  simp only [Action.run_bind, Action.run_get, Step.andThen_ok, Action.run_lift,
    History.complete_invoke, Action.run_set, List.append_nil]

end Recording

variable {τ : Type} [Target τ]

/-- **A request that is served is recorded**, with its result and the state right after it. -/
theorem exists_run_replayOne {s : Session τ} {r : Request Value} {t : τ} {es : List Event}
    {a : Response Value} {observed : Observation}
    (served : (executeObserved r).run s.target = ⟨t, es, .ok (a, observed)⟩) (tally : Tally) :
    ∃ es' tally', (replayOne tally r).run s =
      ⟨s.recording r ⟨.ofResponse a, observed⟩ t, es', .ok tally'⟩ := by
  have hinvoke : (invoke r).run s =
      ⟨{ s with workload := { s.workload with history := (s.workload.history.invoke r).2 } }, [],
        .ok s.workload.history.nextId⟩ := rfl
  have hserved := run_onTarget
    (s := { s with workload := { s.workload with history := (s.workload.history.invoke r).2 } })
    served
  simp only [replayOne, Action.run_bind, hinvoke, Step.andThen_ok, hserved, run_complete_invoke]
  -- The tally has the request in it either way; a result of another kind is reported.
  split
  · exact ⟨_, _, rfl⟩
  · exact ⟨_, _, rfl⟩

/-- **What a request that returned has done**, whatever the target: the target has answered it, it
is recorded, and it is counted or reported as a result of another kind. -/
theorem exists_of_replayOne {s s' : Session τ} {r : Request Value} {tally tally' : Tally}
    {es : List WorkloadEvent} (returned : (replayOne tally r).run s = ⟨s', es, .ok tally'⟩) :
    ∃ t es₁ a observed, (executeObserved r).run s.target = ⟨t, es₁, .ok (a, observed)⟩ ∧
      s' = s.recording r ⟨.ofResponse a, observed⟩ t ∧
      (({ tally with operationsTotal := tally.operationsTotal + 1 } : Tally).count? r.command
          (.ofResponse a) = some tally' ∧ es = es₁.map .scheduler ∨
        ({ tally with operationsTotal := tally.operationsTotal + 1 } : Tally).count? r.command
          (.ofResponse a) = none) := by
  have hinvoke : (invoke r).run s =
      ⟨{ s with workload := { s.workload with history := (s.workload.history.invoke r).2 } }, [],
        .ok s.workload.history.nextId⟩ := rfl
  rcases hexecuted : (executeObserved r).run s.target with ⟨t, es₁, o⟩
  have hserved := run_onTarget
    (s := { s with workload := { s.workload with history := (s.workload.history.invoke r).2 } })
    hexecuted
  simp only [replayOne, Action.run_bind, hinvoke, Step.andThen_ok, hserved] at returned
  cases o with
  | error e =>
    -- The target has broken off, and the request with it.
    rw [Step.andThen_error] at returned
    cases returned
  | ok answered =>
    obtain ⟨a, observed⟩ := answered
    simp only [Step.andThen_ok, Action.run_bind, run_complete_invoke] at returned
    refine ⟨t, es₁, a, observed, rfl, ?_⟩
    cases hcount : ({ tally with operationsTotal := tally.operationsTotal + 1 } : Tally).count?
        r.command (.ofResponse a) with
    | none =>
      rw [hcount] at returned
      cases returned
      exact ⟨rfl, .inr rfl⟩
    | some counted =>
      rw [hcount] at returned
      simp only [Action.run_pure, List.nil_append, List.append_nil] at returned
      cases returned
      exact ⟨rfl, .inl ⟨rfl, rfl⟩⟩

/-- **What a replay that returned has done**, whatever the target: it has served all requests and
read its report off the history that they left. -/
theorem exists_of_replay {s s' : Session τ} {requests : List (Request Value)}
    {es : List WorkloadEvent} {summary : Summary}
    (returned : (replay requests).run s = ⟨s', es, .ok summary⟩) :
    ∃ es₁, (replayAll {} requests).run s = ⟨s', es₁, .ok summary.tally⟩ ∧
      summary.answers = s'.workload.history.answers ∧
      es = es₁ ++ [.complete s'.workload.config.seed summary.tally.operationsTotal
        summary.tally.operationsOk summary.tally.overflows summary.tally.underflows
        summary.violations.length] := by
  unfold replay at returned
  obtain ⟨s₁, es₁, tally, es₂, hall, hverified, rfl⟩ := Action.exists_of_run_bind returned
  simp only [Action.run_bind, Action.run_get, Step.andThen_ok, Action.run_lift] at hverified
  cases hcheck : verify s₁.workload.config.pifo s₁.workload.history with
  | error e =>
    rw [hcheck] at hverified
    cases hverified
  | ok violations =>
    rw [hcheck] at hverified
    cases hverified
    exact ⟨es₁, hall, rfl, rfl⟩

/-! ## Sessions in step -/

variable [Front τ]

/-- **A session in step with the model.** The scheduler behind the target is sound, holds what the
model holds and has headroom for `n` more requests; the history is what the model has written; and
`k` more pushes can be generated. -/
structure InStep (c : WorkloadConfig) (n k : Nat) (s : Session τ) (m : Model) : Prop where
  config : s.workload.config = c
  sound : (Front.pifo s.target).Sound c.pifo
  room : (Front.pifo s.target).Headroom n
  modelConfig : m.config = c.pifo
  backlog : (Front.pifo s.target).backlog = m.backlog
  recorded : Recorded (.ofConfig c.pifo) s.workload.history.operations m
  pushes : s.workload.pushesGenerated + k < wordLimit

variable {c : WorkloadConfig} {n k : Nat} {s : Session τ} {m : Model}

/-- **One request** keeps a session in step. -/
theorem InStep.exists_replayOne (h : InStep c (n + 1) k s m) (r : Request Value) (tally : Tally) :
    ∃ s' m' es tally', (replayOne tally r).run s = ⟨s', es, .ok tally'⟩ ∧ InStep c n k s' m' ∧
      s'.workload.history.len = s.workload.history.len + 1 := by
  obtain ⟨p, es, a, hrun⟩ := Pifo.exists_run (h.room.mono (Nat.le_add_left 1 n)) r
  have way := Pifo.transition_of_run hrun
  have taken := h.sound.takes way
  have hsound := h.sound.transition way
  have hroom := way.headroom h.room
  obtain ⟨t, hexecuted, rfl⟩ := Front.executes hrun
  obtain ⟨es', tally', hreplay⟩ := exists_run_replayOne hexecuted tally
  -- The model serves the same request, by the same turn of the same backlog.
  have hcap : m.config.flowCapacity * 2 < wordLimit := by
    rw [h.modelConfig]
    exact ((Config.validate_eq_ok_iff _).mp h.sound.valid).2
  obtain ⟨m', happly, hnext, hconfig⟩ := Model.apply_eq_turn hcap r
  rw [← h.backlog, h.modelConfig] at happly hnext
  have hbacklog : (Front.pifo t).backlog = m'.backlog := taken.backlog.trans hnext.symm
  have hstate : (Front.pifo t).observe = m'.state := by
    rw [hsound.observe_eq, m'.state_eq, hbacklog]
  refine ⟨_, m', es', tally', hreplay, ?_, rfl⟩
  exact
    { config := h.config
      sound := hsound
      room := hroom
      modelConfig := hconfig.trans h.modelConfig
      backlog := hbacklog
      recorded := by
        rw [recording, History.operations_cons]
        refine h.recorded.append (.cons happly ?_ (.nil m'))
        rw [taken.response, hstate]
      pushes := h.pushes }

/-- Any requests keep a session in step. -/
theorem InStep.exists_replayAll {requests : List (Request Value)}
    (h : InStep c (n + requests.length) k s m) (tally : Tally) :
    ∃ s' m' es tally', (replayAll tally requests).run s = ⟨s', es, .ok tally'⟩ ∧
      InStep c n k s' m' ∧
      s'.workload.history.len = s.workload.history.len + requests.length := by
  induction requests generalizing s m tally with
  | nil => exact ⟨s, m, [], tally, rfl, h, rfl⟩
  | cons r rest ih =>
    obtain ⟨s₁, m₁, es₁, tally₁, hrun₁, hstep₁, hlen₁⟩ := h.exists_replayOne r tally
    obtain ⟨s₂, m₂, es₂, tally₂, hrun₂, hstep₂, hlen₂⟩ := ih hstep₁ tally₁
    refine ⟨s₂, m₂, es₁ ++ es₂, tally₂, ?_, hstep₂, ?_⟩
    · simp only [replayAll, Action.run_bind, hrun₁, Step.andThen_ok, hrun₂]
    · rw [hlen₂, hlen₁, List.length_cons]
      omega

/-- **A replay** returns without violations and keeps the session in step. -/
theorem InStep.exists_replay {requests : List (Request Value)}
    (h : InStep c (n + requests.length) k s m) :
    ∃ s' m' es summary, (replay requests).run s = ⟨s', es, .ok summary⟩ ∧
      summary.violations = [] ∧ InStep c n k s' m' ∧
      s'.workload.history.len = s.workload.history.len + requests.length := by
  obtain ⟨s', m', es, tally, hrun, hstep, hlen⟩ := h.exists_replayAll {}
  -- The history is verified from its beginning, with all that earlier calls have left in it.
  have hverify : verify s'.workload.config.pifo s'.workload.history = .ok [] := by
    rw [hstep.config]
    exact hstep.recorded.clean.verify
  simp only [replay, Action.run_bind, hrun, Step.andThen_ok, Action.run_get, Action.run_lift,
    hverify, Action.run_emit, Action.run_pure]
  exact ⟨s', m', _, _, rfl, rfl, hstep, hlen⟩

/-- **A run** returns without violations and keeps the session in step, where its ratio is a
probability and its stream can be held. -/
theorem InStep.exists_run (h : InStep c (n + c.operations) (k + c.operations) s m)
    (hratio : c.peekRatio.inUnit = true) (hheld : c.operations < Workload.streamLimit) :
    ∃ s' m' es summary, (run : Action WorkloadEvent (Session τ) Summary).run s =
        ⟨s', es, .ok summary⟩ ∧
      summary.violations = [] ∧ InStep c n k s' m' ∧
      s'.workload.history.len = s.workload.history.len + c.operations := by
  have hconfig := h.config
  obtain ⟨w, requests, hgenerate, hlength, hdrawn⟩ :=
    Workload.exists_generate (w := s.workload) (hconfig ▸ hratio) (hconfig ▸ hheld) (by
      rw [hconfig]
      have := h.pushes
      omega)
  rw [hconfig] at hlength hdrawn
  -- Generating spends pushes and leaves the scheduler its headroom, which the replay spends.
  have hstep : InStep c (n + requests.length) k { s with workload := w } m :=
    { config := hdrawn.config.trans hconfig
      sound := h.sound
      room := hlength ▸ h.room
      modelConfig := h.modelConfig
      backlog := h.backlog
      recorded := hdrawn.history ▸ h.recorded
      pushes := by
        have hspent := hdrawn.pushes
        have hroom := h.pushes
        show w.pushesGenerated + k < wordLimit
        omega }
  obtain ⟨s', m', es, summary, hrun, hviolations, hstep', hlen⟩ := hstep.exists_replay
  refine ⟨s', m', es, summary, ?_, hviolations, hstep', ?_⟩
  · simp only [Session.run, Action.run_bind, run_onWorkload hgenerate, Step.andThen_ok, hrun,
      List.nil_append]
  · rw [hlen, hdrawn.history, hlength]

/-! ## Calls -/

/-- A call of a session. -/
inductive Call where
  /-- Replay these requests. -/
  | replay (requests : List (Request Value))
  /-- Generate a stream and replay it. -/
  | run

/-- How many requests a call replays. -/
def Call.size (c : WorkloadConfig) : Call → Nat
  | replay requests => requests.length
  | run => c.operations

/-- The call as an action. -/
def Call.perform : Call → Action WorkloadEvent (Session τ) Summary
  | replay requests => Session.replay requests
  | run => Session.run

/-- Makes calls one after the other. -/
def performAll : List Call → Action WorkloadEvent (Session τ) (List Summary)
  | [] => return []
  | call :: rest => do
    let summary ← call.perform
    return summary :: (← performAll rest)

/-- How many requests some calls replay. -/
def totalSize (c : WorkloadConfig) : List Call → Nat
  | [] => 0
  | call :: rest => call.size c + totalSize c rest

theorem size_le_totalSize (c : WorkloadConfig) {call : Call} {calls : List Call}
    (hcall : call ∈ calls) : call.size c ≤ totalSize c calls := by
  induction calls with
  | nil => cases hcall
  | cons first rest ih =>
    rw [totalSize]
    rcases List.mem_cons.mp hcall with rfl | hrest
    · exact Nat.le_add_right _ _
    · exact Nat.le_trans (ih hrest) (Nat.le_add_left _ _)

/-- The call can be made: a run needs a ratio that is a probability, and a stream that can be
held. -/
def Call.Allowed (c : WorkloadConfig) (call : Call) : Prop :=
  call = run → c.peekRatio.inUnit = true ∧ c.operations < Workload.streamLimit

theorem InStep.exists_perform {call : Call} (h : InStep c (n + call.size c) (n + call.size c) s m)
    (allowed : call.Allowed c) :
    ∃ s' m' es summary, call.perform.run s = ⟨s', es, .ok summary⟩ ∧ summary.violations = [] ∧
      InStep c n n s' m' ∧ s'.workload.history.len = s.workload.history.len + call.size c := by
  cases call with
  | replay requests =>
    obtain ⟨s', m', es, summary, hrun, hviolations, hstep, hlen⟩ := h.exists_replay
    have hpushes := hstep.pushes
    exact ⟨s', m', es, summary, hrun, hviolations, { hstep with pushes := by omega }, hlen⟩
  | run =>
    obtain ⟨hratio, hheld⟩ := allowed rfl
    exact h.exists_run hratio hheld

/-- **Any calls** return without violations and keep the session in step. -/
theorem InStep.exists_performAll {calls : List Call}
    (h : InStep c (n + totalSize c calls) (n + totalSize c calls) s m)
    (allowed : ∀ call ∈ calls, call.Allowed c) :
    ∃ s' m' es summaries, (performAll calls).run s = ⟨s', es, .ok summaries⟩ ∧
      summaries.length = calls.length ∧ (∀ x ∈ summaries, x.violations = []) ∧
      InStep c n n s' m' ∧
      s'.workload.history.len = s.workload.history.len + totalSize c calls := by
  induction calls generalizing s m with
  | nil => exact ⟨s, m, [], [], rfl, rfl, nofun, h, rfl⟩
  | cons call rest ih =>
    -- The first call leaves the headroom that the others need.
    have hsize : totalSize c (call :: rest) = call.size c + totalSize c rest := rfl
    have hsplit : n + totalSize c (call :: rest) = n + totalSize c rest + call.size c := by omega
    rw [hsplit] at h
    obtain ⟨s₁, m₁, es₁, summary, hrun₁, hclean₁, hstep₁, hlen₁⟩ :=
      h.exists_perform (allowed call List.mem_cons_self)
    obtain ⟨s₂, m₂, es₂, summaries, hrun₂, hlength, hclean₂, hstep₂, hlen₂⟩ :=
      ih hstep₁ fun x hx => allowed x (List.mem_cons_of_mem _ hx)
    refine ⟨s₂, m₂, es₁ ++ es₂, summary :: summaries, ?_, congrArg (· + 1) hlength, ?_, hstep₂, ?_⟩
    · simp only [performAll, Action.run_bind, hrun₁, hrun₂, Step.andThen_ok, Action.run_pure,
        List.append_nil]
    · intro x hx
      rcases List.mem_cons.mp hx with rfl | hx
      · exact hclean₁
      · exact hclean₂ x hx
    · rw [hlen₂, hlen₁, hsize]
      omega

/-- A session is in step as it begins, and what it has headroom for may all be used up. -/
theorem inStep_of_withFifos {t : τ} (built : Pifo.withFifos c.pifo = .ok (Front.pifo t))
    (few : n < wordLimit) : InStep c (0 + n) (0 + n) ⟨.ofConfig c, t⟩ (.ofConfig c.pifo) := by
  obtain ⟨hsound, hempty, hstats⟩ := Pifo.sound_of_build built
  rw [Nat.zero_add]
  exact
    { config := rfl
      sound := hsound
      room := hsound.headroom hstats few
      modelConfig := rfl
      backlog := hempty
      recorded := .nil _
      pushes := by
        show 0 + n < wordLimit
        omega }

/-- **No alarm**: every one of the calls returns, with no violation; all their requests are in the
history then, and each of the four checks finds nothing in it. -/
def NoAlarm (s : Session τ) (calls : List Call) : Prop :=
  ∃ s' es summaries, (performAll calls).run s = ⟨s', es, .ok summaries⟩ ∧
    summaries.length = calls.length ∧ (∀ x ∈ summaries, x.violations = []) ∧
    s'.workload.history.len = totalSize s.workload.config calls ∧
    Clean s.workload.config.pifo s'.workload.history

theorem noAlarm_of_withFifos {t : τ} (built : Pifo.withFifos c.pifo = .ok (Front.pifo t))
    {calls : List Call} (few : totalSize c calls < wordLimit)
    (allowed : ∀ call ∈ calls, call.Allowed c) : NoAlarm ⟨.ofConfig c, t⟩ calls := by
  obtain ⟨s', m', es, summaries, hrun, hlength, hclean, hstep, hlen⟩ :=
    (inStep_of_withFifos built few).exists_performAll allowed
  exact ⟨s', es, summaries, hrun, hlength, hclean, hlen.trans (Nat.zero_add _),
    hstep.recorded.clean⟩

/-- Of requests that a history has room for, every stream can be held. -/
theorem Call.allowed_of_totalSize_le {call : Call} {calls : List Call} (hcall : call ∈ calls)
    (held : totalSize c calls ≤ History.limit)
    (hratio : .run ∈ calls → c.peekRatio.inUnit = true) : call.Allowed c := by
  rintro rfl
  have hsize : c.operations ≤ History.limit := Nat.le_trans (size_le_totalSize c hcall) held
  exact ⟨hratio hcall, Nat.lt_of_le_of_lt hsize (by decide)⟩

end Session

/-! ## The replay tool -/

namespace Replay

open Session

/-- Valid options of a replay: a ratio that is a probability, and a valid configuration. -/
def Options.Valid (o : Options) : Prop :=
  o.peekRatio.inUnit = true ∧ o.workload.pifo.validate = .ok ()

/-- The version and the help text are always to be had. -/
def Invocation.Valid : Invocation → Prop
  | replay o => o.Valid
  | version | help => True

section Against

variable {τ : Type} [Target τ] {o : Options} {t : τ}

theorem status_replayAgainst [Target.Front τ]
    (built : Pifo.withFifos o.workload.pifo = .ok (Target.Front.pifo t))
    (hratio : o.peekRatio.inUnit = true) (held : o.operations ≤ History.limit)
    (stats : τ → Stats) : (replayAgainst o t stats).status = success := by
  have hstream : o.operations < Workload.streamLimit := Nat.lt_of_le_of_lt held (by decide)
  have few : o.operations < wordLimit := Nat.lt_trans hstream (by decide)
  obtain ⟨s', -, es, summary, hrun, hviolations, -⟩ :=
    (inStep_of_withFifos (c := o.workload) built few).exists_run hratio hstream
  simp only [replayAgainst, hrun, hviolations, List.isEmpty_nil, if_true]

end Against

theorem execute_of_built {o : Options} {p : Pifo Value (Fifo Value) (Fifo Value)}
    (hratio : o.peekRatio.inUnit = true) (built : Pifo.withFifos o.workload.pifo = .ok p) :
    execute o =
      if o.shared then replayAgainst o ({ pifo := p } : Shared Value _ _) (·.pifo.stats)
      else replayAgainst o p (·.stats) := by
  simp only [execute, hratio, built, Bool.not_true, Bool.false_eq_true, if_false]

/-- **The status of a replay** that a history has room for is that of success exactly for valid
options. -/
theorem status_execute_eq_success_iff {o : Options} (held : o.operations ≤ History.limit) :
    (execute o).status = success ↔ o.Valid := by
  cases hratio : o.peekRatio.inUnit with
  | false =>
    refine iff_of_false ?_ fun h => Bool.false_ne_true (hratio.symm.trans h.1)
    simp only [execute, hratio, Bool.not_false, if_true, refused]
    decide
  | true =>
    cases hbuilt : Pifo.withFifos o.workload.pifo with
    | error e =>
      -- Over the stock queues nothing but an invalid configuration is refused.
      refine iff_of_false ?_ fun h => ?_
      · simp only [execute, hratio, hbuilt, Bool.not_true, Bool.false_eq_true, if_false, refused]
        decide
      · obtain ⟨p, hp⟩ := Pifo.exists_withFifos h.2
        rw [hbuilt] at hp
        cases hp
    | ok p =>
      have hvalid := (Pifo.sound_of_build hbuilt).1.valid
      rw [execute_of_built hratio hbuilt]
      refine iff_of_true ?_ ⟨hratio, hvalid⟩
      split
      · exact status_replayAgainst (t := (⟨p, false⟩ : Shared _ _ _)) hbuilt hratio held _
      · exact status_replayAgainst (t := p) hbuilt hratio held _

/-- **The status of the tool** is that of success exactly for arguments that ask for the version,
the help text or a replay with valid options, as long as a history has room for the replay. -/
theorem status_invoke_eq_success_iff {args : List String}
    (held : ∀ o, parse args = .ok (.replay o) → o.operations ≤ History.limit) :
    (invoke args).status = success ↔ ∃ i, parse args = .ok i ∧ i.Valid := by
  cases hparse : parse args with
  | error e =>
    refine iff_of_false ?_ (by rintro ⟨i, hi, -⟩; cases hi)
    simp only [invoke, hparse]
    decide
  | ok i =>
    have hvalid : (∃ j, (.ok i : Except UsageError Invocation) = .ok j ∧ j.Valid) ↔ i.Valid := by
      constructor
      · rintro ⟨j, hj, h⟩
        cases hj
        exact h
      · intro h
        exact ⟨i, rfl, h⟩
    rw [hvalid]
    cases i with
    | replay o =>
      simp only [invoke, hparse]
      exact status_execute_eq_success_iff (held o hparse)
    | version => exact iff_of_true (by rw [invoke, hparse]) trivial
    | help => exact iff_of_true (by rw [invoke, hparse]) trivial

/-- **No false alarms.** A workload and a scheduler, alone or shared, begin with the same valid
configuration. Then any replays and runs on the two, of requests that a history has room for, all
return without a violation, and each check finds nothing in the history that they leave. A run needs
a ratio that is a probability. As long as a history has room for the replay that the arguments of
the tool ask for, if they ask for one, the tool ends with success exactly if they are valid. -/
theorem calls_raise_no_alarm :
    (∀ (c : WorkloadConfig) (calls : List Call), c.pifo.validate = .ok () →
      totalSize c calls ≤ History.limit → (.run ∈ calls → c.peekRatio.inUnit = true) →
      ∃ p, Pifo.withFifos c.pifo = .ok p ∧ NoAlarm ⟨.ofConfig c, p⟩ calls ∧
        NoAlarm ⟨.ofConfig c, ({ pifo := p } : Shared Value _ _)⟩ calls) ∧
    ∀ args, (∀ o, parse args = .ok (.replay o) → o.operations ≤ History.limit) →
      ((invoke args).status = success ↔ ∃ i, parse args = .ok i ∧ i.Valid) := by
  refine ⟨fun c calls valid held hratio => ?_, fun args held => status_invoke_eq_success_iff held⟩
  obtain ⟨p, built⟩ := Pifo.exists_withFifos valid
  have few : totalSize c calls < wordLimit := Nat.lt_of_le_of_lt held (by decide)
  have allowed : ∀ call ∈ calls, call.Allowed c := fun call hcall =>
    Call.allowed_of_totalSize_le hcall held hratio
  exact ⟨p, built, noAlarm_of_withFifos (t := p) built few allowed,
    noAlarm_of_withFifos (t := (⟨p, false⟩ : Shared _ _ _)) built few allowed⟩

/-- A replay, a run of fifty requests on what it leaves and another replay; and the tool without
arguments. -/
theorem calls_raise_no_alarm_mixed :
    (∃ p, Pifo.withFifos (⟨2, 10⟩ : Config Value) = .ok p ∧
      NoAlarm ⟨.ofConfig { operations := 50, pifo := ⟨2, 10⟩ }, p⟩
        [.replay [.push 4, .push 11, .pop], .run, .replay [.peek]] ∧
      NoAlarm ⟨.ofConfig { operations := 50, pifo := ⟨2, 10⟩ }, ({ pifo := p } : Shared Value _ _)⟩
        [.replay [.push 4, .push 11, .pop], .run, .replay [.peek]]) ∧
    (invoke []).status = success := by
  obtain ⟨hcalls, htool⟩ := calls_raise_no_alarm
  refine ⟨?_, (htool [] ?_).mpr ⟨.replay {}, rfl, ?_, rfl⟩⟩
  · refine hcalls { operations := 50, pifo := ⟨2, 10⟩ } _ rfl (by decide) fun _ => ?_
    decide +kernel
  · intro o ho
    cases ho
    decide
  · decide +kernel

/-- **A stream that cannot be held.** At 2^60 requests, with a valid configuration and a ratio that
is a probability, a run breaks off before its first request, and so does the tool. -/
theorem run_of_long_stream_aborts :
    (Config.standard : Config Value).validate = .ok () ∧
      (({ operations := 1152921504606846976 } : WorkloadConfig).peekRatio.inUnit = true) ∧
      totalSize { operations := 1152921504606846976 } [.run] < wordLimit ∧
      (∃ p, Pifo.withFifos (Config.standard : Config Value) = .ok p ∧
        ((performAll [.run]).run ⟨.ofConfig { operations := 1152921504606846976 }, p⟩).outcome =
          .error .streamTooLong) ∧
      (invoke ["--operations", "1152921504606846976"]).status = aborted := by
  refine ⟨rfl, by decide +kernel, by decide, ?_, by decide +kernel⟩
  obtain ⟨p, built⟩ := Pifo.exists_withFifos (c := (Config.standard : Config Value)) rfl
  refine ⟨p, built, ?_⟩
  have hgenerate := run_onWorkload (s := ⟨.ofConfig { operations := 1152921504606846976 }, p⟩)
    (Workload.run_generate_of_le (w := .ofConfig { operations := 1152921504606846976 })
      (Nat.le_refl _))
  simp only [performAll, Call.perform, Session.run, Action.run_bind, hgenerate, Step.andThen_error]

end Replay

end TwoFlow
