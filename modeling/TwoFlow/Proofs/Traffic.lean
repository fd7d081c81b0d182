import TwoFlow.Proofs.Generation
import TwoFlow.Workload.Session

/-!
# Generated traffic follows its pattern

What is pushed next hangs on random words and on the number of pushes generated so far, which goes
on from one stream to the next and is raised by pushes alone. So the flows of the pushes of a
workload are told by their places among all of its pushes, wherever one stream ends and the next
begins, and whatever is replayed in between.

Nothing is asked of the random words. A value drawn from an interval lies in it for every state of
the source, and a yes or no is drawn for every probability. Replays change the history of a workload
and nothing else of it, even those that break off.

## Main definitions

* `Pattern.Permits`, `WorkloadConfig.Permits`: the flows, and the values, that may be pushed at a
  place
* `Workload.Traffic`: what generated requests say about the workload before and after them
* `Action.Leaves`: an action that leaves a part of the state alone, however it ends
* `Workload.Call`, `Workload.performAll`: streams generated one after the other, with replays in
  between

## Main results

* `Draw.between_mem`: a value drawn from an interval lies in it
* `Workload.traffic_of_generate`: the pushes of one stream
* `Session.leaves_replay`: a replay leaves what generates the traffic alone
* `Workload.traffic_follows_pattern`: the pushes of any number of streams
* `Workload.long_stream_is_not_generated`: a stream that is too long
-/

namespace TwoFlow

/-! ## Draws from an interval -/

namespace Draw

theorem run_bind {α β : Type} (x : Draw α) (f : α → Draw β) (s : Source) :
    (x >>= f).run s = (f (x.run s).1).run (x.run s).2 := rfl

/-- A scaled word, by the next word: taken, or rejected. -/
theorem run_scaled_succ (range zone rejections : Nat) (s : Source) :
    (scaled range zone (rejections + 1)).run s =
      if (word.run s).1.toNat * range % UInt32.size ≤ zone
      then ((word.run s).1.toNat * range / UInt32.size, (word.run s).2)
      else (scaled range zone rejections).run (word.run s).2 := by
  rw [scaled, run_bind]
  by_cases hzone : (word.run s).1.toNat * range % UInt32.size ≤ zone
  · rw [if_pos hzone, if_pos hzone]
    rfl
  · rw [if_neg hzone, if_neg hzone]

/-- A scaled word is below the range, whatever is rejected before. -/
theorem scaled_lt {range : Nat} (positive : 0 < range) (zone rejections : Nat) (s : Source) :
    ((scaled range zone rejections).run s).1 < range := by
  induction rejections generalizing s with
  | zero => exact positive
  | succ rejections ih =>
    rw [run_scaled_succ]
    split
    · -- The product of a word and the range has less than the range above the low half.
      apply Nat.div_lt_of_lt_mul
      exact Nat.mul_lt_mul_of_pos_right (UInt32.toNat_lt_size _) positive
    · exact ih _

/-- A value of an interval: any word at all, or one that is scaled and shifted. -/
theorem exists_run_between (low high : UInt32) (s : Source) :
    (high.toNat - low.toNat + 1 = UInt32.size ∧ (between low high).run s = word.run s) ∨
      ∃ offset s', offset < high.toNat - low.toNat + 1 ∧
        (between low high).run s = (.ofNat (low.toNat + offset), s') := by
  by_cases hall : high.toNat - low.toNat + 1 = UInt32.size
  · refine .inl ⟨hall, ?_⟩
    simp only [between, hall, if_true]
  · refine .inr ⟨_, _, ?_, by rw [between, if_neg hall, run_bind]; rfl⟩
    exact scaled_lt (Nat.succ_pos _) _ maxRejections s

/-- **A value drawn from an interval lies in it**, for every state of the source. -/
theorem between_mem {low high : UInt32} (h : low ≤ high) (s : Source) :
    low ≤ ((between low high).run s).1 ∧ ((between low high).run s).1 ≤ high := by
  have hhigh : high.toNat < UInt32.size := high.toNat_lt_size
  simp only [UInt32.le_iff_toNat_le] at h ⊢
  rcases exists_run_between low high s with ⟨hall, -⟩ | ⟨offset, s', hoffset, hrun⟩
  · -- Every word lies in the interval.
    have hword : ((between low high).run s).1.toNat < UInt32.size := UInt32.toNat_lt_size _
    omega
  · have hvalue : (UInt32.ofNat (low.toNat + offset)).toNat = low.toNat + offset :=
      UInt32.toNat_ofNat_of_lt (by omega)
    rw [hrun, hvalue]
    omega

end Draw

/-! ## What may be pushed at a place -/

/-- **The flows that a pattern permits** for a push, by the number of pushes before it. -/
def Pattern.Permits (p : Pattern) (before : Nat) (f : Flow) : Prop :=
  match p with
  | .singleFlow flow => f = flow
  | .bursty burstLen => f = if before / max burstLen 1 % 2 = 0 then .zero else .one
  | .balanced | .saturating | .draining => True

/-- **The values that a configuration permits** for a push: those of the flows of its pattern. Where
no value lies above the boundary, flow zero is the only one. -/
def WorkloadConfig.Permits (c : WorkloadConfig) (before : Nat) (v : Value) : Prop :=
  if c.pifo.boundary < 0xFFFFFFFF then c.pattern.Permits before (c.pifo.classifier.classify v)
  else c.pifo.classifier.classify v = .zero

/-- The value that a request pushes. -/
def Request.pushed? {V : Type} : Request V → Option V
  | .push v => some v
  | .pop | .peek => none

namespace Workload

variable {w w' w₁ w₂ : Workload} {es : List WorkloadEvent}

/-- **A value drawn for a flow is of this flow**, if there are values of it. -/
theorem classify_valueFor (boundary : Value) (flow : Flow) (s : Source) :
    Classifier.classify ⟨boundary⟩ ((valueFor boundary flow).run s).1 =
      if boundary < 0xFFFFFFFF then flow else .zero := by
  cases flow with
  | zero =>
    have hvalue := (Draw.between_mem (UInt32.zero_le (a := boundary)) s).2
    rw [ite_self]
    exact (Classifier.classify_eq_zero_iff _ _).mpr hvalue
  | one =>
    by_cases hboundary : boundary < 0xFFFFFFFF
    · have hroom : boundary.toNat + 1 < UInt32.size :=
        Nat.add_lt_add_right (UInt32.lt_iff_toNat_lt.mp hboundary) 1
      have hnext : (boundary + 1).toNat = boundary.toNat + 1 := by
        rw [UInt32.toNat_add]
        exact Nat.mod_eq_of_lt hroom
      have hlow : boundary + 1 ≤ 0xFFFFFFFF := by
        rw [UInt32.le_iff_toNat_le, hnext]
        exact Nat.le_of_lt_succ hroom
      have hvalue := (Draw.between_mem hlow s).1
      rw [UInt32.le_iff_toNat_le, hnext] at hvalue
      rw [if_pos hboundary, valueFor, if_pos hroom, Classifier.classify, if_neg]
      rw [UInt32.le_iff_toNat_le]
      exact Nat.not_le_of_lt hvalue
    · -- There is no value of flow one, and the boundary itself is drawn.
      have hfull : ¬ boundary.toNat + 1 < UInt32.size := by
        intro hroom
        exact hboundary (UInt32.lt_iff_toNat_lt.mpr (Nat.lt_of_succ_lt_succ hroom))
      rw [if_neg hboundary, valueFor, if_neg hfull]
      exact (Classifier.classify_eq_zero_iff _ _).mpr (UInt32.le_refl boundary)

theorem permits_valueFor {c : WorkloadConfig} {before : Nat} {flow : Flow}
    (h : c.pattern.Permits before flow) (s : Source) :
    c.Permits before ((valueFor c.pifo.boundary flow).run s).1 := by
  have hclass := classify_valueFor c.pifo.boundary flow s
  unfold WorkloadConfig.Permits
  split
  · rename_i hboundary
    rw [if_pos hboundary] at hclass
    exact hclass.symm ▸ h
  · rename_i hboundary
    rw [if_neg hboundary] at hclass
    exact hclass

/-! ## One request -/

/-- Nothing but the random source has changed. -/
def Redrawn (w w' : Workload) : Prop := ∃ source, w' = { w with source }

theorem redrawn_of_drawChance {chance : Option Chance} {b : Bool}
    (h : (drawChance chance).run w = ⟨w', es, .ok b⟩) : Redrawn w w' := by
  cases chance with
  | some c =>
    cases h
    exact ⟨_, rfl⟩
  | none => cases h

/-- **The next flow is one that the pattern permits**, after the pushes generated so far. -/
theorem permits_of_nextFlow {flow : Flow} (h : nextFlow.run w = ⟨w', es, .ok flow⟩) :
    Redrawn w w' ∧ w.config.pattern.Permits w.pushesGenerated flow := by
  simp only [nextFlow, Action.run_bind, Action.run_get, Step.andThen_ok] at h
  cases hpattern : w.config.pattern with
  | singleFlow fixed =>
    simp only [hpattern] at h
    cases h
    exact ⟨⟨w.source, rfl⟩, rfl⟩
  | bursty burstLen =>
    simp only [hpattern] at h
    cases h
    exact ⟨⟨w.source, rfl⟩, rfl⟩
  | balanced | saturating | draining =>
    simp only [hpattern] at h
    cases h
    exact ⟨⟨_, rfl⟩, trivial⟩

/-- The values that some requests push. -/
def pushes : List (Request Value) → List Value := List.filterMap Request.pushed?

theorem pushes_append (requests later : List (Request Value)) :
    pushes (requests ++ later) = pushes requests ++ pushes later := List.filterMap_append

/-- **What generated requests say** about the workload before and after them: their pushes are
counted, and each of them is permitted after the pushes before it. -/
structure Traffic (w w' : Workload) (requests : List (Request Value)) : Prop where
  config : w'.config = w.config
  counted : w'.pushesGenerated = w.pushesGenerated + (pushes requests).length
  permitted : ∀ j v, (pushes requests)[j]? = some v → w.config.Permits (w.pushesGenerated + j) v

/-- Requests without a push say nothing. -/
theorem Traffic.of_quiet {requests : List (Request Value)} (config : w'.config = w.config)
    (count : w'.pushesGenerated = w.pushesGenerated) (quiet : pushes requests = []) :
    Traffic w w' requests where
  config := config
  counted := by rw [count, quiet, List.length_nil, Nat.add_zero]
  permitted := by
    intro j v hv
    simp [quiet] at hv

/-- One push, permitted after all the pushes before. -/
theorem Traffic.single {v : Value} (config : w'.config = w.config)
    (count : w'.pushesGenerated = w.pushesGenerated + 1)
    (permitted : w.config.Permits w.pushesGenerated v) : Traffic w w' [.push v] where
  config := config
  counted := count
  permitted := by
    intro j u hu
    have hplace : j = 0 ∧ v = u := by
      rcases j with _ | j
      · exact ⟨rfl, Option.some.inj hu⟩
      · cases hu
    obtain ⟨rfl, rfl⟩ := hplace
    exact permitted

theorem Traffic.append {requests later : List (Request Value)} (h : Traffic w w₁ requests)
    (h' : Traffic w₁ w₂ later) : Traffic w w₂ (requests ++ later) where
  config := h'.config.trans h.config
  counted := by
    rw [h'.counted, h.counted, pushes_append, List.length_append, Nat.add_assoc]
  permitted := by
    intro j v hv
    rw [pushes_append] at hv
    rcases Nat.lt_or_ge j (pushes requests).length with hj | hj
    · rw [List.getElem?_append_left hj] at hv
      exact h.permitted j v hv
    · rw [List.getElem?_append_right hj] at hv
      have hlater := h'.permitted _ v hv
      have hplace : w₁.pushesGenerated + (j - (pushes requests).length) =
          w.pushesGenerated + j := by
        rw [h.counted]
        omega
      rwa [h.config, hplace] at hlater

/-- **The next request is permitted**, whatever words are drawn for it. -/
theorem traffic_of_nextRequest {odds : Odds} {r : Request Value}
    (h : (nextRequest odds).run w = ⟨w', es, .ok r⟩) : Traffic w w' [r] := by
  obtain ⟨w₁, _, isPush, _, hchance, h, -⟩ := Action.exists_of_run_bind h
  obtain ⟨source₁, rfl⟩ := redrawn_of_drawChance hchance
  cases isPush with
  | true =>
    obtain ⟨w₂, _, flow, _, hflow, h, -⟩ := Action.exists_of_run_bind h
    obtain ⟨⟨source₂, rfl⟩, hpermits⟩ := permits_of_nextFlow hflow
    obtain ⟨_, _, _, _, hget, h, -⟩ := Action.exists_of_run_bind h
    cases hget
    obtain ⟨w₃, _, v, _, hvalue, h, -⟩ := Action.exists_of_run_bind h
    cases hvalue
    obtain ⟨_, _, _, _, hget, h, -⟩ := Action.exists_of_run_bind h
    cases hget
    obtain ⟨_, _, count, _, hcount, h, -⟩ := Action.exists_of_run_bind h
    obtain ⟨-, rfl⟩ := checkedAdd_eq_ok_iff.mp (congrArg Step.outcome hcount)
    cases congrArg Step.state hcount
    cases h
    exact .single rfl rfl (permits_valueFor hpermits source₂)
  | false =>
    obtain ⟨w₂, _, isPeek, _, hchance, h, -⟩ := Action.exists_of_run_bind h
    obtain ⟨source₂, rfl⟩ := redrawn_of_drawChance hchance
    cases isPeek with
    | true =>
      cases h
      exact .of_quiet rfl rfl rfl
    | false =>
      cases h
      exact .of_quiet rfl rfl rfl

/-! ## One stream -/

/-- Requests drawn one after the other, by induction on their number. -/
theorem traffic_of_nextRequests {odds : Odds} {n : Nat} {requests : List (Request Value)}
    (h : (nextRequests odds n).run w = ⟨w', es, .ok requests⟩) : Traffic w w' requests := by
  induction n generalizing w es requests with
  | zero =>
    cases h
    exact .of_quiet rfl rfl rfl
  | succ n ih =>
    obtain ⟨w₁, _, r, _, hone, h, -⟩ := Action.exists_of_run_bind h
    obtain ⟨w₂, _, rest, _, hrest, h, -⟩ := Action.exists_of_run_bind h
    cases h
    exact (traffic_of_nextRequest hone).append (ih hrest)

/-- **The traffic of a stream.** -/
theorem traffic_of_generate {requests : List (Request Value)}
    (h : generate.run w = ⟨w', es, .ok requests⟩) : Traffic w w' requests := by
  obtain ⟨_, _, _, _, hget, h, -⟩ := Action.exists_of_run_bind h
  cases hget
  by_cases hheld : w.config.operations < streamLimit
  · simp only [hheld, if_true] at h
    exact traffic_of_nextRequests h
  · simp only [hheld, if_false] at h
    cases h

end Workload

/-! ## What a replay leaves alone -/

/-- A workload without its history. -/
def Workload.generator (w : Workload) : Workload := { w with history := .empty }

namespace Action

variable {ε σ α β γ : Type} {view : σ → γ}

/-- **An action leaves a part of the state alone**, however it ends. -/
def Leaves (view : σ → γ) (x : Action ε σ α) : Prop := ∀ s, view (x.run s).state = view s

theorem leaves_pure (a : α) : Leaves view (pure a : Action ε σ α) := by
  intro s
  rfl

theorem leaves_get : Leaves view (get : Action ε σ σ) := by
  intro s
  rfl

theorem leaves_emit (e : ε) : Leaves view (emit e) := by
  intro s
  rfl

theorem leaves_lift (x : Except Fault α) : Leaves view (liftM x : Action ε σ α) := by
  intro s
  rfl

/-- A sequence that breaks off has left the part alone up to there. -/
theorem leaves_bind {x : Action ε σ α} {f : α → Action ε σ β} (hx : Leaves view x)
    (hf : ∀ a, Leaves view (f a)) : Leaves view (x >>= f) := by
  intro s
  have hfirst := hx s
  rw [run_bind]
  rcases hrun : x.run s with ⟨s₁, es, e | a⟩
  · rw [hrun] at hfirst
    exact hfirst
  · rw [hrun] at hfirst
    exact (hf a s₁).trans hfirst

end Action

namespace Session

open TwoFlow.Action

variable {τ α : Type}

/-- What of a session generates its traffic: the workload without its history. -/
def generator (s : Session τ) : Workload := s.workload.generator

theorem leaves_onWorkload {x : Action WorkloadEvent Workload α} (h : Leaves Workload.generator x) :
    Leaves generator (onWorkload (τ := τ) x) := by
  intro s
  exact h s.workload

theorem leaves_onTarget (x : Action Event τ α) : Leaves generator (onTarget x) := by
  intro s
  rfl

theorem leaves_invoke (r : Request Value) : Leaves generator (invoke (τ := τ) r) := by
  intro s
  rfl

theorem leaves_complete (id : Nat) (result : Result) (observed : Observation) :
    Leaves generator (complete (τ := τ) id result observed) := by
  apply leaves_onWorkload
  intro w
  simp only [run_bind, run_get, Step.andThen_ok, run_lift]
  cases w.history.complete id result observed with
  | error e => rfl
  | ok history => rfl

variable [Target τ]

theorem leaves_replayOne (t : Tally) (r : Request Value) :
    Leaves generator (replayOne (τ := τ) t r) := by
  refine leaves_bind (leaves_invoke r) fun id => leaves_bind (leaves_onTarget _) fun answer => ?_
  refine leaves_bind (leaves_complete id _ _) fun _ => ?_
  dsimp only
  split
  · exact leaves_pure _
  · exact leaves_bind (leaves_emit _) fun _ => leaves_pure _

theorem leaves_replayAll (requests : List (Request Value)) (t : Tally) :
    Leaves generator (replayAll (τ := τ) t requests) := by
  induction requests generalizing t with
  | nil => exact leaves_pure t
  | cons r rest ih => exact leaves_bind (leaves_replayOne t r) ih

/-- **A replay leaves what generates the traffic alone**, against any target and however it ends. -/
theorem leaves_replay (requests : List (Request Value)) :
    Leaves generator (replay (τ := τ) requests) := by
  refine leaves_bind (leaves_replayAll requests _) fun tally => leaves_bind leaves_get fun s => ?_
  refine leaves_bind (leaves_lift _) fun violations => ?_
  exact leaves_bind (leaves_emit _) fun _ => leaves_pure _

/-- So the traffic goes on after a replay as if there had been none. -/
theorem traffic_of_replay (requests : List (Request Value)) (s : Session τ) :
    Workload.Traffic s.workload ((replay requests).run s).state.workload [] := by
  have hleft := leaves_replay requests s
  have hconfig := congrArg Workload.config hleft
  have hpushes := congrArg Workload.pushesGenerated hleft
  exact .of_quiet hconfig hpushes rfl

end Session

namespace Workload

/-! ## Any number of streams -/

/-- A call on a workload. -/
inductive Call : Type 1 where
  /-- Generate a stream. -/
  | generate
  /-- Replay these requests against a target. -/
  | replay {τ : Type} [Target τ] (target : τ) (requests : List (Request Value))

/-- How many streams some calls generate. -/
def streamCount : List Call → Nat
  | [] => 0
  | .generate :: rest => streamCount rest + 1
  | @Call.replay _ _ _ _ :: rest => streamCount rest

/-- Makes calls one after the other, each from the workload that the one before has left, be it by a
fault. Gives how the calls that generate have ended. -/
def performAll : List Call → Workload → Workload × List (Except Fault (List (Request Value)))
  | [], w => (w, [])
  | .generate :: rest, w =>
    let step := generate.run w
    let (w', later) := performAll rest step.state
    (w', step.outcome :: later)
  | @Call.replay _ _ target requests :: rest, w =>
    performAll rest ((Session.replay requests).run ⟨w, target⟩).state.workload

/-- **Streams are generated and follow the pattern**, by induction on the calls: the pushes of all
streams are counted on from one call to the next. -/
theorem exists_performAll {c : WorkloadConfig} (ratio : c.peekRatio.inUnit = true)
    (held : c.operations < streamLimit) (calls : List Call) {w : Workload} (config : w.config = c)
    (room : w.pushesGenerated + streamCount calls * c.operations < wordLimit) :
    ∃ (w' : Workload) (streams : List (List (Request Value))),
      performAll calls w = (w', streams.map .ok) ∧ streams.length = streamCount calls ∧
      (∀ stream ∈ streams, stream.length = c.operations) ∧ Traffic w w' streams.flatten := by
  induction calls generalizing w with
  | nil => exact ⟨w, [], rfl, rfl, by simp, .of_quiet rfl rfl rfl⟩
  | cons call rest ih =>
    subst config
    cases call with
    | generate =>
      have hsplit : streamCount (.generate :: rest) * w.config.operations =
          streamCount rest * w.config.operations + w.config.operations := Nat.succ_mul _ _
      rw [hsplit] at room
      obtain ⟨w₁, stream, hgenerate, hlength, hdrawn⟩ := exists_generate ratio held (by omega)
      have hpushes := hdrawn.pushes
      have htraffic := traffic_of_generate hgenerate
      obtain ⟨w₂, streams, hrest, hcount, hlengths, hlater⟩ := ih htraffic.config (by omega)
      refine ⟨w₂, stream :: streams, ?_, congrArg (· + 1) hcount, ?_, htraffic.append hlater⟩
      · simp only [performAll, hgenerate, hrest, List.map_cons]
      · exact List.forall_mem_cons.mpr ⟨hlength, hlengths⟩
    | replay target requests =>
      -- The replay may have broken off; the calls after it are made all the same.
      have htraffic := Session.traffic_of_replay requests ⟨w, target⟩
      have hpushes : ((Session.replay requests).run ⟨w, target⟩).state.workload.pushesGenerated =
          w.pushesGenerated := htraffic.counted
      obtain ⟨w₂, streams, hrest, hcount, hlengths, hlater⟩ := ih htraffic.config (by rwa [hpushes])
      exact ⟨w₂, streams, hrest, hcount, hlengths, htraffic.append hlater⟩

/-- **Generated traffic follows its pattern.** From any state of the random source, with a ratio
that is a probability and streams that can be held, every call that generates gives a stream of the
configured length, whatever is replayed in between and however the replays end. Below the largest
boundary, the pushes of all streams together are of the flow of the pattern, or by turns in bursts;
at the largest boundary all of them are of flow zero. -/
theorem traffic_follows_pattern {c : WorkloadConfig} (source : Source) (history : History)
    (calls : List Call) (ratio : c.peekRatio.inUnit = true) (held : c.operations < streamLimit)
    (few : streamCount calls * c.operations < wordLimit) :
    ∃ (w : Workload) (streams : List (List (Request Value))),
      performAll calls { config := c, source, history } = (w, streams.map .ok) ∧
      streams.length = streamCount calls ∧ (∀ stream ∈ streams, stream.length = c.operations) ∧
      (c.pifo.boundary < 0xFFFFFFFF →
        (∀ flow, c.pattern = .singleFlow flow →
          ∀ v ∈ pushes streams.flatten, c.pifo.classifier.classify v = flow) ∧
        (∀ burstLen, c.pattern = .bursty burstLen → ∀ j v, (pushes streams.flatten)[j]? = some v →
          c.pifo.classifier.classify v = if j / max burstLen 1 % 2 = 0 then .zero else .one)) ∧
      (c.pifo.boundary = 0xFFFFFFFF →
        ∀ v ∈ pushes streams.flatten, c.pifo.classifier.classify v = .zero) := by
  obtain ⟨w, streams, hrun, hcount, hlengths, htraffic⟩ :=
    exists_performAll ratio held calls (w := { config := c, source, history }) rfl
      (by rwa [Nat.zero_add])
  have hpermitted : ∀ j v, (pushes streams.flatten)[j]? = some v → c.Permits j v := by
    intro j v hv
    simpa using htraffic.permitted j v hv
  refine ⟨w, streams, hrun, hcount, hlengths, ?_, ?_⟩
  · intro hboundary
    simp only [WorkloadConfig.Permits, if_pos hboundary] at hpermitted
    constructor
    · intro flow hpattern v hv
      obtain ⟨j, hj⟩ := List.mem_iff_getElem?.mp hv
      simpa [hpattern, Pattern.Permits] using hpermitted j v hj
    · intro burstLen hpattern j v hv
      simpa [hpattern, Pattern.Permits] using hpermitted j v hv
  · intro hboundary v hv
    obtain ⟨j, hj⟩ := List.mem_iff_getElem?.mp hv
    have hzero := hpermitted j v hj
    rwa [WorkloadConfig.Permits, if_neg (by rw [hboundary]; exact UInt32.lt_irrefl _)] at hzero

/-- Two streams in bursts of two, with a replay in between: the second burst goes on in the second
stream. -/
theorem traffic_follows_pattern_across_streams :
    ∃ (w : Workload) (streams : List (List (Request Value))),
      performAll [.generate, .replay (Script.mk [] ⟨.zero, 0, 0, 0⟩) [.pop, .push 7], .generate]
        { config := { operations := 3, pattern := .bursty 2 }
          source := { key := .ofSeed 0, pending := List.replicate 18 0 } } = (w, streams.map .ok) ∧
      streams = [[.push 0, .push 0, .push 201], [.push 201, .push 0, .push 0]] ∧
      ∀ j v, (pushes streams.flatten)[j]? = some v →
        (Config.standard : Config Value).classifier.classify v =
          if j / max 2 1 % 2 = 0 then .zero else .one := by
  obtain ⟨w, streams, hrun, -, -, hflows, -⟩ := traffic_follows_pattern
    (c := { operations := 3, pattern := .bursty 2 })
    { key := .ofSeed 0, pending := List.replicate 18 0 } .empty
    [.generate, .replay (Script.mk [] ⟨.zero, 0, 0, 0⟩) [.pop, .push 7], .generate]
    (by decide +kernel) (by decide +kernel) (by decide)
  refine ⟨w, streams, hrun, ?_, (hflows (by decide)).2 2 rfl⟩
  have hvalues :
      (performAll
        [.generate, .replay (Script.mk [] ⟨.zero, 0, 0, 0⟩) [.pop, .push 7], .generate]
        { config := { operations := 3, pattern := .bursty 2 }
          source := { key := .ofSeed 0, pending := List.replicate 18 0 } }).2.filterMap
            Except.toOption =
        [[.push 0, .push 0, .push 201], [.push 201, .push 0, .push 0]] := by decide +kernel
  rw [hrun, List.filterMap_map] at hvalues
  exact List.filterMap_some.symm.trans hvalues

/-- **A stream that cannot be held.** At 2^60 requests, with a ratio that is a probability, the
first stream is not generated, from any state of the random source. -/
theorem long_stream_is_not_generated :
    ({ operations := 1152921504606846976 } : WorkloadConfig).peekRatio.inUnit = true ∧
      streamCount [.generate] * 1152921504606846976 < wordLimit ∧
      ∀ (source : Source) (history : History),
        (performAll [.generate]
          { config := { operations := 1152921504606846976 }, source, history }).2 =
            [.error .streamTooLong] := by
  refine ⟨by decide +kernel, by decide, ?_⟩
  intro source history
  have hgenerate := run_generate_of_le
    (w := { config := { operations := 1152921504606846976 }, source, history }) (Nat.le_refl _)
  simp only [performAll, hgenerate]

end Workload

end TwoFlow
