import TwoFlow.Workload.Basic

/-!
# Generated streams

Generating a stream can break off for three reasons: a ratio that is no probability, a count of
pushes that leaves the machine word, and a stream that is too long to be held. Where none of them
applies a stream is generated, of exactly the configured length. All that generating changes is the
random source and the count of pushes.

## Main definitions

* `Workload.Drawn`: a workload that has drawn some requests

## Main results

* `Binary64.isSome_chance?`, `Pattern.inUnit_pushRatio`: the ratios that are probabilities
* `Workload.exists_nextRequests`, `Workload.exists_generate`: streams that are generated
* `Workload.run_generate_of_le`: streams that are too long
-/

namespace TwoFlow

/-- A number of the unit interval is a probability. -/
theorem Binary64.isSome_chance? {p : Binary64} (h : p.inUnit = true) : p.chance?.isSome = true := by
  cases p with
  | finite negative units =>
    simp only [chance?]
    by_cases hzero : units = 0
    · rw [if_pos hzero]
      rfl
    -- Minus zero aside, a number of the interval is positive and at most one.
    have hunit : negative = false ∧ units ≤ one := by simpa [inUnit, hzero] using h
    rw [if_neg hzero, hunit.1, if_neg Bool.false_ne_true]
    by_cases hone : units = one
    · rw [if_pos hone]
      rfl
    · rw [if_neg hone, if_pos (Nat.lt_of_le_of_ne hunit.2 hone)]
      rfl
  | infinite negative => cases h
  | nan => cases h

/-- Every pattern pushes with a probability. -/
theorem Pattern.inUnit_pushRatio (p : Pattern) : p.pushRatio.inUnit = true := by
  have half : (Binary64.ofFraction false 1 2).inUnit = true := by decide +kernel
  have most : (Binary64.ofFraction false 4 5).inUnit = true := by decide +kernel
  have few : (Binary64.ofFraction false 1 4).inUnit = true := by decide +kernel
  cases p with
  | balanced => exact half
  | singleFlow flow => exact half
  | bursty burstLen => exact half
  | saturating => exact most
  | draining => exact few

namespace Workload

/-- **A workload that has drawn requests**, up to `n` of them pushes: it has its configuration and
its history as before. -/
structure Drawn (n : Nat) (w w' : Workload) : Prop where
  config : w'.config = w.config
  history : w'.history = w.history
  pushes : w'.pushesGenerated ≤ w.pushesGenerated + n

theorem Drawn.refl (w : Workload) : Drawn 0 w w := ⟨rfl, rfl, Nat.le_refl _⟩

theorem Drawn.trans {m n : Nat} {w w₁ w₂ : Workload} (h : Drawn m w w₁) (h' : Drawn n w₁ w₂) :
    Drawn (m + n) w w₂ where
  config := h'.config.trans h.config
  history := h'.history.trans h.history
  pushes := by
    have := h.pushes
    have := h'.pushes
    omega

theorem Drawn.mono {m n : Nat} {w w' : Workload} (h : Drawn m w w') (hmn : m ≤ n) : Drawn n w w' :=
  ⟨h.config, h.history, Nat.le_trans h.pushes (Nat.add_le_add_left hmn _)⟩

theorem exists_draw {α : Type} (x : Draw α) (w : Workload) :
    ∃ w' a, (draw x).run w = ⟨w', [], .ok a⟩ ∧ Drawn 0 w w' :=
  ⟨_, _, rfl, rfl, rfl, Nat.le_refl _⟩

theorem exists_drawChance {chance : Option Chance} (h : chance.isSome = true) (w : Workload) :
    ∃ w' b, (drawChance chance).run w = ⟨w', [], .ok b⟩ ∧ Drawn 0 w w' := by
  obtain ⟨c, rfl⟩ := Option.isSome_iff_exists.mp h
  exact exists_draw (Draw.chance c) w

theorem exists_nextFlow (w : Workload) :
    ∃ w' f, nextFlow.run w = ⟨w', [], .ok f⟩ ∧ Drawn 0 w w' := by
  simp only [nextFlow, Action.run_bind, Action.run_get, Step.andThen_ok]
  cases w.config.pattern with
  | singleFlow flow => exact ⟨w, flow, rfl, .refl w⟩
  | bursty burstLen => exact ⟨w, _, rfl, .refl w⟩
  | balanced | saturating | draining =>
    obtain ⟨w', b, hdraw, hdrawn⟩ := exists_draw (Draw.chance .even) w
    refine ⟨w', if b then .zero else .one, ?_, hdrawn⟩
    simp only [Action.run_bind, hdraw, Step.andThen_ok, Action.run_pure, List.nil_append]

variable {odds : Odds}

/-- A push is drawn where one more push can be counted. -/
theorem exists_nextRequest (hpush : odds.push.isSome = true) (hpeek : odds.peek.isSome = true)
    {w : Workload} (room : w.pushesGenerated + 1 < wordLimit) :
    ∃ w' r, (nextRequest odds).run w = ⟨w', [], .ok r⟩ ∧ Drawn 1 w w' := by
  obtain ⟨w₁, isPush, hrun₁, hdrawn₁⟩ := exists_drawChance hpush w
  simp only [nextRequest, Action.run_bind, hrun₁, Step.andThen_ok]
  cases isPush with
  | true =>
    -- The push is counted last, on top of the count that all the draws have left alone.
    obtain ⟨w₂, flow, hrun₂, hdrawn₂⟩ := exists_nextFlow w₁
    obtain ⟨w₃, v, hrun₃, hdrawn₃⟩ := exists_draw (valueFor w₂.config.pifo.boundary flow) w₂
    have hdrawn := (hdrawn₁.trans hdrawn₂).trans hdrawn₃
    have hadd : checkedAdd w₃.pushesGenerated 1 = .ok (w₃.pushesGenerated + 1) :=
      checkedAdd_eq_ok_iff.mpr ⟨by have := hdrawn.pushes; omega, rfl⟩
    refine ⟨{ w₃ with pushesGenerated := w₃.pushesGenerated + 1 }, .push v, ?_,
      hdrawn.config, hdrawn.history, Nat.add_le_add_right hdrawn.pushes 1⟩
    simp [hrun₂, hrun₃, hadd]
  | false =>
    obtain ⟨w₂, isPeek, hrun₂, hdrawn₂⟩ := exists_drawChance hpeek w₁
    refine ⟨w₂, if isPeek then .peek else .pop, ?_, (hdrawn₁.trans hdrawn₂).mono (Nat.zero_le 1)⟩
    cases isPeek <;> simp [hrun₂]

/-- **Requests are drawn** as many as asked for, as long as their pushes can be counted. -/
theorem exists_nextRequests (hpush : odds.push.isSome = true) (hpeek : odds.peek.isSome = true)
    (n : Nat) {w : Workload} (room : w.pushesGenerated + n < wordLimit) :
    ∃ w' requests, (nextRequests odds n).run w = ⟨w', [], .ok requests⟩ ∧ requests.length = n ∧
      Drawn n w w' := by
  induction n generalizing w with
  | zero => exact ⟨w, [], rfl, rfl, .refl w⟩
  | succ n ih =>
    obtain ⟨w₁, r, hrun₁, hdrawn₁⟩ := exists_nextRequest hpush hpeek (w := w) (by omega)
    obtain ⟨w₂, rest, hrun₂, hlength, hdrawn₂⟩ := ih (w := w₁) (by have := hdrawn₁.pushes; omega)
    refine ⟨w₂, r :: rest, ?_, congrArg (· + 1) hlength, Nat.add_comm 1 n ▸ hdrawn₁.trans hdrawn₂⟩
    simp only [nextRequests, Action.run_bind, hrun₁, hrun₂, Step.andThen_ok, Action.run_pure,
      List.append_nil]

/-- **A stream is generated**, of the configured length. -/
theorem exists_generate {w : Workload} (hratio : w.config.peekRatio.inUnit = true)
    (hheld : w.config.operations < streamLimit)
    (room : w.pushesGenerated + w.config.operations < wordLimit) :
    ∃ w' requests, generate.run w = ⟨w', [], .ok requests⟩ ∧
      requests.length = w.config.operations ∧ Drawn w.config.operations w w' := by
  have hpush : (Odds.ofConfig w.config).push.isSome = true :=
    Binary64.isSome_chance? w.config.pattern.inUnit_pushRatio
  have hpeek : (Odds.ofConfig w.config).peek.isSome = true := Binary64.isSome_chance? hratio
  obtain ⟨w', requests, hrun, hlength, hdrawn⟩ :=
    exists_nextRequests hpush hpeek w.config.operations room
  refine ⟨w', requests, ?_, hlength, hdrawn⟩
  simp only [generate, Action.run_bind, Action.run_get, Step.andThen_ok, hheld, if_true, hrun,
    List.nil_append]

/-- A stream that is too long to be held is not generated, and nothing is drawn for it. -/
theorem run_generate_of_le {w : Workload} (hlong : streamLimit ≤ w.config.operations) :
    generate.run w = ⟨w, [], .error .streamTooLong⟩ := by
  simp only [generate, Action.run_bind, Action.run_get, Step.andThen_ok, Nat.not_lt.mpr hlong,
    if_false, Action.run_fault, List.nil_append]

end Workload

end TwoFlow
