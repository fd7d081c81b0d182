import TwoFlow.Proofs.Rejection

/-!
# Peeks and rejected requests can be erased

Of the exchanges with a scheduler only some have an effect: the pushes that were accepted and the
pops that handed a value out. Served alone, these requests are answered as they were among the
others, and they leave the scheduler in the same state, but for the counters of rejected requests,
which then stand at zero.

The two runs are compared by forgetting those counters, which is what `Pifo.settled` does. A request
without effect does not move the settled scheduler, and this takes atomic sub-queues. A request with
an effect moves it as it moves the scheduler itself, and this takes nothing: no way of such a
request looks at a counter of rejected requests. It does not fault either where the other run did
not, since a settled counter is never above the counter itself.

## Main definitions

* `effective`: the exchanges that had an effect
* `Pifo.settled`: the scheduler without the counters of rejected requests

## Main results

* `Pifo.Transition.settled_eq`, `Pifo.run_settled`: what a request without an effect and one with an
  effect do to the settled scheduler
* `Pifo.exists_serve_effective`: the same of a list of requests
* `Pifo.serve_keeps_only_effects`: a scheduler over the stock queues serves the effective requests
  as it served all
-/

namespace TwoFlow

/-! ## Exchanges with an effect -/

section Exchanges

variable {V : Type}

/-- The exchanges that had an effect: the pushes that were accepted and the pops that handed a value
out. -/
def effective : List (Request V × Response V) → List (Request V × Response V) :=
  List.filter fun
    | (.push _, .ok _) => true
    | (.pop, .ok _) => true
    | _ => false

variable {r : Request V} (trace : List (Request V × Response V))

@[simp] theorem effective_peek (a : Response V) :
    effective ((.peek, a) :: trace) = effective trace := rfl

@[simp] theorem effective_error (r : Request V) (e : QueueError) :
    effective ((r, .error e) :: trace) = effective trace := by
  cases r <;> rfl

theorem effective_ok (hr : r ≠ .peek) (o : Option V) :
    effective ((r, .ok o) :: trace) = (r, .ok o) :: effective trace := by
  cases r with
  | push v => rfl
  | pop => rfl
  | peek => exact absurd rfl hr

/-- What had an effect was answered with success. -/
theorem exists_ok_of_mem_effective {trace : List (Request V × Response V)}
    {x : Request V × Response V} (h : x ∈ effective trace) : ∃ o, x.2 = .ok o := by
  obtain ⟨-, hx⟩ := List.mem_filter.mp h
  rcases x with ⟨r, e | o⟩
  · cases r <;> cases hx
  · exact ⟨o, rfl⟩

end Exchanges

/-! ## Forgetting rejected requests -/

namespace Stats

/-- The statistics without the counters of rejected requests. -/
def settled (s : Stats) : Stats :=
  { s with pushesRejectedFull := 0, pushesRejectedFlow := 0, popUnderflows := 0 }

theorem settled_bump {c : Counter} (h : c ∈ Counter.rejections) (s : Stats) :
    (s.bump c).settled = s.settled := by
  simp only [Counter.rejections, List.mem_cons, List.not_mem_nil, or_false] at h
  rcases h with rfl | rfl | rfl <;> rfl

/-- A counter is settled at zero, or it stays. -/
theorem get_settled (c : Counter) :
    (∀ s : Stats, s.settled.get c = 0) ∨ ∀ s : Stats, s.settled.get c = s.get c := by
  cases c with
  | pushesRejectedFull | pushesRejectedFlow | popUnderflows => exact .inl fun s => rfl
  | pushesAccepted | popsPrimary | popsFallback | served => exact .inr fun s => rfl

end Stats

namespace Pifo

variable {V Q₀ Q₁ : Type} {p p' q : Pifo V Q₀ Q₁}

/-- The scheduler as it would be if no request had been rejected: with the counters of such requests
at zero, and otherwise the same. -/
def settled (p : Pifo V Q₀ Q₁) : Pifo V Q₀ Q₁ := { p with stats := p.stats.settled }

/-- What is settled is counted up no further. -/
theorem StaysInWord.settled (h : StaysInWord p p') : StaysInWord p.settled p'.settled where
  len := h.len
  stats c hlt := by
    change p.stats.settled.get c < p'.stats.settled.get c at hlt
    change p'.stats.settled.get c < wordLimit
    rcases Stats.get_settled c with hzero | hsame
    · rw [hzero, hzero] at hlt
      exact absurd hlt (Nat.lt_irrefl 0)
    · rw [hsame, hsame] at hlt
      rw [hsame]
      exact h.stats c hlt

variable [SubQueue Q₀ V] [SubQueue Q₁ V] {f : Flow}

theorem settled_of_build {c : Config V} {queue0 : Q₀} {queue1 : Q₁}
    (built : build c queue0 queue1 = .ok p) : p.settled = p := by
  obtain ⟨-, -, -, rfl⟩ := build_eq_ok_iff.mp built
  rfl

theorem subPush_settled {v : V} {a : Answer Unit} (asked : (subPush f v).run p = ⟨q, [], .ok a⟩) :
    (subPush f v).run p.settled = ⟨q.settled, [], .ok a⟩ := by
  cases f <;> cases asked <;> rfl

theorem subPop_settled {a : Answer V} (asked : (subPop f).run p = ⟨q, [], .ok a⟩) :
    (subPop f).run p.settled = ⟨q.settled, [], .ok a⟩ := by
  cases f <;> cases asked <;> rfl

variable [LE V] [DecidableLE V] {r : Request V} {es : List Event}

/-- A request with an effect has the same way from the settled scheduler. -/
theorem Transition.settled {o : Option V} (way : Transition p r p' es (.ok o)) (hr : r ≠ .peek) :
    Transition p.settled r p'.settled es (.ok o) := by
  generalize ha : (.ok o : Response V) = a at way ⊢
  cases way with
  | pushAccepted room asked => exact .pushAccepted (p := p.settled) room (subPush_settled asked)
  | popPrimary holds asked => exact .popPrimary (p := p.settled) holds (subPop_settled asked)
  | popFallback holds asked askedOther =>
    exact .popFallback (p := p.settled) holds (subPop_settled asked) (subPop_settled askedOther)
  | pushFull | pushRefused | popEmpty | popFailed => cases ha
  | peekEmpty | peekPrimary | peekFallback => exact absurd rfl hr

/-- **A request with an effect** does to the settled scheduler what it does to the scheduler, and is
answered alike. -/
theorem run_settled {o : Option V} (run : (handle r).run p = ⟨p', es, .ok (.ok o)⟩)
    (hr : r ≠ .peek) :
    (handle r).run p.settled = ⟨p'.settled, es, .ok (.ok o)⟩ := by
  have way := transition_of_run run
  exact (way.settled hr).run_iff.mpr (way.run_iff.mp run).settled

section Atomic

variable [SubQueue.Atomic Q₀] [SubQueue.Atomic Q₁]

/-- **A request without an effect** does not move the settled scheduler. -/
theorem Transition.settled_eq {a : Response V} (way : Transition p r p' es a)
    (idle : r = .peek ∨ ∃ e, a = .error e) : p'.settled = p.settled := by
  by_cases hr : r = .peek
  · subst hr
    rw [way.eq_of_peek.1]
  · obtain ⟨e, rfl⟩ := idle.resolve_left hr
    obtain ⟨counter, hcounter, rfl⟩ := way.exists_counter_of_error hr
    exact congrArg (fun s => { p with stats := s }) (Stats.settled_bump hcounter p.stats)

/-- **The effective requests alone** take the settled scheduler where all requests take the
scheduler, and are answered alike. -/
theorem exists_serve_effective {requests : List (Request V)} {answers : List (Response V)}
    (run : (serve requests).run p = ⟨p', es, .ok answers⟩) :
    ∃ es', (serve ((effective (requests.zip answers)).map Prod.fst)).run p.settled =
      ⟨p'.settled, es', .ok ((effective (requests.zip answers)).map Prod.snd)⟩ := by
  induction requests generalizing p es answers with
  | nil =>
    cases run
    exact ⟨[], rfl⟩
  | cons r rest ih =>
    obtain ⟨q, es₁, a, es₂, later, hr, hrest, -, rfl⟩ := serve_cons.mp run
    obtain ⟨es', hlater⟩ := ih hrest
    rw [List.zip_cons_cons]
    by_cases idle : r = .peek ∨ ∃ e, a = .error e
    · -- The request is left out, and the others begin where it found the scheduler.
      rw [(transition_of_run hr).settled_eq idle] at hlater
      refine ⟨es', ?_⟩
      rcases idle with rfl | ⟨e, rfl⟩
      · rw [effective_peek]
        exact hlater
      · rw [effective_error]
        exact hlater
    · obtain ⟨hpeek, herror⟩ := not_or.mp idle
      rcases a with e | o
      · exact absurd ⟨e, rfl⟩ herror
      · rw [effective_ok _ hpeek]
        exact ⟨es₁ ++ es',
          serve_cons.mpr ⟨_, es₁, _, es', _, run_settled hr hpeek, hlater, rfl, rfl⟩⟩

end Atomic

/-- **Peeks and rejected requests can be erased.** A scheduler built of a valid configuration over
the stock queues answers every request of a list that a machine word counts. Whenever it has
answered all requests of a list, the same scheduler, fresh, accepts each of the effective ones among
them and answers it as before. It is left with the same values in each flow, the same turn, the same
length and the same statistics, but for the counters of rejected requests, which stand at zero. -/
theorem serve_keeps_only_effects {c : Config V} (valid : c.validate = .ok ()) :
    ∃ p₀, withFifos c = .ok p₀ ∧ ∀ requests : List (Request V),
      (requests.length < wordLimit →
        ∃ p es answers, (serve requests).run p₀ = ⟨p, es, .ok answers⟩) ∧
      ∀ p es answers, (serve requests).run p₀ = ⟨p, es, .ok answers⟩ →
        ∃ kept es', kept = effective (requests.zip answers) ∧
          (serve (kept.map Prod.fst)).run p₀ = ⟨p.settled, es', .ok (kept.map Prod.snd)⟩ ∧
          ∀ x ∈ kept, ∃ o, x.2 = .ok o := by
  obtain ⟨p₀, built⟩ := exists_withFifos valid
  refine ⟨p₀, built, fun requests => ⟨fun few => ?_, fun p es answers hrun => ?_⟩⟩
  · obtain ⟨p, es, answers, hrun, -⟩ := exists_run_of_build built few
    exact ⟨p, es, answers, hrun⟩
  · obtain ⟨es', heffective⟩ := exists_serve_effective hrun
    rw [settled_of_build built] at heffective
    exact ⟨_, es', rfl, heffective, fun x => exists_ok_of_mem_effective⟩

/-- At flow capacity one: a pop from nothing, two pushes that are accepted, one that its flow
rejects and one that finds both flows full, a peek, and the pops that empty the scheduler. Two
pushes and two pops are kept. -/
theorem serve_keeps_only_effects_one :
    (⟨1, 10⟩ : Config Nat).validate = .ok () ∧
      ∃ p₀ p es', withFifos (⟨1, 10⟩ : Config Nat) = .ok p₀ ∧
        (serve [.push 4, .push 11, .pop, .pop]).run p₀ =
          ⟨p, es', .ok [.ok none, .ok none, .ok (some 4), .ok (some 11)]⟩ ∧
        ∃ p' es answers,
          (serve [.pop, .push 4, .push 5, .push 11, .push 12, .peek, .pop, .pop, .pop]).run p₀ =
              ⟨p', es, .ok answers⟩ ∧
            p = p'.settled := by
  refine ⟨rfl, ?_⟩
  obtain ⟨p₀, built, hserve⟩ := serve_keeps_only_effects (c := (⟨1, 10⟩ : Config Nat)) rfl
  obtain ⟨hruns, hkeeps⟩ :=
    hserve [.pop, .push 4, .push 5, .push 11, .push 12, .peek, .pop, .pop, .pop]
  obtain ⟨p', es, answers, hrun⟩ := hruns (by decide)
  obtain ⟨kept, es', hkept, heffective, -⟩ := hkeeps p' es answers hrun
  refine ⟨p₀, p'.settled, es', built, ?_, p', es, answers, hrun, rfl⟩
  have hanswers : kept = [(.push 4, .ok none), (.push 11, .ok none), (.pop, .ok (some 4)),
      (.pop, .ok (some 11))] := by
    cases built
    cases hrun
    exact hkept
  rw [hanswers] at heffective
  exact heffective

end Pifo

end TwoFlow
