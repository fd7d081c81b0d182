import TwoFlow.Pifo.Basic

/-!
# Draining a scheduler

Draining pops until a pop is rejected. It ends over every pair of sub-queues, also over ones that
never run empty: each value handed out lowers the scheduler's own length, and at length zero a pop
is rejected.

## Main definitions

* `Pifo.drain`: pops until a rejection

## Main results

* `Pifo.len_lt_of_pop`: a pop that hands a value out lowers the length
-/

namespace TwoFlow.Pifo

variable {V Q₀ Q₁ : Type}

/-! ## The length during a pop -/

theorem run_count (c : Counter) (p : Pifo V Q₀ Q₁) :
    (count c).run p =
      if p.stats.get c + 1 < wordLimit then ⟨{ p with stats := p.stats.bump c }, [], .ok ()⟩
      else ⟨p, [], .error .addOverflow⟩ := by
  by_cases h : p.stats.get c + 1 < wordLimit <;> simp [count, Stats.raise, h]

theorem run_shrink (p : Pifo V Q₀ Q₁) :
    shrink.run p =
      if 0 < p.len then ⟨{ p with len := p.len - 1 }, [], .ok ()⟩
      else ⟨p, [], .error .lengthBelowZero⟩ := by
  by_cases h : 0 < p.len <;> simp [shrink, h]

theorem len_lt_of_deliver {flow : Flow} {v : V} {p : Pifo V Q₀ Q₁} {a : Answer V}
    (h : ((deliver flow v).run p).outcome = .ok a) :
    ((deliver flow v).run p).state.len < p.len := by
  by_cases hlen : 0 < p.len
  · by_cases hword : p.stats.get (.served flow) + 1 < wordLimit
    · have hlt : p.len - 1 < p.len := Nat.sub_lt hlen Nat.one_pos
      simp [deliver, run_shrink, run_count, hlen, hword, hlt]
    · simp [deliver, run_shrink, run_count, hlen, hword] at h
  · simp [deliver, run_shrink, hlen] at h

variable [SubQueue Q₀ V] [SubQueue Q₁ V]

/-- Asking a sub-queue for a value reports nothing and leaves the length alone. -/
theorem run_subPop (flow : Flow) (p : Pifo V Q₀ Q₁) :
    ∃ (q : Pifo V Q₀ Q₁) (a : Answer V), (subPop flow).run p = ⟨q, [], .ok a⟩ ∧ q.len = p.len := by
  cases flow <;> exact ⟨_, _, rfl, rfl⟩

/-- **A pop that hands a value out lowers the length**, whatever the sub-queues do. -/
theorem len_lt_of_pop {p p' : Pifo V Q₀ Q₁} {es : List Event} {v : V}
    (h : pop.run p = ⟨p', es, .ok (.ok v)⟩) : p'.len < p.len := by
  by_cases hempty : p.len = 0
  · -- At length zero the pop is rejected.
    by_cases hw : p.stats.get .popUnderflows + 1 < wordLimit <;>
      simp [pop, hempty, run_count, hw] at h
  obtain ⟨q, a, hq, hlen⟩ := run_subPop p.hot p
  cases a with
  | ok w =>
    by_cases hw : q.stats.get .popsPrimary + 1 < wordLimit
    · simp [pop, hempty, hq, flip, run_count, hw] at h
      obtain ⟨rfl, _, hdelivered⟩ := h
      exact Nat.lt_of_lt_of_eq (len_lt_of_deliver hdelivered) hlen
    · simp [pop, hempty, hq, flip, run_count, hw] at h
  | error e =>
    obtain ⟨r, b, hr, hlen'⟩ := run_subPop p.hot.other q
    cases b with
    | ok w =>
      by_cases hw : r.stats.get .popsFallback + 1 < wordLimit
      · simp [pop, hempty, hq, hr, run_count, hw] at h
        obtain ⟨rfl, _, hdelivered⟩ := h
        exact Nat.lt_of_lt_of_eq (len_lt_of_deliver hdelivered) (hlen'.trans hlen)
      · simp [pop, hempty, hq, hr, run_count, hw] at h
    | error e' =>
      by_cases hw : r.stats.get .popUnderflows + 1 < wordLimit <;>
        simp [pop, hempty, hq, hr, run_count, hw] at h

/-- Pops until a pop is rejected, and gives the values in order. -/
def drain (p : Pifo V Q₀ Q₁) : Step Event (Pifo V Q₀ Q₁) (List V) :=
  match h : pop.run p with
  | ⟨p', es, .ok (.ok v)⟩ =>
    have := len_lt_of_pop h
    let rest := drain p'
    ⟨rest.state, es ++ rest.events, rest.outcome.map (v :: ·)⟩
  | ⟨p', es, .ok (.error _)⟩ => ⟨p', es, .ok []⟩
  | ⟨p', es, .error e⟩ => ⟨p', es, .error e⟩
termination_by p.len

end TwoFlow.Pifo
