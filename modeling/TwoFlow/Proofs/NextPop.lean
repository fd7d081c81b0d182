import TwoFlow.Proofs.Rejection

/-!
# What the next pop hands out

Pushes and peeks take nothing out and leave the turn alone, so the next pop is settled by the flow
that has the turn now. Its oldest value comes first. If it has none, then the first value that it
takes in meanwhile does, although others may have waited in the other flow for long. Only if the
flow with the turn stays silent is the other one asked, and there again what waits goes before what
joins.

A peek follows the same order by a path of its own. So a peek shows what the next pop hands out, and
what it has shown stands until a pop happens, or until a flow that had the turn and no value wakes.
A peek that found nothing is outdated by the first push that is accepted, to whichever flow.

## Main definitions

* `Response.ofFound`: the answer to a request that finds a value, or none
* `Backlog.front?`: the value that is handed out next

## Main results

* `Backlog.response_turn_pop`: a pop is answered with the front of the backlog
* `Pifo.hot_of_serve`, `Pifo.Sound.items_of_serve`: what pushes and peeks leave alone, and what they
  add
* `Pifo.Sound.front?_of_serve`: the front of the backlog after pushes and peeks
* `Pifo.pop_after_pushes_and_peeks`: what the next pop hands out
-/

namespace TwoFlow

variable {V : Type}

/-- The answer to a pop or a peek that finds this value, or finds none. -/
def Response.ofFound : Option V → Response V
  | some v => .ok (some v)
  | none => .error .underflow

@[simp] theorem Response.ofFound_inj {o x : Option V} : ofFound o = ofFound x ↔ o = x := by
  cases o <;> cases x <;> simp [ofFound]

@[simp] theorem Response.ofFound_eq_ok_iff {o : Option V} {v : V} :
    ofFound o = .ok (some v) ↔ o = some v :=
  ofFound_inj (x := some v)

theorem Response.ofFound_eq_error_iff {o : Option V} {e : QueueError} :
    ofFound o = .error e ↔ o = none ∧ e = .underflow := by
  cases o <;> simp [ofFound, eq_comm]

theorem popped_eq_nil {requests : List (Request V)} (noPop : ∀ r ∈ requests, r ≠ .pop)
    (answers : List (Response V)) : popped (requests.zip answers) = [] := by
  apply List.filterMap_eq_nil_iff.mpr
  rintro ⟨r, a⟩ hmem
  have hr := noPop r (List.of_mem_zip hmem).1
  cases r with
  | pop => exact absurd rfl hr
  | peek | push => rfl

/-! ## The front of a backlog -/

namespace Backlog

/-- The value that is handed out next: the oldest of the hot flow, or else the oldest of the other
one. -/
def front? (s : Backlog V) : Option V :=
  (s.flows.get s.hot).head?.or (s.flows.get s.hot.other).head?

theorem front?_eq_none_iff {s : Backlog V} : s.front? = none ↔ ∀ f, s.flows.get f = [] := by
  rw [← len_eq_zero_iff, len_eq s s.hot]
  simp [front?]

/-- **A pop is answered with the front of the backlog.** -/
theorem response_turn_pop [LE V] [DecidableLE V] (c : Config V) (s : Backlog V) :
    (s.turn c .pop).response = .ofFound s.front? := by
  rcases turn_pop_cases c s with
    ⟨v, rest, hhot, hturn⟩ | ⟨v, rest, hhot, hother, hturn⟩ | ⟨hhot, hother, hturn⟩
  · simp [hturn, front?, hhot, Response.ofFound]
  · simp [hturn, front?, hhot, hother, Response.ofFound]
  · simp [hturn, front?, hhot, hother, Response.ofFound]

end Backlog

/-! ## Pushes and peeks -/

namespace Pifo

variable {Q₀ Q₁ : Type} [SubQueue Q₀ V] [SubQueue Q₁ V] [LE V] [DecidableLE V] {c : Config V}
  {p p' : Pifo V Q₀ Q₁} {requests : List (Request V)} {es : List Event}
  {answers : List (Response V)}

/-- **Pushes and peeks leave the turn alone**, over any sub-queues. -/
theorem hot_of_serve (run : (serve requests).run p = ⟨p', es, .ok answers⟩)
    (noPop : ∀ r ∈ requests, r ≠ .pop) : p'.hot = p.hot := by
  induction requests generalizing p es answers with
  | nil =>
    cases run
    rfl
  | cons r rest ih =>
    obtain ⟨q, es₁, a, es₂, later, hr, hrest, -, -⟩ := serve_cons.mp run
    have hlater := ih hrest fun r' hr' => noPop r' (List.mem_cons_of_mem _ hr')
    -- Only a pop has an effect on the turn.
    rcases (transition_of_run hr).effect.idle_or_served with ⟨-, hhot⟩ | ⟨v, hpop, -⟩
    · exact hlater.trans hhot
    · exact absurd hpop (noPop r List.mem_cons_self)

variable [SubQueue.Lawful Q₀] [SubQueue.Lawful Q₁]

/-- **Pushes and peeks only add**: behind what waited in a flow stands what the flow has taken
in. -/
theorem Sound.items_of_serve (h : Sound c p)
    (run : (Pifo.serve requests).run p = ⟨p', es, .ok answers⟩)
    (noPop : ∀ r ∈ requests, r ≠ .pop) (f : Flow) :
    p'.items.get f = p.items.get f ++ c.classifier.ofFlow f (accepted (requests.zip answers)) := by
  have hlaw := h.conserves run f
  rw [popped_eq_nil noPop] at hlaw
  exact hlaw.symm

/-- **The front after pushes and peeks.** In the flow with the turn, what waited goes before what
has joined, and both go before anything of the other flow. -/
theorem Sound.front?_of_serve (h : Sound c p)
    (run : (Pifo.serve requests).run p = ⟨p', es, .ok answers⟩) (noPop : ∀ r ∈ requests, r ≠ .pop) :
    p'.backlog.front? =
      (p.items.get p.hot).head?.or
        ((c.classifier.ofFlow p.hot (accepted (requests.zip answers))).head?.or
          ((p.items.get p.hot.other).head?.or
            (c.classifier.ofFlow p.hot.other (accepted (requests.zip answers))).head?)) := by
  simp only [Backlog.front?, backlog_flows, backlog_hot, hot_of_serve run noPop,
    h.items_of_serve run noPop, List.head?_append, Option.or_assoc]

/-- A pop is answered with the front of what waits. -/
theorem Sound.response_pop (h : Sound c p) {a : Response V}
    (run : (handle .pop).run p = ⟨p', es, .ok a⟩) : a = .ofFound p.backlog.front? := by
  rw [(h.takes (transition_of_run run)).response, Backlog.response_turn_pop]

/-- So is a peek, by its own path through the flows. -/
theorem Sound.response_peek (h : Sound c p) {a : Response V}
    (run : (handle .peek).run p = ⟨p', es, .ok a⟩) : a = .ofFound p.backlog.front? := by
  rw [(h.takes (transition_of_run run)).response, Backlog.response_turn_peek,
    Backlog.response_turn_pop]

/-! ## How long the front stays -/

/-- **A front stays as long as the flow with the turn does not wake.** Should that flow wake, its
new value is the front, and it is another value than the one of the other flow that was the front
before. -/
theorem Sound.front?_stays_iff (h : Sound c p)
    (run : (Pifo.serve requests).run p = ⟨p', es, .ok answers⟩)
    (noPop : ∀ r ∈ requests, r ≠ .pop) {v : V} (front : p.backlog.front? = some v) :
    p'.backlog.front? = some v ↔
      (p.items.get p.hot = [] →
        c.classifier.ofFlow p.hot (accepted (requests.zip answers)) = []) := by
  rw [h.front?_of_serve run noPop]
  simp only [Backlog.front?, backlog_flows, backlog_hot] at front
  rcases hhot : p.items.get p.hot with _ | ⟨w, rest⟩
  · rw [hhot] at front
    -- The front was a value of the other flow.
    obtain ⟨others, hother⟩ : ∃ others, p.items.get p.hot.other = v :: others :=
      List.head?_eq_some_iff.mp front
    rcases hjoined : c.classifier.ofFlow p.hot (accepted (requests.zip answers))
      with _ | ⟨w, joined⟩
    · simp [hother]
    · simp only [List.head?_nil, List.head?_cons, Option.none_or, Option.some_or, Option.some.injEq,
        forall_const, reduceCtorEq, iff_false]
      rintro rfl
      have hwoken : w ∈ c.classifier.ofFlow p.hot (accepted (requests.zip answers)) :=
        hjoined ▸ List.mem_cons_self
      have hclass : c.classifier.classify w = p.hot := by
        simpa using (List.mem_filter.mp hwoken).2
      have hclass' : c.classifier.classify w = p.hot.other :=
        h.backlog.classify_eq p.hot.other w (by
          rw [backlog_flows, hother]
          exact List.mem_cons_self)
      exact p.hot.other_ne (hclass'.symm.trans hclass)
  · rw [hhot] at front
    simpa using front

/-- **No front as long as nothing is taken in.** -/
theorem Sound.front?_stays_none_iff (h : Sound c p)
    (run : (Pifo.serve requests).run p = ⟨p', es, .ok answers⟩) (noPop : ∀ r ∈ requests, r ≠ .pop)
    (front : p.backlog.front? = none) :
    p'.backlog.front? = none ↔
      ∀ f, c.classifier.ofFlow f (accepted (requests.zip answers)) = [] := by
  have hempty := Backlog.front?_eq_none_iff.mp front
  rw [Backlog.front?_eq_none_iff]
  refine forall_congr' fun f => ?_
  rw [backlog_flows, h.items_of_serve run noPop, ← backlog_flows, hempty, List.nil_append]

/-! ## The next pop -/

section Stock

variable {p₀ p : Pifo V (Fifo V) (Fifo V)}

/-- **What the next pop hands out.** Let a scheduler over the stock queues have reached a state in
which flow `h` has the turn, and let pushes and peeks follow, accepted or rejected. They and a pop
after them are answered as long as a machine word counts all requests. The pop hands out the oldest
value that waited in `h`; if there was none, the first one that `h` has taken in since; if there is
none either, the oldest one that waited in the other flow; else the first one that the other flow
has taken in since; and it is rejected if there is none at all. A peek at the beginning leaves the
scheduler as it is and is answered as a pop would be there. A value that it shows is what the pop
hands out, unless `h` had no value and has taken one in since. If it finds nothing, so does the pop,
unless a value has been taken in since. -/
theorem pop_after_pushes_and_peeks (built : withFifos c = .ok p₀) {past : List (Request V)}
    {es₀ : List Event} {answers₀ : List (Response V)}
    (reached : (serve past).run p₀ = ⟨p, es₀, .ok answers₀⟩) {h : Flow} (hot : p.hot = h)
    {requests : List (Request V)} (noPop : ∀ r ∈ requests, r ≠ .pop) :
    (past.length + requests.length + 1 < wordLimit →
      ∃ p₁ es₁ answers p₂ es₂ a, (serve requests).run p = ⟨p₁, es₁, .ok answers⟩ ∧
        (handle .pop).run p₁ = ⟨p₂, es₂, .ok a⟩) ∧
    ∃ b, (handle .peek).run p = ⟨p, [], .ok b⟩ ∧
      (∀ p' es a, (handle .pop).run p = ⟨p', es, .ok a⟩ → a = b) ∧
      ∀ p₁ es₁ answers p₂ es₂ a, (serve requests).run p = ⟨p₁, es₁, .ok answers⟩ →
        (handle .pop).run p₁ = ⟨p₂, es₂, .ok a⟩ →
        ∃ joined : Flow → List V,
          (∀ f, joined f = c.classifier.ofFlow f (accepted (requests.zip answers))) ∧
          (∀ f, p₁.items.get f = p.items.get f ++ joined f) ∧
          a = .ofFound ((p.items.get h).head?.or ((joined h).head?.or
            ((p.items.get h.other).head?.or (joined h.other).head?))) ∧
          (∀ v, b = .ok (some v) → (a = b ↔ (p.items.get h = [] → joined h = []))) ∧
          ∀ e, b = .error e → (a = b ↔ ∀ f, joined f = []) := by
  subst hot
  have hsound : Sound c p := ((sound_of_build built).1.serve reached).1
  constructor
  · intro few
    have few' : past.length + (requests ++ [Request.pop]).length < wordLimit := by
      simpa [Nat.add_assoc] using few
    obtain ⟨p₂, es, answers, hrun⟩ := exists_run_of_reached built reached few'
    obtain ⟨p₁, es₁, answers₁, es₂, answers₂, hrequests, hpop, -, -⟩ := serve_append.mp hrun
    obtain ⟨q, es₃, a, -, -, hpop, -⟩ := serve_cons.mp hpop
    exact ⟨p₁, es₁, answers₁, q, es₃, a, hrequests, hpop⟩
  · obtain ⟨q, es, b, way⟩ := exists_transition p .peek
    obtain ⟨rfl, rfl⟩ := way.eq_of_peek
    have hpeek := way.run_peek.2
    have hb := hsound.response_peek hpeek
    refine ⟨b, hpeek, fun p' es a hpop => (hsound.response_pop hpop).trans hb.symm, ?_⟩
    intro p₁ es₁ answers p₂ es₂ a hrun hpop
    have ha := (hsound.serve hrun).1.response_pop hpop
    refine ⟨fun f => c.classifier.ofFlow f (accepted (requests.zip answers)), fun f => rfl,
      hsound.items_of_serve hrun noPop, ?_, ?_, ?_⟩
    · rw [ha, hsound.front?_of_serve hrun noPop]
    · rintro v rfl
      rw [ha, Response.ofFound_eq_ok_iff]
      exact hsound.front?_stays_iff hrun noPop (Response.ofFound_eq_ok_iff.mp hb.symm)
    · rintro e rfl
      obtain ⟨hnone, rfl⟩ := Response.ofFound_eq_error_iff.mp hb.symm
      rw [ha, Response.ofFound_eq_error_iff, and_iff_left rfl]
      exact hsound.front?_stays_none_iff hrun noPop hnone

end Stock

/-- At flow capacity one, with the turn at flow one and only a value of flow zero waiting: a peek
shows the four. Then a push is rejected by its flow, flow one wakes with an eleven and rejects a
twelve. The pop hands out the eleven and not what the peek had shown. -/
theorem pop_after_pushes_and_peeks_woken :
    ∃ p₀ p es₀ answers₀, withFifos (⟨1, 10⟩ : Config Nat) = .ok p₀ ∧
      (serve [.push 1, .pop, .push 4]).run p₀ = ⟨p, es₀, .ok answers₀⟩ ∧ p.hot = .one ∧
      (∀ r ∈ ([.push 5, .peek, .push 11, .push 12] : List (Request Nat)), r ≠ .pop) ∧
      (handle .peek).run p = ⟨p, [], .ok (.ok (some 4))⟩ ∧
      ∃ p₁ es₁ answers p₂ es₂,
        (serve [.push 5, .peek, .push 11, .push 12]).run p = ⟨p₁, es₁, .ok answers⟩ ∧
        (handle .pop).run p₁ = ⟨p₂, es₂, .ok (.ok (some 11))⟩ := by
  obtain ⟨p₀, built⟩ : ∃ p₀, withFifos (⟨1, 10⟩ : Config Nat) = .ok p₀ := ⟨_, rfl⟩
  obtain ⟨p, es₀, answers₀, reached⟩ : ∃ p es₀ answers₀,
      (serve [.push 1, .pop, .push 4]).run p₀ = ⟨p, es₀, .ok answers₀⟩ := by
    cases built
    exact ⟨_, _, _, rfl⟩
  have hot : p.hot = .one := by
    cases built
    cases reached
    rfl
  have noPop : ∀ r ∈ ([.push 5, .peek, .push 11, .push 12] : List (Request Nat)),
      r ≠ .pop := by decide
  obtain ⟨hruns, b, -, -, hlaw⟩ := pop_after_pushes_and_peeks built reached hot noPop
  obtain ⟨p₁, es₁, answers, p₂, es₂, a, hrun, hpop⟩ := hruns (by decide)
  obtain ⟨joined, hjoined, -, rfl, -⟩ := hlaw p₁ es₁ answers p₂ es₂ a hrun hpop
  refine ⟨p₀, p, es₀, answers₀, built, reached, hot, noPop, ?_, p₁, es₁, answers, p₂, es₂, hrun, ?_⟩
  · cases built
    cases reached
    rfl
  · rw [hpop, hjoined, hjoined]
    cases built
    cases reached
    cases hrun
    rfl

end Pifo

end TwoFlow
