import TwoFlow.Proofs.Substitution

/-!
# Values count only by their flow

A value is a payload to a scheduler: the flow of a value is all that it ever looks at. So let the
values be replaced, by others of the same type or of another one and with another boundary, in such
a way that each keeps its flow. The map may take two values to one and may turn their order around.
Then nothing changes but the values themselves: every response is the image of what it was, the same
events are reported, and the state and the statistics look the same after each request.

The equality of contents is lost, since the map may not be undone; what stays is that each flow
holds the images of what it held. That is the relation `SubQueue.HoldImages`, over which stock
queues simulate each other.

Mapped to their flows themselves, values are as few as they can be. Two lists of requests with the
same flows have this image in common, even if no map takes the one to the other, so they are told
apart by the values that come back and by nothing else.

## Main definitions

* `Pifo.RunsAs`: a run that is the image of another one

## Main results

* `Pifo.runsAs_of_withFifos`: mapped requests run as the images
* `Pifo.serve_sees_only_flows`: values count only by their flow
-/

namespace TwoFlow

/-! ## Flows as values -/

/-- Flows are ordered by their numbers. -/
instance : LE Flow := ⟨fun a b => a.index ≤ b.index⟩

instance : DecidableLE Flow := fun a b => inferInstanceAs (Decidable (a.index ≤ b.index))

/-- With flow zero for the boundary, the flow of a flow is the flow itself. -/
theorem Classifier.classify_flow (f : Flow) : (⟨.zero⟩ : Classifier Flow).classify f = f := by
  cases f <;> rfl

namespace Pifo

/-! ## Runs that are images -/

variable {V W : Type}

/-- **A run that is the image of another one**: the responses are the images, or the fault is the
same; the events, what is seen of the state and the statistics are the same; and each flow is left
with the images of what it was left with. -/
structure RunsAs (g : V → W) (s : Step Event (Pifo V (Fifo V) (Fifo V)) (List (Response V)))
    (t : Step Event (Pifo W (Fifo W) (Fifo W)) (List (Response W))) : Prop where
  outcome : t.outcome = s.outcome.map (List.map (Except.map (Option.map g)))
  events : t.events = s.events
  observe : t.state.observe = s.state.observe
  stats : t.state.stats = s.state.stats
  items (f : Flow) : t.state.items.get f = (s.state.items.get f).map g

/-- Stock queues of a given capacity, of which the second holds the images of what the first
holds. -/
def HeldAs (g : V → W) (capacity : Nat) : Fifo V → Fifo W → Prop :=
  SubQueue.HoldImages g (SubQueue.Lawful.Holds capacity) (SubQueue.Lawful.Holds capacity)

variable [LE V] [DecidableLE V] [LE W] [DecidableLE W]

theorem Related.items_eq {g : V → W} {capacity : Nat} {p : Pifo V (Fifo V) (Fifo V)}
    {q : Pifo W (Fifo W) (Fifo W)} (h : Related g (HeldAs g capacity) (HeldAs g capacity) p q)
    (f : Flow) : q.items.get f = (p.items.get f).map g := by
  cases f with
  | zero =>
    obtain ⟨l, ⟨-, hp⟩, -, hq⟩ := h.queue0
    exact hq.trans (congrArg (List.map g) hp.symm)
  | one =>
    obtain ⟨l, ⟨-, hp⟩, -, hq⟩ := h.queue1
    exact hq.trans (congrArg (List.map g) hp.symm)

variable {c : Config V} {c' : Config W} {p : Pifo V (Fifo V) (Fifo V)}
  {q : Pifo W (Fifo W) (Fifo W)}

/-- **Mapped requests run as the images**, if the map keeps the flow of every value. -/
theorem runsAs_of_withFifos (built : withFifos c = .ok p) (built' : withFifos c' = .ok q)
    (capacity : c'.flowCapacity = c.flowCapacity) {g : V → W}
    (classify : ∀ v, c'.classifier.classify (g v) = c.classifier.classify v)
    (requests : List (Request V)) :
    RunsAs g ((serve requests).run p) ((serve (requests.map (Request.map g))).run q) := by
  have sim : SubQueue.Simulation g (HeldAs g c.flowCapacity) :=
    (SubQueue.Lawful.keeps c.flowCapacity).simulation (SubQueue.Lawful.keeps c.flowCapacity) g
  -- Nothing is held at first, and nothing is the image of nothing.
  have hrelated : Related g (HeldAs g c.flowCapacity) (HeldAs g c.flowCapacity) p q :=
    related_of_build built built' capacity classify ⟨[], ⟨rfl, rfl⟩, capacity, rfl⟩
      ⟨[], ⟨rfl, rfl⟩, capacity, rfl⟩
  have served := mirrors_serve sim sim requests hrelated
  exact
    { outcome := served.outcome
      events := served.events
      observe := served.state.observe_eq sim sim
      stats := served.state.stats
      items := served.state.items_eq }

/-- **Values count only by their flow.** Let two schedulers over the stock queues, each for values
of its own type and with a boundary of its own, have the same valid flow capacity. If a map keeps
the flow of every value, then the second scheduler runs on the images of any requests as the first
one does on the requests. And if requests of the two have the same flows, value by value, then no
event, no observation and no counter tells their runs apart, and the values that the two give back
have the same flows. As long as a machine word counts the requests, both runs return all their
responses. -/
theorem serve_sees_only_flows (valid : c.validate = .ok ())
    (capacity : c'.flowCapacity = c.flowCapacity) :
    ∃ p q, withFifos c = .ok p ∧ withFifos c' = .ok q ∧
      (∀ g : V → W, (∀ v, c'.classifier.classify (g v) = c.classifier.classify v) →
        ∀ requests, RunsAs g ((serve requests).run p)
          ((serve (requests.map (Request.map g))).run q)) ∧
      (∀ requests requests',
        requests'.map (Request.map c'.classifier.classify) =
          requests.map (Request.map c.classifier.classify) →
        ((serve requests').run q).outcome.map
            (List.map (Except.map (Option.map c'.classifier.classify))) =
          ((serve requests).run p).outcome.map
            (List.map (Except.map (Option.map c.classifier.classify))) ∧
        ((serve requests').run q).events = ((serve requests).run p).events ∧
        ((serve requests').run q).state.observe = ((serve requests).run p).state.observe ∧
        ((serve requests').run q).state.stats = ((serve requests).run p).state.stats) ∧
      ∀ requests, requests.length < wordLimit →
        ∃ answers, ((serve requests).run p).outcome = .ok answers ∧
          answers.length = requests.length := by
  have valid' : c'.validate = .ok () := by
    rw [Config.validate_eq_ok_iff, capacity]
    exact (Config.validate_eq_ok_iff c).mp valid
  obtain ⟨p, built⟩ := exists_withFifos valid
  obtain ⟨q, built'⟩ := exists_withFifos valid'
  refine ⟨p, q, built, built', ?_, ?_, ?_⟩
  · intro g classify requests
    exact runsAs_of_withFifos built built' capacity classify requests
  · intro requests requests' same
    -- Both runs have one image, that of a scheduler whose values are flows.
    obtain ⟨r, flows⟩ := exists_withFifos (c := (⟨c.flowCapacity, .zero⟩ : Config Flow)) valid
    have image := runsAs_of_withFifos built flows rfl
      (fun v => Classifier.classify_flow (c.classifier.classify v)) requests
    have image' := runsAs_of_withFifos built' flows capacity.symm
      (fun v => Classifier.classify_flow (c'.classifier.classify v)) requests'
    rw [same] at image'
    exact ⟨image'.outcome.symm.trans image.outcome, image'.events.symm.trans image.events,
      image'.observe.symm.trans image.observe, image'.stats.symm.trans image.stats⟩
  · intro requests few
    obtain ⟨p', es, answers, hrun, -⟩ := exists_run_of_build built few
    rw [hrun]
    exact ⟨answers, rfl, length_of_serve hrun⟩

/-- Words split at 200 and integers split at three, by a map that turns the values of flow zero
around and merges those of flow one. Of the two lists of requests at the end none is an image of the
other: one pushes the same value twice, the other one two values. -/
theorem serve_sees_only_flows_merged :
    ∃ (p : Pifo UInt32 (Fifo UInt32) (Fifo UInt32)) (q : Pifo Int (Fifo Int) (Fifo Int)),
      withFifos (⟨2, 200⟩ : Config UInt32) = .ok p ∧ withFifos (⟨2, 3⟩ : Config Int) = .ok q ∧
      RunsAs (fun v => if v ≤ 200 then -(v.toNat : Int) else 4)
        ((serve [.push 7, .push 150, .push 300, .push 8, .push 301, .pop, .peek]).run p)
        ((serve [.push (-7), .push (-150), .push 4, .push (-8), .push 4, .pop, .peek]).run q) ∧
      ((serve [.push (-5), .push 2, .push 9, .pop]).run q).state.observe =
        ((serve [.push 7, .push 7, .push 201, .pop]).run p).state.observe ∧
      ∃ answers, ((serve [.push 7, .push 7, .push 201, .pop]).run p).outcome = .ok answers := by
  have hcapacity : (⟨2, 3⟩ : Config Int).flowCapacity =
      (⟨2, 200⟩ : Config UInt32).flowCapacity := rfl
  obtain ⟨p, q, built, built', himages, hflows, hreturns⟩ := serve_sees_only_flows rfl hcapacity
  have hclassify : ∀ v : UInt32,
      (⟨3⟩ : Classifier Int).classify (if v ≤ 200 then -(v.toNat : Int) else 4) =
        (⟨200⟩ : Classifier UInt32).classify v := by
    intro v
    by_cases hv : v ≤ 200
    · have hle : -(v.toNat : Int) ≤ 3 := by omega
      simp [Classifier.classify, hv, hle]
    · simp [Classifier.classify, hv]
  obtain ⟨answers, hanswers, -⟩ := hreturns [.push 7, .push 7, .push 201, .pop] (by decide)
  exact ⟨p, q, built, built',
    himages _ hclassify [.push 7, .push 150, .push 300, .push 8, .push 301, .pop, .peek],
    (hflows [.push 7, .push 7, .push 201, .pop] [.push (-5), .push 2, .push 9, .pop] rfl).2.2.1,
    answers, hanswers⟩

end Pifo

end TwoFlow
