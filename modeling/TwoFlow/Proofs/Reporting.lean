import TwoFlow.Proofs.Accounts

/-!
# The log of a scheduler agrees with its statistics

A scheduler tells what it does twice: it raises its counters, and it reports events to a log. The
two are written apart, a branch of a request at a time, some branches with two reports and some with
two counters. Still, each can be read off the other. The one thing that the log has no message of
its own for is a pop by fallback: it is a fallback that was begun and did not find both flows empty.

The length that comes with a report is the one after it. So a log that starts at some length shows,
with each push and each pop, the length to which the reports up to this one add up.

## Main definitions

* `Log.tally`, `Log.tallyWith`: how many entries have a message, or a message and the value of a
  field
* `Log.LengthsFrom`: the lengths in a log add up
* `Stats.Logged`: the difference between two statistics is in the log
* `Pifo.Branch`: what a branch of a request counts and reports

## Main results

* `Pifo.Transition.branch`: every request takes a branch
* `Pifo.Branch.logged`, `Pifo.Branch.lengthsFrom`, `Pifo.reported_of_serve`: a branch, and any
  requests, are reported as they are counted
* `Pifo.log_agrees_with_stats`: the log of a scheduler over any sub-queues, from its building on
-/

namespace TwoFlow

namespace Log

/-- The value of a field, if the entry has one of this label. -/
def Entry.field (e : Entry) (label : String) : Option String := e.fields.lookup label

/-- How many entries have a message. -/
def tally (message : String) (log : List Entry) : Nat := log.countP (·.message = message)

/-- How many entries have a message and a value for the field of a label. -/
def tallyWith (message label value : String) (log : List Entry) : Nat :=
  log.countP fun e => e.message = message ∧ e.field label = some value

variable {n m : Nat} {e : Entry} {log : List Entry}

theorem tally_append (message : String) (log later : List Entry) :
    tally message (log ++ later) = tally message log + tally message later :=
  List.countP_append

theorem tallyWith_append (message label value : String) (log later : List Entry) :
    tallyWith message label value (log ++ later) =
      tallyWith message label value log + tallyWith message label value later :=
  List.countP_append

theorem tally_cons (message : String) (e : Entry) (log : List Entry) :
    tally message (e :: log) = tally message [e] + tally message log :=
  tally_append message [e] log

/-- **The lengths in a log add up**, from a length `n` on: every push and every pop that is reported
comes with the length that the reports so far lead to. -/
def LengthsFrom (n : Nat) (log : List Entry) : Prop :=
  ∀ before e after, log = before ++ e :: after → e.message = "pushed" ∨ e.message = "popped" →
    ∃ len, e.field "len" = some (toString len) ∧
      len + tally "popped" (before ++ [e]) = n + tally "pushed" (before ++ [e])

theorem lengthsFrom_nil (n : Nat) : LengthsFrom n [] := by
  intro before e after hsplit
  cases before <;> cases hsplit

/-- An entry leads from one length to the next, and shows the next one if it reports a push or a
pop. -/
theorem LengthsFrom.cons (later : LengthsFrom m log)
    (moves : m + tally "popped" [e] = n + tally "pushed" [e])
    (shows : e.message = "pushed" ∨ e.message = "popped" → e.field "len" = some (toString m)) :
    LengthsFrom n (e :: log) := by
  intro before e' after hsplit hmoved
  cases before with
  | nil =>
    cases hsplit
    exact ⟨m, shows hmoved, moves⟩
  | cons x before =>
    -- The entry stands in the rest of the log, whose lengths start where this entry leads to.
    obtain ⟨rfl, rfl⟩ := List.cons.inj hsplit
    obtain ⟨len, hfield, hlen⟩ := later before e' after rfl hmoved
    refine ⟨len, hfield, ?_⟩
    rw [List.cons_append, tally_cons "popped", tally_cons "pushed"]
    omega

/-- An entry that reports neither a push nor a pop leaves the length. -/
theorem LengthsFrom.cons_idle (later : LengthsFrom n log) (pushed : e.message ≠ "pushed")
    (popped : e.message ≠ "popped") : LengthsFrom n (e :: log) := by
  apply later.cons
  · simp [tally, pushed, popped]
  · intro hmoved
    exact absurd hmoved (not_or.mpr ⟨pushed, popped⟩)

end Log

namespace Event

theorem eq_popped_of_message {e : Event} (h : e.entry.message = "popped") :
    ∃ flow hot len, e = .popped flow hot len := by
  cases e with
  | popped flow hot len => exact ⟨flow, hot, len, rfl⟩
  | _ => simp [entry] at h

theorem eq_bothFailed_of_message {e : Event}
    (h : e.entry.message = "both flows empty with non-zero length") :
    ∃ len error, e = .bothFailed len error := by
  cases e with
  | bothFailed len error => exact ⟨len, error, rfl⟩
  | _ => simp [entry] at h

end Event

/-! ## The statistics in the log -/

open Log in
/-- **The difference between two statistics is in the log.** -/
structure Stats.Logged (s s' : Stats) (log : List Log.Entry) : Prop where
  pushed : s'.pushesAccepted = s.pushesAccepted + tally "pushed" log
  full : s'.pushesRejectedFull = s.pushesRejectedFull + tally "push rejected, pifo full" log
  refused : s'.pushesRejectedFlow = s.pushesRejectedFlow + tally "push rejected by sub-queue" log
  /-- A fallback that was begun was served or found both flows empty. -/
  fellBack : s'.popsFallback + tally "both flows empty with non-zero length" log =
    s.popsFallback + tally "hot flow empty, falling back" log
  underflows : s'.popUnderflows =
    s.popUnderflows + (tally "pop rejected, pifo empty" log +
      tally "both flows empty with non-zero length" log)
  served : ∀ f, s'.served.get f = s.served.get f + tallyWith "popped" "flow" f.name log

theorem Stats.Logged.trans {s s' s'' : Stats} {log later : List Log.Entry} (h : s.Logged s' log)
    (h' : s'.Logged s'' later) : s.Logged s'' (log ++ later) where
  pushed := by rw [h'.pushed, h.pushed, Log.tally_append, Nat.add_assoc]
  full := by rw [h'.full, h.full, Log.tally_append, Nat.add_assoc]
  refused := by rw [h'.refused, h.refused, Log.tally_append, Nat.add_assoc]
  fellBack := by
    have hfirst := h.fellBack
    have hlater := h'.fellBack
    rw [Log.tally_append, Log.tally_append]
    omega
  underflows := by
    rw [h'.underflows, h.underflows, Log.tally_append, Log.tally_append]
    omega
  served f := by rw [h'.served, h.served, Log.tallyWith_append, Nat.add_assoc]

theorem Stats.Logged.refl (s : Stats) : s.Logged s [] := ⟨rfl, rfl, rfl, rfl, rfl, fun _ => rfl⟩

namespace Pifo

/-! ## The branches of a request -/

/-- **What a branch of a request counts and reports**: the length before and after it, the counters
it raises and the events it reports. -/
inductive Branch : Nat → Nat → List Counter → List Event → Prop
  | pushFull (n : Nat) : Branch n n [.pushesRejectedFull] [.pushRejectedFull n]
  | pushRefused (n : Nat) (flow : Flow) (e : QueueError) :
    Branch n n [.pushesRejectedFlow] [.pushRejectedByFlow flow e]
  | pushAccepted (n : Nat) (flow : Flow) :
    Branch n (n + 1) [.pushesAccepted] [.pushed flow (n + 1)]
  | popEmpty : Branch 0 0 [.popUnderflows] [.popRejectedEmpty]
  | popPrimary (n : Nat) (hot : Flow) :
    Branch (n + 1) n [.popsPrimary, .served hot] [.popped hot hot.other n]
  | popFallback (n : Nat) (hot : Flow) :
    Branch (n + 1) n [.popsFallback, .served hot.other]
      [.fallingBack hot hot.other, .popped hot.other hot n]
  | popFailed (n : Nat) (hot : Flow) (e : QueueError) :
    Branch n n [.popUnderflows] [.fallingBack hot hot.other, .bothFailed n e]
  | peek (n : Nat) : Branch n n [] []

section Branch

variable {n m : Nat} {raised : List Counter} {es : List Event}

theorem tallyWith_popped (flow hot g : Flow) (n : Nat) :
    Log.tallyWith "popped" "flow" g.name [(Event.popped flow hot n).entry] = [flow].count g := by
  cases flow <;> cases g <;> rfl

/-- **The counters that a branch raises are in its part of the log.** -/
theorem Branch.logged (h : Branch n m raised es) (s : Stats) :
    s.Logged (raised.foldl Stats.bump s) (es.map Event.entry) := by
  cases h with
  | pushFull | pushRefused | pushAccepted | popEmpty | popFailed =>
    constructor <;> simp [Log.tally, Log.tallyWith, Event.entry, Stats.bump]
  | popPrimary _ hot =>
    constructor
    case served =>
      intro f
      exact (served_get_bump _ _ _).trans (congrArg _ (tallyWith_popped hot hot.other f _).symm)
    all_goals simp [Log.tally, Event.entry, Stats.bump]
  | popFallback _ hot =>
    constructor
    case served =>
      intro f
      exact (served_get_bump _ _ _).trans (congrArg _ (tallyWith_popped hot.other hot f _).symm)
    all_goals simp [Log.tally, Event.entry, Stats.bump]
  | peek => exact .refl s

/-- Whichever flow serves a pop, its sibling has the turn afterwards. -/
theorem Branch.turn (h : Branch n m raised es) {flow hot : Flow} {len : Nat}
    (hmem : .popped flow hot len ∈ es) : hot = flow.other := by
  cases h with
  | pushFull | pushRefused | pushAccepted | popEmpty | popFailed | peek => simp at hmem
  | popPrimary =>
    simp only [List.mem_singleton, Event.popped.injEq] at hmem
    obtain ⟨rfl, rfl, -⟩ := hmem
    rfl
  | popFallback =>
    simp only [List.mem_cons, reduceCtorEq, false_or, List.not_mem_nil, or_false,
      Event.popped.injEq] at hmem
    obtain ⟨rfl, rfl, -⟩ := hmem
    exact (Flow.other_other _).symm

/-- **The lengths that a branch reports add up**, if those of the rest of the log do. -/
theorem Branch.lengthsFrom (h : Branch n m raised es) {later : List Log.Entry}
    (hlater : Log.LengthsFrom m later) : Log.LengthsFrom n (es.map Event.entry ++ later) := by
  cases h with
  | pushFull | pushRefused | popEmpty =>
    exact hlater.cons_idle (by simp [Event.entry]) (by simp [Event.entry])
  | pushAccepted =>
    exact hlater.cons (by simp [Log.tally, Event.entry]) (fun _ => rfl)
  | popPrimary =>
    exact hlater.cons (by simp [Log.tally, Event.entry]) (fun _ => rfl)
  | popFallback =>
    apply Log.LengthsFrom.cons_idle _ (by simp [Event.entry]) (by simp [Event.entry])
    exact hlater.cons (by simp [Log.tally, Event.entry]) (fun _ => rfl)
  | popFailed =>
    apply Log.LengthsFrom.cons_idle _ (by simp [Event.entry]) (by simp [Event.entry])
    exact hlater.cons_idle (by simp [Event.entry]) (by simp [Event.entry])
  | peek => exact hlater

end Branch

variable {V Q₀ Q₁ : Type} [SubQueue Q₀ V] [SubQueue Q₁ V] [LE V] [DecidableLE V]
  {p p' p'' : Pifo V Q₀ Q₁} {r : Request V} {a : Response V} {es : List Event}
  {requests : List (Request V)} {answers : List (Response V)}

/-- **Every request takes a branch**, whatever the sub-queues answer. -/
theorem Transition.branch (way : Transition p r p' es a) :
    ∃ raised, Branch p.len p'.len raised es ∧ p'.stats = raised.foldl Stats.bump p.stats := by
  cases way with
  | pushFull => exact ⟨_, .pushFull _, rfl⟩
  | pushRefused _ asked =>
    have same := sameControl_of_subPush asked
    rw [← same.len, ← same.stats]
    exact ⟨_, .pushRefused _ _ _, rfl⟩
  | pushAccepted _ asked =>
    have same := sameControl_of_subPush asked
    rw [← same.len, ← same.stats]
    exact ⟨_, .pushAccepted _ _, rfl⟩
  | popEmpty empty =>
    rw [empty]
    exact ⟨_, .popEmpty, rfl⟩
  | popPrimary holds asked =>
    have same := sameControl_of_subPop asked
    obtain ⟨n, hn⟩ := Nat.exists_eq_succ_of_ne_zero holds
    rw [same.len, same.hot, same.stats, hn]
    exact ⟨_, .popPrimary n _, rfl⟩
  | popFallback holds asked askedOther =>
    have same := (sameControl_of_subPop asked).trans (sameControl_of_subPop askedOther)
    obtain ⟨n, hn⟩ := Nat.exists_eq_succ_of_ne_zero holds
    rw [same.len, same.hot, same.stats, hn]
    exact ⟨_, .popFallback n _, rfl⟩
  | popFailed _ asked askedOther =>
    have same := (sameControl_of_subPop asked).trans (sameControl_of_subPop askedOther)
    rw [same.len, same.stats]
    exact ⟨_, .popFailed _ _ _, rfl⟩
  | peekEmpty => exact ⟨[], .peek _, rfl⟩
  | peekPrimary _ asked =>
    have same := sameControl_of_subPeek asked
    rw [same.len, same.stats]
    exact ⟨[], .peek _, rfl⟩
  | peekFallback _ asked askedOther =>
    have same := (sameControl_of_subPeek asked).trans (sameControl_of_subPeek askedOther)
    rw [same.len, same.stats]
    exact ⟨[], .peek _, rfl⟩

/-! ## Runs -/

/-- **Any requests are reported**: the statistics have risen by what is in the log, a pop is
reported with the turn of the sibling, and the lengths add up, whatever is reported later. -/
theorem reported_of_serve (run : (serve requests).run p = ⟨p', es, .ok answers⟩) :
    p.stats.Logged p'.stats (es.map Event.entry) ∧
      (∀ flow hot len, .popped flow hot len ∈ es → hot = flow.other) ∧
      ∀ later, Log.LengthsFrom p'.len later →
        Log.LengthsFrom p.len (es.map Event.entry ++ later) := by
  induction requests generalizing p es answers with
  | nil =>
    cases run
    exact ⟨.refl _, fun _ _ _ hmem => absurd hmem List.not_mem_nil, fun _ hlater => hlater⟩
  | cons r rest ih =>
    obtain ⟨q, es₁, a, es₂, later, hr, hrest, rfl, -⟩ := serve_cons.mp run
    obtain ⟨raised, hbranch, hstats⟩ := (transition_of_run hr).branch
    obtain ⟨hlogged, hturn, hlengths⟩ := ih hrest
    rw [hstats] at hlogged
    rw [List.map_append]
    refine ⟨(hbranch.logged _).trans hlogged, ?_, ?_⟩
    · intro flow hot len hmem
      rcases List.mem_append.mp hmem with hmem | hmem
      · exact hbranch.turn hmem
      · exact hturn flow hot len hmem
    · intro later hlater
      rw [List.append_assoc]
      exact hbranch.lengthsFrom (hlengths later hlater)

theorem events_peek (q : Pifo V Q₀ Q₁) : ((handle .peek).run q).events = [] := by
  obtain ⟨q', es, a, way⟩ := exists_transition q .peek
  rw [way.run_peek.2]
  cases way <;> rfl

/-- **Over the stock queues no pop finds both flows empty while a value is counted.** -/
theorem tally_bothFailed_of_withFifos {c : Config V} {q₀ q : Pifo V (Fifo V) (Fifo V)}
    (built : withFifos c = .ok q₀) (run : (serve requests).run q₀ = ⟨q, es, .ok answers⟩) :
    Log.tally "both flows empty with non-zero length" (es.map Event.entry) = 0 := by
  obtain ⟨-, -, -, hevents, -⟩ := (sound_of_build built).1.serve run
  apply List.countP_eq_zero.mpr
  intro entry hentry hmessage
  obtain ⟨e, he, rfl⟩ := List.mem_map.mp hentry
  obtain ⟨len, error, rfl⟩ := Event.eq_bothFailed_of_message (of_decide_eq_true hmessage)
  rw [hevents] at he
  exact Backlog.bothFailed_not_mem_turns he

open Log in
/-- **The log agrees with the statistics.** A scheduler that was built, of whatever sub-queues,
answers every list of requests that a machine word counts. Whatever requests it has answered, its
log has a push for each one accepted, full or refused, a pop of each flow for each one that the flow
served, a fallback for each pop by fallback and each pop that found both flows empty, and a rejected
pop or one that found both flows empty for each underflow. With each push and each pop that it
reports comes the length that the reports up to this one add up to, and with each pop the turn of
the sibling of the flow that served it. A peek reports nothing, whatever the state. Over the stock
queues of the same configuration no pop ever finds both flows empty while a value is counted. -/
theorem log_agrees_with_stats {c : Config V} {queue0 : Q₀} {queue1 : Q₁} {p₀ : Pifo V Q₀ Q₁}
    (built : build c queue0 queue1 = .ok p₀) (requests : List (Request V)) :
    (requests.length < wordLimit →
      ∃ p es answers, (serve requests).run p₀ = ⟨p, es, .ok answers⟩) ∧
    (∀ p es answers, (serve requests).run p₀ = ⟨p, es, .ok answers⟩ →
      ∀ log, log = es.map Event.entry →
        tally "pushed" log = p.stats.pushesAccepted ∧
        tally "push rejected, pifo full" log = p.stats.pushesRejectedFull ∧
        tally "push rejected by sub-queue" log = p.stats.pushesRejectedFlow ∧
        (∀ f, tallyWith "popped" "flow" f.name log = p.stats.served.get f) ∧
        tally "hot flow empty, falling back" log =
          p.stats.popsFallback + tally "both flows empty with non-zero length" log ∧
        tally "pop rejected, pifo empty" log + tally "both flows empty with non-zero length" log =
          p.stats.popUnderflows ∧
        (∀ before e after, log = before ++ e :: after →
          e.message = "pushed" ∨ e.message = "popped" →
          tally "popped" (before ++ [e]) ≤ tally "pushed" (before ++ [e]) ∧
          e.field "len" =
            some (toString (tally "pushed" (before ++ [e]) - tally "popped" (before ++ [e])))) ∧
        ∀ e ∈ log, e.message = "popped" →
          ∃ f : Flow, e.field "flow" = some f.name ∧ e.field "hot" = some f.other.name) ∧
    (∀ q : Pifo V Q₀ Q₁, ((handle .peek).run q).events = []) ∧
    ∃ q₀, withFifos c = .ok q₀ ∧
      ∀ q es answers, (serve requests).run q₀ = ⟨q, es, .ok answers⟩ →
        tally "both flows empty with non-zero length" (es.map Event.entry) = 0 := by
  obtain ⟨valid, -, -, hp₀⟩ := build_eq_ok_iff.mp built
  refine ⟨fun few => exists_run_serve requests (headroom_of_build built few), ?_, events_peek, ?_⟩
  · rintro p es answers run log rfl
    obtain ⟨hlogged, hturn, hlengths⟩ := reported_of_serve run
    -- Nothing is reported after the run, and a scheduler starts with nothing counted and no value.
    have hlog := hlengths [] (lengthsFrom_nil _)
    rw [hp₀] at hlogged hlog
    rw [List.append_nil] at hlog
    refine ⟨?_, ?_, ?_, ?_, ?_, ?_, ?_, ?_⟩
    · exact (hlogged.pushed.trans (Nat.zero_add _)).symm
    · exact (hlogged.full.trans (Nat.zero_add _)).symm
    · exact (hlogged.refused.trans (Nat.zero_add _)).symm
    · intro f
      have hserved := hlogged.served f
      cases f <;> exact (hserved.trans (Nat.zero_add _)).symm
    · exact (hlogged.fellBack.trans (Nat.zero_add _)).symm
    · exact (hlogged.underflows.trans (Nat.zero_add _)).symm
    · intro before e after hsplit hmoved
      obtain ⟨len, hfield, hlen⟩ := hlog before e after hsplit hmoved
      rw [Nat.zero_add] at hlen
      refine ⟨Nat.le.intro ((Nat.add_comm _ _).trans hlen), ?_⟩
      rw [← hlen, Nat.add_sub_cancel]
      exact hfield
    · intro entry hentry hmessage
      obtain ⟨e, he, rfl⟩ := List.mem_map.mp hentry
      obtain ⟨flow, hot, len, rfl⟩ := Event.eq_popped_of_message hmessage
      refine ⟨flow, rfl, ?_⟩
      rw [← hturn flow hot len he]
      rfl
  · obtain ⟨q₀, stock⟩ := exists_withFifos valid
    exact ⟨q₀, stock, fun q es answers run => tally_bothFailed_of_withFifos stock run⟩

/-- Over a flow zero that loses every value it takes: a pop by fallback, one that finds both flows
empty with a value counted, and pushes that its flow refuses or that find the scheduler full. -/
theorem log_agrees_with_stats_lossy :
    ∃ p₀ : Pifo UInt32 (FaultyQueue UInt32) (FaultyQueue UInt32),
      build ⟨1, 200⟩ { capacity := 1, limit := 1, pushMode := .drop }
          { capacity := 1, limit := 1 } = .ok p₀ ∧
        ∃ p es answers,
          (serve [.pop, .push 300, .push 301, .push 1, .push 2, .peek, .pop, .pop]).run p₀ =
              ⟨p, es, .ok answers⟩ ∧
            p.stats = ⟨2, 1, 1, 0, 1, 2, ⟨0, 1⟩⟩ ∧
            Log.tally "hot flow empty, falling back" (es.map Event.entry) =
              1 + Log.tally "both flows empty with non-zero length" (es.map Event.entry) ∧
            Log.tally "pop rejected, pifo empty" (es.map Event.entry) +
              Log.tally "both flows empty with non-zero length" (es.map Event.entry) = 2 := by
  obtain ⟨p₀, built⟩ : ∃ p₀ : Pifo UInt32 (FaultyQueue UInt32) (FaultyQueue UInt32),
      build ⟨1, 200⟩ { capacity := 1, limit := 1, pushMode := .drop }
          { capacity := 1, limit := 1 } = .ok p₀ := ⟨_, rfl⟩
  obtain ⟨-, hall, -, -⟩ := log_agrees_with_stats built
    [.pop, .push 300, .push 301, .push 1, .push 2, .peek, .pop, .pop]
  cases built
  obtain ⟨-, -, -, -, hfallback, hunderflows, -, -⟩ := hall _ _ _ rfl _ rfl
  exact ⟨_, rfl, _, _, _, rfl, rfl, hfallback, hunderflows⟩

end Pifo

end TwoFlow
