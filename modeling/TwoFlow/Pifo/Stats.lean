import TwoFlow.Error
import TwoFlow.Text.Structured

/-!
# Statistics of a scheduler

Every branch of a request that the scheduler takes raises one of its counters. The counters are
machine words: raising one that stands at the largest word is a fault.

## Main definitions

* `Stats`, `Counter`, `Stats.get`: the counters
* `Stats.bump`, `Stats.raise`: add one to a counter, without and with the check of the word
* `Stats.totalPopped`
-/

namespace TwoFlow

/-- The counters of a scheduler. -/
structure Stats where
  /-- Pushes accepted. -/
  pushesAccepted : Nat := 0
  /-- Pushes rejected because the scheduler was full. -/
  pushesRejectedFull : Nat := 0
  /-- Pushes rejected by the sub-queue of their flow. -/
  pushesRejectedFlow : Nat := 0
  /-- Pops served by the hot flow. -/
  popsPrimary : Nat := 0
  /-- Pops served by the other flow after the hot one failed. -/
  popsFallback : Nat := 0
  /-- Pops rejected. -/
  popUnderflows : Nat := 0
  /-- Pops served by each flow. -/
  served : PerFlow Nat := .both 0
  deriving DecidableEq, Repr

/-- The name of a counter. -/
inductive Counter where
  | pushesAccepted
  | pushesRejectedFull
  | pushesRejectedFlow
  | popsPrimary
  | popsFallback
  | popUnderflows
  | served (flow : Flow)
  deriving DecidableEq, Repr

namespace Stats

/-- The value of a counter. -/
def get (s : Stats) : Counter → Nat
  | .pushesAccepted => s.pushesAccepted
  | .pushesRejectedFull => s.pushesRejectedFull
  | .pushesRejectedFlow => s.pushesRejectedFlow
  | .popsPrimary => s.popsPrimary
  | .popsFallback => s.popsFallback
  | .popUnderflows => s.popUnderflows
  | .served flow => s.served.get flow

/-- Adds one to a counter. -/
def bump (s : Stats) : Counter → Stats
  | .pushesAccepted => { s with pushesAccepted := s.pushesAccepted + 1 }
  | .pushesRejectedFull => { s with pushesRejectedFull := s.pushesRejectedFull + 1 }
  | .pushesRejectedFlow => { s with pushesRejectedFlow := s.pushesRejectedFlow + 1 }
  | .popsPrimary => { s with popsPrimary := s.popsPrimary + 1 }
  | .popsFallback => { s with popsFallback := s.popsFallback + 1 }
  | .popUnderflows => { s with popUnderflows := s.popUnderflows + 1 }
  | .served flow => { s with served := s.served.set flow (s.served.get flow + 1) }

/-- Adds one to a counter that has not reached the largest word. -/
def raise (s : Stats) (c : Counter) : Except Fault Stats :=
  if s.get c + 1 < wordLimit then .ok (s.bump c) else .error .addOverflow

/-- The pops served, by either route. -/
def totalPopped (s : Stats) : Nat := s.popsPrimary + s.popsFallback

/-- The statistics as a structured value. -/
def shown (s : Stats) : Text.Tree :=
  let served0 := s.served.zero
  let served1 := s.served.one
  .closed "PifoStats"
    [("pushes_accepted", .nat s.pushesAccepted),
     ("pushes_rejected_full", .nat s.pushesRejectedFull),
     ("pushes_rejected_flow", .nat s.pushesRejectedFlow),
     ("pops_primary", .nat s.popsPrimary),
     ("pops_fallback", .nat s.popsFallback),
     ("pop_underflows", .nat s.popUnderflows),
     ("served", .atom s!"[{served0}, {served1}]")]

/-- The statistics spelled on one line. -/
def debug (s : Stats) : String := s.shown.line

@[simp] theorem get_bump_self (s : Stats) (c : Counter) : (s.bump c).get c = s.get c + 1 := by
  cases c <;> simp [bump, get]

theorem get_bump_of_ne (s : Stats) {c d : Counter} (h : d ≠ c) : (s.bump c).get d = s.get d := by
  cases c <;> cases d <;> first
    | rfl
    | exact absurd rfl h
    | exact PerFlow.get_set_of_ne _ _ (fun e => h (congrArg Counter.served e))

end Stats

end TwoFlow
