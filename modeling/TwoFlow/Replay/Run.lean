import TwoFlow.Number.Decimal
import TwoFlow.Replay.Options
import TwoFlow.Workload.Session

/-!
# The replay tool

Replays a generated stream of requests against a scheduler and verifies it. The tool writes values
to standard output, and its report and log to standard error; it is right about the scheduler
exactly when it ends with status zero.

## Main definitions

* `Replay.Line`, `Replay.Run`: what the tool writes, and how it ends
* `Replay.execute`: a replay with given options
* `Replay.invoke`: the tool on its arguments
-/

namespace TwoFlow.Replay

/-- A line that the tool writes. -/
inductive Line where
  /-- To standard output. -/
  | output (text : String)
  /-- To standard error. -/
  | report (text : String)
  /-- To the log. -/
  | log (entry : Log.Entry)

/-- What the tool wrote, in order, and the status with which it ended. -/
structure Run where
  status : UInt32
  lines : List Line := []

/-- The status of success. -/
def success : UInt32 := 0

/-- The status of a refusal, and of a verification that found something. -/
def failure : UInt32 := 1

/-- The status of wrong arguments. -/
def misuse : UInt32 := 2

/-- The status of a replay that broke off. -/
def aborted : UInt32 := 101

/-! ## The log -/

/-- An entry of the tool itself. -/
def toolEntry (level : Log.Level) (message : String) (fields : List (String × String)) :
    Log.Entry :=
  ⟨level, "pifo_replay", message, fields⟩

/-- The entry before a replay. -/
def startEntry (o : Options) : Log.Entry :=
  toolEntry .info "Starting replay"
    [("seed", toString o.seed), ("operations", toString o.operations),
     ("pattern", o.traffic.debug), ("flow_capacity", toString o.flowCapacity),
     ("boundary", toString o.boundary), ("shared", if o.shared then "true" else "false")]

/-- The entry after a replay. -/
def statsEntry (stats : Stats) : Log.Entry :=
  toolEntry .info "PIFO statistics" [("pifo_stats", stats.debug)]

/-- The entry of a verification that found something. -/
def failureEntry (violations : Nat) : Log.Entry :=
  toolEntry .error "Verification failed" [("violations", toString violations)]

/-! ## The report -/

/-- The lines of a report. -/
def reportLines (s : Summary) : List String :=
  let t := s.tally
  let total := t.operationsTotal
  let ok := t.operationsOk
  let pushes := t.pushesOk
  let pops := t.popsOk
  let peeks := t.peeksOk
  let overflows := t.overflows
  let underflows := t.underflows
  let violations := s.violations.length
  ["Results:",
    s!"  Operations: {total} total, {ok} ok ({pushes} push, {pops} pop, {peeks} peek)",
    s!"  Rejected: {overflows} overflow, {underflows} underflow",
    s!"  Violations: {violations}"] ++
  s.violations.map fun v => "    - " ++ v.message

/-! ## The replay -/

/-- The configuration of the workload. -/
def Options.workload (o : Options) : WorkloadConfig where
  seed := o.seed
  operations := o.operations
  pattern := o.traffic.pattern o.burstLen
  peekRatio := o.peekRatio
  pifo := ⟨o.flowCapacity, o.boundary⟩

/-- Runs the workload against a target and writes what the options ask for. -/
def replayAgainst {τ : Type} [Target τ] (o : Options) (target : τ) (stats : τ → Stats) : Run :=
  let step := Session.run.run { workload := .ofConfig o.workload, target }
  let before := .log (startEntry o) :: step.events.map fun e => .log e.entry
  match step.outcome with
  | .error e => ⟨aborted, before ++ [.report e.message]⟩
  | .ok summary =>
    let lines := before ++ [.log (statsEntry (stats step.state.target))] ++
      (reportLines summary).map .report ++
      (if o.printAnswers then summary.answers.map fun v => .output (toString v) else [])
    if summary.violations.isEmpty then ⟨success, lines⟩
    else ⟨failure, lines ++ [.log (failureEntry summary.violations.length)]⟩

/-- A refusal in words. -/
def refused (reason : String) : Run := ⟨failure, [.report ("Error: " ++ reason)]⟩

/-- A replay with given options: the ratio is checked first, then the configuration. -/
def execute (o : Options) : Run :=
  let ratio := o.peekRatio.text
  if !o.peekRatio.inUnit then
    refused (Text.quoted s!"peek ratio {ratio} is outside 0.0..=1.0")
  else
    match Pifo.withFifos o.workload.pifo with
    | .error e => refused e.debug
    | .ok pifo =>
      if o.shared then replayAgainst o ({ pifo } : Shared Value _ _) (·.pifo.stats)
      else replayAgainst o pifo (·.stats)

/-- Leaves out the log entries that the level does not cover. -/
def Run.atLevel (level : Log.Level) (r : Run) : Run :=
  { r with lines := r.lines.filter fun
      | .log e => level.covers e.level
      | _ => true }

/-! ## The tool -/

/-- The name and version of the tool. -/
def versionLine : String := "pifo-replay 0.1.0"

/-- The help text. -/
def helpLines : List String :=
  ["Two-flow PIFO replay and verification",
   "",
   "Usage: pifo-replay [OPTIONS]",
   "",
   "Options:",
   "      --seed <SEED>                    Random seed for request generation [default: 0]",
   "      --operations <OPERATIONS>        Number of requests to replay [default: 1000]",
   "      --pattern <PATTERN>              Traffic pattern [default: balanced] " ++
     "[possible values: balanced, flow0, flow1, bursty, saturating, draining]",
   "      --burst-len <BURST_LEN>          Pushes per burst for the bursty pattern [default: 8]",
   "      --peek-ratio <PEEK_RATIO>        Fraction of non-push requests that are peeks " ++
     "[default: 0.2]",
   "      --flow-capacity <FLOW_CAPACITY>  Capacity of each flow's sub-queue [default: 10]",
   "      --boundary <BOUNDARY>            Values at or below this go to flow 0 [default: 200]",
   "      --shared                         Drive the PIFO through " ++
     "the mutex-serialized shared handle",
   "      --print-answers                  Print the answer of every successful " ++
     "pop and peek to stdout",
   "      --log-level <LOG_LEVEL>          Log level (trace, debug, info, warn, error) " ++
     "[default: info]",
   "  -h, --help                           Print help",
   "  -V, --version                        Print version"]

/-- The tool on its arguments. -/
def invoke (args : List String) : Run :=
  match parse args with
  | .error e => ⟨misuse, [.report e.message]⟩
  | .ok .version => ⟨success, [.output versionLine]⟩
  | .ok .help => ⟨success, helpLines.map .output⟩
  | .ok (.replay o) => (execute o).atLevel o.logLevel

end TwoFlow.Replay
