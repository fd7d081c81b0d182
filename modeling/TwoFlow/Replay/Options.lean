import TwoFlow.Log
import TwoFlow.Number.Reading
import TwoFlow.Workload.Pattern

/-!
# Command-line options of the replay tool

An option is written as `--name value` or `--name=value`, a flag as `--name`. Each may be given
once. A value on its own must not start with a dash; behind an equals sign it may. The arguments
are read from left to right and the first one that is wrong, or that asks for the version or the
help text, decides.

## Main definitions

* `Replay.Traffic`: the patterns that can be chosen
* `Replay.Options`, `Replay.Invocation`: what the arguments ask for
* `Replay.UsageError`
* `Replay.tokens`, `Replay.follow`, `Replay.parse`: options put together with their values, what
  they ask for, and both in one
-/

namespace TwoFlow.Replay

/-- The traffic patterns that can be chosen. -/
inductive Traffic where
  | balanced
  | flow0
  | flow1
  | bursty
  | saturating
  | draining
  deriving DecidableEq, Repr

namespace Traffic

/-- The pattern with a given name. -/
def ofName? : String → Option Traffic
  | "balanced" => some balanced
  | "flow0" => some flow0
  | "flow1" => some flow1
  | "bursty" => some bursty
  | "saturating" => some saturating
  | "draining" => some draining
  | _ => none

/-- The spelling of a pattern in the log. -/
def debug : Traffic → String
  | balanced => "Balanced"
  | flow0 => "Flow0"
  | flow1 => "Flow1"
  | bursty => "Bursty"
  | saturating => "Saturating"
  | draining => "Draining"

/-- The pattern of the workload, given the length of a burst. -/
def pattern (burstLen : Nat) : Traffic → Pattern
  | balanced => .balanced
  | flow0 => .singleFlow .zero
  | flow1 => .singleFlow .one
  | bursty => .bursty burstLen
  | saturating => .saturating
  | draining => .draining

end Traffic

/-- What a replay is asked to do. -/
structure Options where
  seed : UInt64 := 0
  operations : Nat := 1000
  traffic : Traffic := .balanced
  burstLen : Nat := 8
  peekRatio : Binary64 := .ofFraction false 1 5
  flowCapacity : Nat := 10
  boundary : Value := 200
  /-- Go through the shared handle. -/
  shared : Bool := false
  /-- Print every value given. -/
  printAnswers : Bool := false
  logLevel : Log.Level := .info

/-- What the arguments ask for. -/
inductive Invocation where
  | replay (options : Options)
  | version
  | help

/-- What is wrong with the arguments. -/
inductive UsageError where
  /-- An argument that is neither an option nor the value of one. -/
  | unexpected (argument : String)
  /-- An option that was given before. -/
  | repeated (name : String)
  /-- An option without its value. -/
  | missingValue (name : String)
  /-- A flag with a value. -/
  | needlessValue (name : String)
  /-- A value that the option does not take. -/
  | invalidValue (name value : String)
  deriving DecidableEq, Repr

/-- The text of a usage error. -/
def UsageError.message : UsageError → String
  | unexpected argument => s!"error: unexpected argument '{argument}' found"
  | repeated name => s!"error: the argument '--{name}' cannot be used multiple times"
  | missingValue name => s!"error: a value is required for '--{name}' but none was supplied"
  | needlessValue name => s!"error: unexpected value for '--{name}' found; no more were expected"
  | invalidValue name value => s!"error: invalid value '{value}' for '--{name}'"

/-! ## Values -/

/-- A 32-bit number; a sign is allowed, so minus zero is zero. -/
def word32? (s : String) : Option Nat :=
  match Reading.signed? s with
  | some n => if 0 ≤ n ∧ n.toNat < UInt32.size then some n.toNat else none
  | none => none

/-- A 64-bit number. -/
def word64? (s : String) : Option Nat := Reading.unsigned? UInt64.size s

/-- A log level, by its name in any case or by its number. -/
def level? (s : String) : Option Log.Level :=
  Log.Level.all.find? fun level =>
    word64? s = some level.number || s.map Char.toUpper = level.name

/-- Sets an option to a value; `none` if there is no such option. -/
def Options.set? (o : Options) (name value : String) : Option (Except UsageError Options) :=
  let checked {α : Type} (read : Option α) (f : α → Options) : Option (Except UsageError Options) :=
    some (read.elim (.error (.invalidValue name value)) fun a => .ok (f a))
  match name with
  | "seed" => checked (word64? value) fun n => { o with seed := .ofNat n }
  | "operations" => checked (word64? value) fun n => { o with operations := n }
  | "pattern" => checked (Traffic.ofName? value) fun p => { o with traffic := p }
  | "burst-len" => checked (word32? value) fun n => { o with burstLen := n }
  | "peek-ratio" => checked (Reading.binary64? value) fun p => { o with peekRatio := p }
  | "flow-capacity" => checked (word64? value) fun n => { o with flowCapacity := n }
  | "boundary" => checked (word32? value) fun n => { o with boundary := .ofNat n }
  | "log-level" => checked (level? value) fun l => { o with logLevel := l }
  | _ => none

/-- Sets a flag; `none` if there is no such flag. -/
def Options.setFlag? (o : Options) : String → Option Options
  | "shared" => some { o with shared := true }
  | "print-answers" => some { o with printAnswers := true }
  | _ => none

/-! ## Arguments -/

/-- An argument by its form. -/
inductive Argument where
  /-- Two dashes and a name, perhaps with an equals sign and a value. -/
  | long (name : String) (value : Option String)
  /-- One dash and letters, of which the first one counts. -/
  | short (letter : Char)
  /-- Two dashes alone: no option follows. -/
  | separator
  /-- Anything else. -/
  | plain

/-- The form of an argument. -/
def Argument.ofString (s : String) : Argument :=
  match s.toList with
  | ['-', '-'] => .separator
  | '-' :: '-' :: cs =>
    let name := String.ofList (cs.takeWhile (· ≠ '='))
    match cs.dropWhile (· ≠ '=') with
    | [] => .long name none
    | _ :: value => .long name (some (String.ofList value))
  | '-' :: c :: _ => .short c
  | _ => .plain

/-- May the argument be the value of the option before it? -/
def Argument.isValue : Argument → Bool
  | plain => true
  | _ => false

/-- What an argument, with its value, asks for. -/
inductive Token where
  /-- A name on its own. -/
  | flag (name : String)
  /-- An option with its value. -/
  | setting (name value : String)
  /-- An argument that is wrong by its form. -/
  | wrong (error : UsageError)

/-- Is the name that of an option with a value? -/
def takesValue (name : String) : Bool := (({} : Options).set? name "").isSome

/-- Is the name that of a flag, or does it ask for the version or the help text? -/
def isFlag (name : String) : Bool :=
  (({} : Options).setFlag? name).isSome || name = "version" || name = "help"

/-- Puts options and their values together, up to the first argument that is wrong. -/
def tokens : List String → List Token
  | [] => []
  | arg :: rest =>
    match Argument.ofString arg with
    -- After the separator there is no option, so any argument is one too many.
    | .separator => rest.head?.toList.map fun extra => .wrong (.unexpected extra)
    | .plain => [.wrong (.unexpected arg)]
    | .short 'V' => [.flag "version"]
    | .short 'h' => [.flag "help"]
    | .short _ => [.wrong (.unexpected arg)]
    | .long name value =>
      match value with
      | some v =>
        if takesValue name then .setting name v :: tokens rest
        else if isFlag name then [.wrong (.needlessValue name)]
        else [.wrong (.unexpected ("--" ++ name))]
      | none =>
        if takesValue name then
          match rest with
          | [] => [.wrong (.missingValue name)]
          | v :: rest =>
            -- What looks like an option is not taken for a value.
            if (Argument.ofString v).isValue then .setting name v :: tokens rest
            else [.wrong (.missingValue name)]
        else .flag name :: tokens rest

/-- Follows tokens from left to right, on top of the options set so far and the names seen. -/
def follow (o : Options) (seen : List String) : List Token → Except UsageError Invocation
  | [] => .ok (.replay o)
  | .wrong e :: _ => .error e
  -- These two decide at once: they may be repeated, and nothing after them is read.
  | .flag "version" :: _ => .ok .version
  | .flag "help" :: _ => .ok .help
  | .flag name :: rest =>
    if seen.contains name then .error (.repeated name)
    else
      match o.setFlag? name with
      | some o => follow o (name :: seen) rest
      | none => .error (.unexpected ("--" ++ name))
  | .setting name value :: rest =>
    if seen.contains name then .error (.repeated name)
    else
      match o.set? name value with
      | some (.ok o) => follow o (name :: seen) rest
      | some (.error e) => .error e
      | none => .error (.unexpected ("--" ++ name))

/-- Reads the arguments of an invocation. -/
def parse (args : List String) : Except UsageError Invocation := follow {} [] (tokens args)

end TwoFlow.Replay
