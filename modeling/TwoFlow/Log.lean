/-!
# Log entries

An entry has a level, the part of the program that reports it, a message, and labelled fields
whose values are already text. A log shows the entries that are at least as severe as its level.

## Main definitions

* `Log.Level`, `Log.Level.covers`: severities, and what a log of a level shows
* `Log.Entry`, `Log.Entry.line`: an entry and its line
-/

namespace TwoFlow.Log

/-- How severe an entry is. -/
inductive Level where
  | trace
  | debug
  | info
  | warn
  | error
  deriving DecidableEq, Repr

namespace Level

/-- The name of a level in a log line. -/
def name : Level → String
  | trace => "TRACE"
  | debug => "DEBUG"
  | info => "INFO"
  | warn => "WARN"
  | error => "ERROR"

/-- Levels in figures, the most severe first. -/
def number : Level → Nat
  | error => 1
  | warn => 2
  | info => 3
  | debug => 4
  | trace => 5

/-- All levels, the most severe first. -/
def all : List Level := [error, warn, info, debug, trace]

/-- Does a log of this level show entries of the other one? -/
def covers (log entry : Level) : Bool := entry.number ≤ log.number

end Level

/-- One entry of a log. -/
structure Entry where
  level : Level
  /-- The part of the program that reports. -/
  target : String
  message : String
  /-- Labels and values, in the order in which they are shown. -/
  fields : List (String × String)
  deriving DecidableEq, Repr

/-- The line of an entry: level, target, message, fields. -/
def Entry.line (e : Entry) : String :=
  let fields := e.fields.map fun f => " " ++ f.1 ++ "=" ++ f.2
  e.level.name ++ " " ++ e.target ++ ": " ++ e.message ++ String.join fields

end TwoFlow.Log
