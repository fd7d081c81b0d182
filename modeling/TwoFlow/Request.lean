import TwoFlow.SubQueue

/-!
# Requests

A client asks for one of three things: the next value, a look at it, or to take a value in.

## Main definitions

* `Command`, `Command.code`, `Command.ofCode?`: the kinds of request and their numbers
* `Request`, `Request.ofParts`, `Request.command`
* `Response`: what a request is answered with
-/

namespace TwoFlow

/-- The kind of a request. -/
inductive Command where
  | pop
  | peek
  | push
  deriving DecidableEq, Repr

namespace Command

/-- The number of a command. -/
def code : Command → Nat
  | pop => 0
  | peek => 1
  | push => 2

/-- The command with a given number, if there is one. -/
def ofCode? : Nat → Option Command
  | 0 => some pop
  | 1 => some peek
  | 2 => some push
  | _ => none

/-- All commands, in the order of their numbers. -/
def all : List Command := [pop, peek, push]

/-- The spelling of a command in messages. -/
def debug : Command → String
  | pop => "Pop"
  | peek => "Peek"
  | push => "Push"

@[simp] theorem ofCode?_code (c : Command) : ofCode? c.code = some c := by cases c <;> rfl

end Command

/-- A request of a client. -/
inductive Request (V : Type) where
  /-- Hand the next value out. -/
  | pop
  /-- Show the next value. -/
  | peek
  /-- Take a value in. -/
  | push (v : V)
  deriving DecidableEq, Repr

namespace Request

variable {V : Type}

/-- The request of a command; only a push makes use of the value. -/
def ofParts : Command → V → Request V
  | .pop, _ => pop
  | .peek, _ => peek
  | .push, v => push v

/-- The command of a request. -/
def command : Request V → Command
  | pop => .pop
  | peek => .peek
  | push _ => .push

/-- The request spelled as a structured value. -/
def debug [ToString V] : Request V → String
  | pop => "Pop"
  | peek => "Peek"
  | push v => s!"Push({v})"

@[simp] theorem command_ofParts (c : Command) (v : V) : (ofParts c v).command = c := by
  cases c <;> rfl

end Request

/-- The answer to a request: a rejection, a value for a pop or a peek, nothing for a push. -/
abbrev Response (V : Type) := Answer (Option V)

end TwoFlow
