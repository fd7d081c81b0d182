import TwoFlow.Flow
import TwoFlow.Text.Quoted

/-!
# Rejections, refused configurations and faults

Three kinds of failure are kept apart. A *rejection* (`QueueError`) is a normal answer of a queue
that is full or empty. A *refused configuration* (`ConfigError`) means that no scheduler was built.
A *fault* (`Fault`) is a broken assumption inside a request: a number outside the machine word, an
unknown operation, an impossible probability. A fault ends the request in which it happens and
leaves whatever had been changed before it.

## Main definitions

* `QueueError`, `QueueError.message`
* `ConfigError`, `ConfigError.message`
* `Fault`, `Fault.message`
* `wordLimit`, `checkedAdd`, `checkedMul`: arithmetic of unsigned 64-bit words that faults
  instead of wrapping
-/

namespace TwoFlow

/-! ## Rejections -/

/-- Why a queue rejected a request. -/
inductive QueueError where
  /-- The queue holds `len` values and takes at most `capacity`. -/
  | overflow (len capacity : Nat)
  /-- The queue holds no value. -/
  | underflow
  deriving DecidableEq, Repr

namespace QueueError

/-- The text shown to a user. -/
def message : QueueError → String
  | overflow len capacity => s!"queue overflow: {len} items (max {capacity})"
  | underflow => "queue underflow"

/-- The error spelled as a structured value. -/
def debug : QueueError → String
  | overflow len capacity => s!"Overflow \x7b len: {len}, capacity: {capacity} \x7d"
  | underflow => "Underflow"

/-- Is the error an overflow? -/
def isOverflow : QueueError → Bool
  | overflow _ _ => true
  | underflow => false

/-- Is the error an underflow? -/
def isUnderflow (e : QueueError) : Bool := !e.isOverflow

instance : ToString QueueError := ⟨message⟩

end QueueError

/-! ## Refused configurations -/

/-- Why a scheduler could not be built. -/
inductive ConfigError where
  /-- A flow has to hold at least one value. -/
  | zeroCapacity
  /-- Twice the flow capacity does not fit a machine word. -/
  | totalOverflow (flowCapacity : Nat)
  /-- A sub-queue was built for another capacity than the configured one. -/
  | capacityMismatch (flow : Flow) (capacity flowCapacity : Nat)
  /-- A sub-queue already holds values. -/
  | notEmpty (flow : Flow) (len : Nat)
  /-- A reason given in words by the caller. -/
  | stated (reason : String)
  deriving DecidableEq, Repr

namespace ConfigError

/-- What is wrong with the configuration. -/
def reason : ConfigError → String
  | zeroCapacity => "flow_capacity must be positive"
  | totalOverflow c => s!"flow_capacity {c} overflows total capacity"
  | capacityMismatch flow capacity c =>
    s!"{flow} sub-queue capacity {capacity} does not match flow_capacity {c}"
  | notEmpty flow len => s!"{flow} sub-queue is not empty ({len} items)"
  | stated reason => reason

/-- The text shown to a user. -/
def message (e : ConfigError) : String := "invalid configuration: " ++ e.reason

/-- The error spelled as a structured value. -/
def debug (e : ConfigError) : String :=
  "InvalidConfig \x7b message: " ++ Text.quoted e.reason ++ " \x7d"

end ConfigError

/-! ## Faults -/

/-- Why a request broke off. -/
inductive Fault where
  /-- A sum does not fit a machine word. -/
  | addOverflow
  /-- A product does not fit a machine word. -/
  | mulOverflow
  /-- The length counter was raised while it stood at the capacity. -/
  | lengthAboveCapacity
  /-- The length counter was lowered while it stood at zero. -/
  | lengthBelowZero
  /-- A completion names an operation that was never invoked. -/
  | invalidOperation
  /-- A probability lies outside the unit interval. -/
  | invalidProbability
  /-- A stream of requests is too long to be held. -/
  | streamTooLong
  /-- A caller with exclusive access broke off, for a reason of its own. -/
  | raised (reason : String)
  deriving DecidableEq, Repr

/-- The text that reports a fault. -/
def Fault.message : Fault → String
  | addOverflow => "attempt to add with overflow"
  | mulOverflow => "attempt to multiply with overflow"
  | lengthAboveCapacity => "length counter above capacity"
  | lengthBelowZero => "length counter below zero"
  | invalidOperation => "invalid operation ID"
  | invalidProbability => "called `Result::unwrap()` on an `Err` value: InvalidProbability"
  | streamTooLong => "capacity overflow"
  | raised reason => reason

/-! ## Machine words -/

/-- Counters and lengths are unsigned 64-bit words: every one is below this limit. -/
def wordLimit : Nat := UInt64.size

/-- The sum of two words, or a fault if it is no word. -/
def checkedAdd (a b : Nat) : Except Fault Nat :=
  if a + b < wordLimit then .ok (a + b) else .error .addOverflow

/-- The product of two words, or a fault if it is no word. -/
def checkedMul (a b : Nat) : Except Fault Nat :=
  if a * b < wordLimit then .ok (a * b) else .error .mulOverflow

theorem checkedAdd_eq_ok_iff {a b n : Nat} :
    checkedAdd a b = .ok n ↔ a + b < wordLimit ∧ n = a + b := by
  unfold checkedAdd
  by_cases h : a + b < wordLimit
  · simp [h, eq_comm]
  · simp [h]

theorem checkedMul_eq_ok_iff {a b n : Nat} :
    checkedMul a b = .ok n ↔ a * b < wordLimit ∧ n = a * b := by
  unfold checkedMul
  by_cases h : a * b < wordLimit
  · simp [h, eq_comm]
  · simp [h]

end TwoFlow
