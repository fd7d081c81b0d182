import TwoFlow.Number.Binary64
import TwoFlow.Random.ChaCha

/-!
# Random draws

A source gives the words of a stream one after the other. Draws of other kinds take words from it:
a yes or no with a given probability, a value of an interval. A probability is compared with a
64-bit number, exactly; a value of an interval is found by scaling a word, where a word that would
favour some values is rejected and replaced by the next one.

Nothing bounds how many words in a row may be rejected. So that a draw always ends, it is cut off
here after `Draw.maxRejections` of them and then gives the lower end of the interval. The cut-off is
no part of the method. Each word is rejected with at most an even chance, so no stream is expected
to meet it, and what is proved of a draw asks only that its value lies in the interval.

## Main definitions

* `Source`, `Source.ofSeed`, `Draw`: the source, and computations that draw from it
* `Draw.word`, `Draw.pair`: 32 and 64 bits
* `Chance`, `Chance.even`, `Binary64.chance?`, `Draw.chance`: a yes or no
* `Draw.between`: a value of an interval
-/

namespace TwoFlow

/-- A stream of words, from some place on. -/
structure Source where
  key : ChaCha.Key
  /-- The number of the next block. -/
  next : UInt64 := 0
  /-- The words of earlier blocks that have not been drawn. -/
  pending : List UInt32 := []
  deriving DecidableEq, Repr

/-- The stream of a seed. -/
def Source.ofSeed (seed : UInt64) : Source := { key := .ofSeed seed }

/-- A computation that draws words. -/
abbrev Draw (α : Type) := StateM Source α

/-- The range of a 64-bit number in which a draw says yes. -/
inductive Chance where
  /-- Every draw says yes, so that nothing has to be drawn. -/
  | certain
  /-- Numbers below the threshold say yes. -/
  | below (threshold : Nat)
  deriving DecidableEq, Repr

/-- As often yes as no. -/
def Chance.even : Chance := .below (Nat.pow 2 63)

/-- The chance of a probability: the threshold is its share of 2^64, rounded down. -/
def Binary64.chance? : Binary64 → Option Chance
  | .finite negative units =>
    if units = 0 then some (.below 0)
    else if negative then none
    else if units = one then some .certain
    else if units < one then some (.below (units * UInt64.size / one))
    else none
  | .infinite _ | .nan => none

namespace Draw

/-- The next word. -/
def word : Draw UInt32 := fun s =>
  match s.pending with
  | w :: pending => (w, { s with pending })
  | [] =>
    let block := ChaCha.block s.key s.next
    (block.x0, { s with next := s.next + 1, pending := block.tail })

/-- Two words as one number of 64 bits, the low half first. -/
def pair : Draw Nat := do
  let low ← word
  let high ← word
  return high.toNat * UInt32.size + low.toNat

/-- A yes or no. -/
def chance : Chance → Draw Bool
  | .certain => return true
  | .below threshold => return (← pair) < threshold

/-- How many words in a row are rejected before a draw is cut off. -/
def maxRejections : Nat := 1000

/-- A number below `range`, from the first word whose product with `range` has a low half of at
most `zone`, or zero if that many words have been rejected. -/
def scaled (range zone : Nat) : Nat → Draw Nat
  | 0 => return 0
  | rejections + 1 => do
    let product := (← word).toNat * range
    if product % UInt32.size ≤ zone then return product / UInt32.size
    else scaled range zone rejections

/-- A value from `low` to `high`. -/
def between (low high : UInt32) : Draw UInt32 := do
  let range := high.toNat - low.toNat + 1
  if range = UInt32.size then word
  else
    -- The range shifted up until its top bit is that of a word, less one.
    let zone := range * Nat.pow 2 (31 - Nat.log2 range) - 1
    let offset ← scaled range zone maxRejections
    return .ofNat (low.toNat + offset)

end Draw

end TwoFlow
