/-!
# Ranges of characters

A property of characters is held as the closed ranges of code points that have it.

## Main definitions

* `Text.CharRange`, `Text.CharRange.contains`
* `Text.inRanges`: membership of a character in a list of ranges
-/

namespace TwoFlow.Text

/-- The code points from `first` to `last`. -/
structure CharRange where
  first : Nat
  last : Nat
  deriving DecidableEq, Repr

/-- Does the range hold the character? -/
def CharRange.contains (r : CharRange) (c : Char) : Bool := r.first ≤ c.toNat && c.toNat ≤ r.last

/-- Does one of the ranges hold the character? -/
def inRanges (rs : List CharRange) (c : Char) : Bool := rs.any (·.contains c)

end TwoFlow.Text
