/-!
# Binary floating-point numbers of 64 bits

A finite number of the format is an integral multiple of 2^-1074 whose magnitude has at most 53
significant bits, so it is held as that multiple. Everything here is exact arithmetic of natural
numbers.

## Main definitions

* `Binary64`: finite numbers, infinities, not-a-number
* `Binary64.ofFraction`: the number nearest to a fraction, ties to the even mantissa
* `Binary64.inUnit`: membership in the closed unit interval
-/

namespace TwoFlow

/-- A number of the format. -/
inductive Binary64 where
  /-- The number `units · 2^-1074`, or its negative. -/
  | finite (negative : Bool) (units : Nat)
  | infinite (negative : Bool)
  | nan
  deriving DecidableEq, Repr

namespace Binary64

/-- The units of the number one. -/
def one : Nat := Nat.pow 2 1074

/-- The units from which on a number is infinite. -/
def limit : Nat := Nat.pow 2 2098

/-- The integer nearest to a quotient, ties to the even one. -/
def roundQuotient (a b : Nat) : Nat :=
  let q := a / b
  let r := a % b
  if 2 * r < b then q
  else if b < 2 * r then q + 1
  else if q % 2 = 0 then q
  else q + 1

/-- The number nearest to a fraction. The magnitude in units is rounded to 53 significant bits. -/
def ofFraction (negative : Bool) (num den : Nat) : Binary64 :=
  let scaled := num * one
  let step := Nat.pow 2 (Nat.log2 (scaled / den) - 52)
  let units := roundQuotient scaled (den * step) * step
  if units < limit then finite negative units else infinite negative

/-- Does the number lie in the closed unit interval? -/
def inUnit : Binary64 → Bool
  | finite negative units => units = 0 || (!negative && units ≤ one)
  | infinite _ | nan => false

end Binary64

end TwoFlow
