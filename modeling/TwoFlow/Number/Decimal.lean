import TwoFlow.Number.Binary64

/-!
# Decimal text of binary numbers

A number is written with the fewest decimal digits that read back as it; of two such texts with
equally many digits the nearer one is taken, and of two equally near ones the larger magnitude. The
digits are always written out without an exponent.

## Main definitions

* `Decimal`, `Decimal.positional`: digits with a power of ten, and their text
* `Decimal.trimmed`: the same number without zeros at the end of its digits
* `Binary64.ofDecimal`: the number nearest to a decimal
* `Binary64.shortest`: the shortest decimal that reads back
* `Binary64.text`
-/

namespace TwoFlow

/-- The number `digits · 10^exponent`. -/
structure Decimal where
  digits : Nat
  exponent : Int
  deriving DecidableEq, Repr

namespace Decimal

/-- The same number without zeros at the end of its digits. -/
def trimmed (d : Decimal) : Decimal :=
  if 0 < d.digits ∧ d.digits % 10 = 0 then trimmed ⟨d.digits / 10, d.exponent + 1⟩ else d
termination_by d.digits

/-- The digits in full, without an exponent. -/
def positional (d : Decimal) : String :=
  let text := toString d.digits
  match d.exponent with
  | .ofNat n => text ++ "".pushn '0' n
  | .negSucc n =>
    let places := n + 1
    -- At least one digit stands before the point.
    let text := "".pushn '0' (places + 1 - text.length) ++ text
    let whole := text.length - places
    String.ofList (text.toList.take whole) ++ "." ++ String.ofList (text.toList.drop whole)

end Decimal

namespace Binary64

/-- The number nearest to a decimal. Decimals far outside the format are decided by their size, so
that a long exponent costs nothing. -/
def ofDecimal (negative : Bool) (d : Decimal) : Binary64 :=
  let size := d.exponent + (toString d.digits).length
  if d.digits = 0 ∨ size < -400 then finite negative 0
  else if 400 < size then infinite negative
  else
    match d.exponent with
    | .ofNat n => ofFraction negative (d.digits * Nat.pow 10 n) 1
    | .negSucc n => ofFraction negative d.digits (Nat.pow 10 (n + 1))

/-- The largest power of ten that does not exceed a positive magnitude. -/
def magnitude (units : Nat) : Int :=
  let whole := units / one
  if whole = 0 then
    match (List.range 400).find? fun j => one ≤ units * Nat.pow 10 j with
    | some j => -j
    | none => -400
  else (toString whole).length - 1

/-- The decimal with a given exponent that reads back as a positive magnitude: of the two
neighbours of the magnitude the nearer one that does, an exact tie going up. -/
def readBack? (units : Nat) (exponent : Int) : Option Decimal :=
  let (num, den) : Nat × Nat :=
    match exponent with
    | .ofNat n => (units, one * Nat.pow 10 n)
    | .negSucc n => (units * Nat.pow 10 (n + 1), one)
  -- The magnitude is `num / den` steps of the wanted exponent.
  let below := num / den
  let nearest := (2 * num + den) / (2 * den)
  let farther := if nearest = below then below + 1 else below
  [nearest, farther].map (Decimal.mk · exponent) |>.find? fun d =>
    ofDecimal false d = finite false units

/-- The shortest decimal that reads back as a positive magnitude. Seventeen digits always do; the
exact value stands behind them. A magnitude just below a power of ten may be written as that power,
whose digit one then has a zero behind it. -/
def shortest (units : Nat) : Decimal :=
  let top := magnitude units
  let found := (List.range 17).findSome? fun (n : Nat) => readBack? units (top - n)
  (found.getD ⟨units * Nat.pow 5 1074, -1074⟩).trimmed

/-- The text of a number. -/
def text : Binary64 → String
  | finite negative units =>
    let digits := if units = 0 then "0" else (shortest units).positional
    (if negative then "-" else "") ++ digits
  | infinite negative => if negative then "-inf" else "inf"
  | nan => "NaN"

end Binary64

end TwoFlow
