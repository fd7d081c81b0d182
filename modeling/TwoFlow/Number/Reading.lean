import TwoFlow.Number.Decimal

/-!
# Reading numbers

## Main definitions

* `Reading.unsigned?`, `Reading.signed?`: whole numbers with an optional sign
* `Reading.binary64?`: decimal numbers, infinities and not-a-number
-/

namespace TwoFlow.Reading

/-- The value of a row of decimal digits, without one for an empty row. -/
def digits? (cs : List Char) : Option Nat :=
  if !cs.isEmpty && cs.all Char.isDigit then
    some (cs.foldl (fun n c => n * 10 + (c.toNat - '0'.toNat)) 0)
  else none

/-- A whole number below a limit, with an optional plus sign. -/
def unsigned? (limit : Nat) (s : String) : Option Nat :=
  let value := match s.toList with
    | '+' :: cs => digits? cs
    | cs => digits? cs
  value.filter (· < limit)

/-- A whole number with an optional sign. -/
def signed? (s : String) : Option Int :=
  match s.toList with
  | '-' :: cs => (digits? cs).map fun n => -(n : Int)
  | '+' :: cs => (digits? cs).map Int.ofNat
  | cs => (digits? cs).map Int.ofNat

/-- An exponent: nothing, or a mark with an optionally signed row of digits. -/
def exponent? : List Char → Option Int
  | [] => some 0
  | c :: cs => if c = 'e' || c = 'E' then signed? (String.ofList cs) else none

/-- An unsigned decimal number: digits, a point with further digits, an exponent. One of the two
rows of digits may be empty. -/
def decimal? (cs : List Char) : Option Decimal :=
  let whole := cs.takeWhile Char.isDigit
  let rest := cs.dropWhile Char.isDigit
  let (places, rest) := match rest with
    | '.' :: rest => (rest.takeWhile Char.isDigit, rest.dropWhile Char.isDigit)
    | rest => ([], rest)
  match digits? (whole ++ places), exponent? rest with
  | some digits, some exponent => some ⟨digits, exponent - places.length⟩
  | _, _ => none

/-- A number without its sign. The words for the special numbers are read in any case. -/
def magnitude? (negative : Bool) (cs : List Char) : Option Binary64 :=
  let word := String.ofList (cs.map Char.toLower)
  if word = "inf" || word = "infinity" then some (.infinite negative)
  else if word = "nan" then some .nan
  else (decimal? cs).map (.ofDecimal negative)

/-- A number with an optional sign. -/
def binary64? (s : String) : Option Binary64 :=
  match s.toList with
  | '-' :: cs => magnitude? true cs
  | '+' :: cs => magnitude? false cs
  | cs => magnitude? false cs

end TwoFlow.Reading
