import Targeting.Double.Basic

/-!
# Shortest decimal digits

The fewest decimal digits that read back as a given number. The real numbers that round to a double
form an interval around it, which includes its ends when the significand is even. For one digit,
two digits and so on, the two neighbours of the number on that decimal grid are tested: the first
grid with a neighbour in the interval wins. Of two neighbours in the interval the nearer is taken.
Which of two equally near ones is taken differs between the ways to write a number.
-/

namespace Targeting.Double

/-- Decimal digits with the place of the point: the value is `0.d₁d₂… * 10 ^ point`. -/
structure Digits where
  digits : List Char
  point : Int

/-- The numbers that round to a positive finite double, as multiples of one unit. -/
structure Neighbourhood where
  /-- The number itself. -/
  center : Nat
  /-- The lower end of the interval. -/
  lower : Nat
  /-- The upper end of the interval. -/
  upper : Nat
  /-- How many units make one. -/
  unit : Nat
  /-- Whether the ends belong to the interval. -/
  closed : Bool

namespace Neighbourhood

/-- The interval around a positive finite double. Below a power of two the gap is half as wide. -/
def ofDouble (number : Double) : Neighbourhood :=
  let quarters := number.scale - 2
  let factor := 1 <<< quarters.toNat
  let narrow : Bool := decide (number.fraction = 0 ∧ 1 < number.exponentField)
  { center := 4 * number.significand * factor
    lower := (4 * number.significand - (if narrow then 1 else 2)) * factor
    upper := (4 * number.significand + 2) * factor
    unit := 1 <<< (-quarters).toNat
    closed := decide (number.significand % 2 = 0) }

/-- Whether `value * 10 ^ exponent` lies in the interval. -/
def contains (interval : Neighbourhood) (value : Nat) (exponent : Int) : Bool :=
  let point := value * Nat.pow 10 exponent.toNat * interval.unit
  let divisor := Nat.pow 10 (-exponent).toNat
  if interval.closed then
    decide (interval.lower * divisor ≤ point ∧ point ≤ interval.upper * divisor)
  else decide (interval.lower * divisor < point ∧ point < interval.upper * divisor)

/-- The center divided by `10 ^ exponent`, rounded down. -/
def floorAt (interval : Neighbourhood) (exponent : Int) : Nat :=
  interval.center * Nat.pow 10 (-exponent).toNat / (interval.unit * Nat.pow 10 exponent.toNat)

/-- Whether the center is more than halfway from `value * 10 ^ exponent` to the next point of that
grid, or just halfway and such a value is rounded up. -/
def isUpperHalf (interval : Neighbourhood) (halfUp : Nat → Bool) (value : Nat)
    (exponent : Int) : Bool :=
  let middle := (2 * value + 1) * (interval.unit * Nat.pow 10 exponent.toNat)
  let center := 2 * interval.center * Nat.pow 10 (-exponent).toNat
  decide (middle < center) || decide (middle = center) && halfUp value

/-- The point of the grid of spacing `10 ^ exponent` that stands for the number, if one does. -/
def pointAt? (interval : Neighbourhood) (halfUp : Nat → Bool) (exponent : Int) : Option Nat :=
  let below := interval.floorAt exponent
  match interval.contains below exponent, interval.contains (below + 1) exponent with
  | true, true => some (if interval.isUpperHalf halfUp below exponent then below + 1 else below)
  | true, false => some below
  | false, true => some (below + 1)
  | false, false => none

/-- Search from a coarse grid to finer ones. -/
def search (interval : Neighbourhood) (halfUp : Nat → Bool) : Nat → Int → Nat × Int
  | 0, exponent => (interval.floorAt exponent, exponent)
  | finer + 1, exponent =>
      match interval.pointAt? halfUp exponent with
      | some value => (value, exponent)
      | none => interval.search halfUp finer (exponent - 1)

end Neighbourhood

/-- Digits of a natural number without the zeros at its end. -/
def significantDigits (value : Nat) : List Char :=
  ((Nat.toDigits 10 value).reverse.dropWhile (· = '0')).reverse

/-- The place of the point of a positive number `center / unit`, at most one too high. -/
def pointEstimate (interval : Neighbourhood) : Int :=
  let whole := interval.center / interval.unit
  if 0 < whole then (Nat.toDigits 10 whole).length
  else 1 - (Nat.toDigits 10 (interval.unit / interval.center)).length

/-- The shortest digits of a positive finite number, where a half is rounded up if that is wanted
for the digits before it. -/
def shortestDigits (number : Double) (halfUp : Nat → Bool) : Digits :=
  let interval := Neighbourhood.ofDouble number
  let start := pointEstimate interval
  let (value, exponent) := interval.search halfUp 18 start
  { digits := significantDigits value
    point := (Nat.toDigits 10 value).length + exponent }

/-- Digits written out with a point and no exponent. -/
def Digits.positional (number : Digits) : List Char :=
  if number.point ≤ 0 then
    '0' :: '.' :: List.replicate (-number.point).toNat '0' ++ number.digits
  else if number.digits.length ≤ number.point.toNat then
    number.digits ++ List.replicate (number.point.toNat - number.digits.length) '0'
  else
    number.digits.take number.point.toNat ++ '.' :: number.digits.drop number.point.toNat

/-- Digits written with one digit before the point, and the exponent that goes with them. -/
def Digits.mantissa (number : Digits) : List Char :=
  match number.digits with
  | [] => []
  | [first] => [first]
  | first :: rest => first :: '.' :: rest

end Targeting.Double
