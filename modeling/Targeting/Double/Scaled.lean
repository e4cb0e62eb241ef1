import Targeting.Double.Rounding

/-!
# Scaling doubles by powers of ten

A quick way from a decimal to a double: make a double of its digits, and multiply it or divide it by
a power of ten that is a double as well. Every step rounds to the nearest double, so that the result
may be off by a few of the last bits; `Double.ofDecimal` rounds once.
-/

namespace Targeting.Double

/-- The double nearest to `numerator / denominator * 2 ^ exponent`, with the given sign. -/
def ofScaledRatio (negative : Bool) (numerator denominator : Nat) (exponent : Int) : Double :=
  if 0 ≤ exponent then ofRatio negative (numerator <<< exponent.toNat) denominator
  else ofRatio negative numerator (denominator <<< (-exponent).toNat)

/-- The product of two finite doubles. -/
def mul (left right : Double) : Double :=
  ofScaledRatio (left.isNegative != right.isNegative) (left.significand * right.significand) 1
    (left.scale + right.scale)

/-- The quotient of two finite doubles, where the second is not zero. -/
def div (left right : Double) : Double :=
  ofScaledRatio (left.isNegative != right.isNegative) left.significand right.significand
    (left.scale - right.scale)

/-- The exponent of the greatest power of ten that is a finite double. -/
def greatestPower : Nat := 308

/-- A power of ten. -/
def powerOfTen (exponent : Nat) : Double := ofRatio false (Nat.pow 10 exponent) 1

/-- A double divided by the greatest power of ten several times, or until nothing is left of it, and
then by another power of ten. -/
def divideByPowers (last : Nat) : Nat → Double → Double
  | 0, number => number.div (powerOfTen last)
  | times + 1, number =>
      if number.magnitude = 0 then number
      else divideByPowers last times (number.div (powerOfTen greatestPower))

/-- A double that is not negative, multiplied by a power of ten; nothing if that is too large. -/
def scale10? (number : Double) (exponent : Int) : Option Double :=
  if 0 ≤ exponent then
    if exponent ≤ greatestPower then
      (some (number.mul (powerOfTen exponent.toNat))).filter (·.isFinite)
    else if number.magnitude = 0 then some number
    else none
  else
    let power := (-exponent).toNat
    let times := (power - 1) / greatestPower
    some (number.divideByPowers (power - greatestPower * times) times)

end Targeting.Double
