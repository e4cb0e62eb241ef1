import Targeting.Double.Basic

/-!
# Rounding to double precision

The double nearest to a quotient of natural numbers, a half going to the even neighbour. The
quotient is divided by the power of two that leaves it with fifty-three bits, or by the smallest
power there is for a tiny one. The rounded quotient is then already the magnitude bits, apart from
the exponent that is added to them: a quotient that rounds up to a power of two carries into the
exponent by itself.
-/

namespace Targeting.Double

/-- The integer nearest to a quotient, a half going to the even neighbour. -/
def nearestQuotient (numerator denominator : Nat) : Nat :=
  let quotient := numerator / denominator
  let remainder := numerator % denominator
  if 2 * remainder < denominator then quotient
  else if denominator < 2 * remainder then quotient + 1
  else quotient + quotient % 2

/-- The least power of two that a significand is multiplied by. -/
def leastScale : Int := -1074

/-- The power of two for the significand of a positive quotient: the one that leaves it between
`2 ^ 52` and `2 ^ 53`, but never below the least one. -/
def scaleOfRatio (numerator denominator : Nat) : Int :=
  let estimate : Int := (numerator.log2 : Int) - denominator.log2 - 53
  let fits : Bool :=
    if 0 ≤ estimate then decide (numerator < denominator <<< (53 + estimate.toNat))
    else decide (numerator <<< (-estimate).toNat < denominator <<< 53)
  max leastScale (if fits then estimate else estimate + 1)

/-- The double nearest to a quotient, with the given sign. -/
def ofRatio (negative : Bool) (numerator denominator : Nat) : Double :=
  if numerator = 0 then ofMagnitude negative 0
  else
    let scale := scaleOfRatio numerator denominator
    let significand :=
      if 0 ≤ scale then nearestQuotient numerator (denominator <<< scale.toNat)
      else nearestQuotient (numerator <<< (-scale).toNat) denominator
    let magnitude := ((scale - leastScale).toNat <<< 52) + significand
    ofMagnitude negative (min magnitude infinityMagnitude)

/-- The double nearest to an integer. -/
def ofInt (number : Int) : Double := ofRatio (decide (number < 0)) number.natAbs 1

/-- The double nearest to `digits * 10 ^ exponent`. Exponents too far out to matter are settled
before any power is computed. -/
def ofDecimal (negative : Bool) (digits : Nat) (exponent : Int) : Double :=
  if digits = 0 then ofMagnitude negative 0
  else if 310 < exponent then ofMagnitude negative infinityMagnitude
  else if exponent + digits.log2 + 1 < -330 then ofMagnitude negative 0
  else if 0 ≤ exponent then ofRatio negative (digits * Nat.pow 10 exponent.toNat) 1
  else ofRatio negative digits (Nat.pow 10 (-exponent).toNat)

end Targeting.Double
