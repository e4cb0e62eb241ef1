import Targeting.Double.Rounding

/-!
# Timestamps

A timestamp is a number of milliseconds since the start of 1970. Timestamps are compared by the day
or by the minute, so they are truncated to a multiple of that unit: the fraction is cut off towards
zero and the integer is then rounded down. Numbers so large that not every integer near them is a
double are left alone.
-/

namespace Targeting.Timestamp

/-- The milliseconds of a day. -/
def day : Int := 86400000

/-- The milliseconds of a minute. -/
def minute : Int := 60000

/-- The greatest magnitude up to which every integer is a double of its own: `2 ^ 53 - 1`. -/
def exactLimit : Double := ⟨0x433FFFFFFFFFFFFF⟩

/-- Whether a number is small enough to be truncated. -/
def isExact (millis : Double) : Bool := decide (millis.magnitude ≤ exactLimit.magnitude)

/-- Truncate a timestamp to a multiple of a unit. -/
def truncate (unit : Int) (millis : Double) : Double :=
  if isExact millis then
    let whole := millis.truncated
    Double.ofInt (whole - whole % unit)
  else millis

end Targeting.Timestamp
