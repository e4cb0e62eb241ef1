/-!
# Double-precision numbers

A 64-bit binary floating-point number is kept as its bit pattern, so that the payload of a
not-a-number survives. A finite number is plus or minus `significand * 2 ^ scale`. The order of
the numbers that are not not-a-number is the order of their ranks: the magnitude bits, read as an
integer, with the sign of the number. Both zeros have rank zero.
-/

namespace Targeting

/-- A 64-bit binary floating-point number. -/
structure Double where
  /-- Sign, eleven bits of exponent and fifty-two bits of fraction. -/
  bits : UInt64
deriving DecidableEq, Repr, Inhabited

namespace Double

/-- Whether the sign bit is set. -/
def isNegative (number : Double) : Bool := decide (1 <<< 63 ≤ number.bits.toNat)

/-- The bits without the sign, as an integer. -/
def magnitude (number : Double) : Nat := number.bits.toNat % (1 <<< 63)

/-- The number with given sign and magnitude bits. -/
def ofMagnitude (negative : Bool) (magnitude : Nat) : Double :=
  ⟨UInt64.ofNat ((if negative then 1 <<< 63 else 0) + magnitude % (1 <<< 63))⟩

/-- The exponent bits. -/
def exponentField (number : Double) : Nat := number.magnitude >>> 52

/-- The fraction bits. -/
def fraction (number : Double) : Nat := number.magnitude % (1 <<< 52)

/-- The magnitude bits of infinity. -/
def infinityMagnitude : Nat := 2047 <<< 52

/-- Neither infinite nor a not-a-number. -/
def isFinite (number : Double) : Bool := decide (number.magnitude < infinityMagnitude)

/-- A pattern that stands for no number. -/
def isNaN (number : Double) : Bool := decide (infinityMagnitude < number.magnitude)

/-- The integer factor of a finite number. -/
def significand (number : Double) : Nat :=
  if number.exponentField = 0 then number.fraction else (1 <<< 52) + number.fraction

/-- The power of two by which the significand of a finite number is multiplied. -/
def scale (number : Double) : Int :=
  if number.exponentField = 0 then -1074 else number.exponentField - 1075

/-- The integer whose order is the order of the numbers. -/
def rank (number : Double) : Int :=
  if number.isNegative then -(number.magnitude : Int) else number.magnitude

/-- Numeric comparison; false when either side is a not-a-number. -/
def le (left right : Double) : Bool :=
  !left.isNaN && !right.isNaN && decide (left.rank ≤ right.rank)

/-- Numeric equality: both zeros are equal, and a not-a-number equals nothing. -/
def eq (left right : Double) : Bool :=
  !left.isNaN && !right.isNaN && decide (left.rank = right.rank)

/-- The integer part of a finite number, with the fraction cut off towards zero. -/
def truncated (number : Double) : Int :=
  let whole : Nat :=
    if 0 ≤ number.scale then number.significand <<< number.scale.toNat
    else number.significand >>> (-number.scale).toNat
  if number.isNegative then -(whole : Int) else whole

theorem bits_toNat_lt (number : Double) : number.bits.toNat < 1 <<< 64 :=
  number.bits.toNat_lt

@[simp]
theorem magnitude_ofMagnitude (negative : Bool) (magnitude : Nat) :
    (ofMagnitude negative magnitude).magnitude = magnitude % (1 <<< 63) := by
  have small : magnitude % (1 <<< 63) < 1 <<< 63 := Nat.mod_lt _ (by decide)
  simp only [ofMagnitude, Double.magnitude, UInt64.toNat_ofNat', Nat.reduceShiftLeft] at small ⊢
  split <;> omega

@[simp]
theorem isNegative_ofMagnitude (negative : Bool) (magnitude : Nat) :
    (ofMagnitude negative magnitude).isNegative = negative := by
  have small : magnitude % (1 <<< 63) < 1 <<< 63 := Nat.mod_lt _ (by decide)
  simp only [ofMagnitude, isNegative, UInt64.toNat_ofNat', Nat.reduceShiftLeft] at small ⊢
  cases negative
  · simp only [Bool.false_eq_true, if_false, decide_eq_false_iff_not]
    omega
  · simp only [if_true, decide_eq_true_eq]
    omega

/-- A number is determined by its sign and magnitude bits. -/
theorem ofMagnitude_magnitude (number : Double) :
    ofMagnitude number.isNegative number.magnitude = number := by
  have small := number.bits_toNat_lt
  cases number with
  | mk bits =>
      simp only [ofMagnitude, isNegative, magnitude, Nat.mod_mod, mk.injEq]
      apply UInt64.toNat_inj.mp
      simp only [UInt64.toNat_ofNat', decide_eq_true_eq, Nat.reduceShiftLeft]
      simp only [Nat.reduceShiftLeft] at small
      split <;> omega

theorem not_isNaN_of_isFinite {number : Double} (finite : number.isFinite) : ¬number.isNaN := by
  simp only [isFinite, isNaN, decide_eq_true_eq] at *
  omega

end Double

end Targeting
