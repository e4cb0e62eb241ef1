import Mathlib.Algebra.Order.Field.Power
import Mathlib.Data.Rat.Cast.Order
import Mathlib.Tactic.Linarith
import Mathlib.Tactic.Ring
import Targeting.Proofs.Truncation

/-!
# The numbers that doubles stand for

A finite double stands for a rational number. All of these numbers are multiples of the least
positive one, so that they are compared, cut off and counted as integers: `steps` says how many of
the least positive double a number is. More steps mean more in the magnitude bits and the other way
round, across the seams between exponents too, which is why ranks compare numbers.

An integer is a double of its own as long as fifty-three bits are enough for it. That is the case
below `2 ^ 53`, and for even integers below `2 ^ 54`.
-/

namespace Targeting.Double

/-- The rational number that a finite double stands for. -/
def toRat (number : Double) : ℚ :=
  (if number.isNegative then -1 else 1) * number.significand * 2 ^ number.scale

/-- The magnitude, counted in least positive doubles. -/
def steps (number : Double) : Nat := number.significand * 2 ^ (number.exponentField - 1)

/-- How many least positive doubles make one. -/
def stepsOfOne : Nat := 2 ^ 1074

/-- The number, counted in least positive doubles. -/
def signedSteps (number : Double) : Int :=
  if number.isNegative then -(number.steps : Int) else number.steps

theorem natAbs_signedSteps (number : Double) : number.signedSteps.natAbs = number.steps := by
  unfold signedSteps
  split
  · rw [Int.natAbs_neg, Int.natAbs_natCast]
  · rw [Int.natAbs_natCast]

theorem magnitude_eq (number : Double) :
    number.magnitude = (number.exponentField - 1) * 2 ^ 52 + number.significand := by
  have parts := Nat.div_add_mod number.magnitude (2 ^ 52)
  unfold significand fraction exponentField
  simp only [Nat.shiftRight_eq_div_pow, Nat.reduceShiftLeft, Nat.reducePow] at parts ⊢
  split
  · omega
  · omega

/-- A significand has its leading bit unless the exponent is as small as can be. -/
theorem le_significand_or (number : Double) :
    2 ^ 52 ≤ number.significand ∨ number.exponentField - 1 = 0 := by
  unfold significand
  split
  · omega
  · exact .inl (by simp)

theorem steps_lt_of_magnitude_lt {left right : Double} (less : left.magnitude < right.magnitude) :
    left.steps < right.steps := by
  have leftShort := left.significand_lt
  rw [magnitude_eq left, magnitude_eq right] at less
  unfold steps
  simp only [Nat.reducePow, Nat.reduceShiftLeft] at less leftShort
  rcases Nat.lt_trichotomy (left.exponentField - 1) (right.exponentField - 1) with
    lower | same | higher
  · -- A larger exponent is worth at least one more doubling than a significand can make up for.
    have full : 2 ^ 52 ≤ right.significand := by
      rcases right.le_significand_or with leading | least
      · exact leading
      · omega
    calc left.significand * 2 ^ (left.exponentField - 1)
        < 2 ^ 53 * 2 ^ (left.exponentField - 1) :=
          Nat.mul_lt_mul_of_pos_right leftShort (Nat.two_pow_pos _)
      _ = 2 ^ 52 * 2 ^ (left.exponentField - 1 + 1) := by ring
      _ ≤ right.significand * 2 ^ (right.exponentField - 1) :=
          Nat.mul_le_mul full (Nat.pow_le_pow_right (by decide) lower)
  · rw [same] at less ⊢
    exact Nat.mul_lt_mul_of_pos_right (by omega) (Nat.two_pow_pos _)
  · have rightShort := right.significand_lt
    simp only [Nat.reduceShiftLeft] at rightShort
    rcases left.le_significand_or with leading | least
    · simp only [Nat.reducePow] at leading
      omega
    · omega

theorem steps_le_steps_iff {left right : Double} :
    left.steps ≤ right.steps ↔ left.magnitude ≤ right.magnitude := by
  constructor
  · intro few
    by_contra more
    exact absurd (steps_lt_of_magnitude_lt (Nat.lt_of_not_le more)) (Nat.not_lt.mpr few)
  · intro small
    rcases Nat.lt_or_eq_of_le small with less | same
    · exact Nat.le_of_lt (steps_lt_of_magnitude_lt less)
    · unfold steps significand fraction exponentField
      rw [same]

theorem steps_eq_zero_iff {number : Double} : number.steps = 0 ↔ number.magnitude = 0 := by
  have zero : (⟨0⟩ : Double).steps = 0 := by decide
  have nothing : (⟨0⟩ : Double).magnitude = 0 := by decide
  have least := @steps_le_steps_iff number ⟨0⟩
  rw [zero, nothing] at least
  omega

theorem rank_le_rank_iff {left right : Double} :
    left.rank ≤ right.rank ↔ left.signedSteps ≤ right.signedSteps := by
  have forward := @steps_le_steps_iff left right
  have backward := @steps_le_steps_iff right left
  have leftZero := @steps_eq_zero_iff left
  have rightZero := @steps_eq_zero_iff right
  unfold rank signedSteps
  split
  · split
    · omega
    · omega
  · split
    · omega
    · omega

theorem stepsOfOne_pos : 0 < stepsOfOne := by
  unfold stepsOfOne
  positivity

theorem scale_add (number : Double) :
    number.scale + (1074 : Nat) = (number.exponentField - 1 : Nat) := by
  unfold scale
  split
  · omega
  · omega

theorem toRat_mul (number : Double) : number.toRat * stepsOfOne = number.signedSteps := by
  have power : ∀ exponent : Nat, ((2 ^ exponent : Nat) : ℚ) = 2 ^ (exponent : Int) := by
    intro exponent
    rw [Nat.cast_pow, Nat.cast_ofNat, zpow_natCast]
  have shifted : (2 : ℚ) ^ number.scale * stepsOfOne = 2 ^ (number.exponentField - 1) := by
    rw [stepsOfOne, power, ← zpow_add₀ two_ne_zero, scale_add, zpow_natCast]
  unfold toRat signedSteps steps
  rw [mul_assoc, shifted]
  split
  · push_cast
    ring
  · push_cast
    ring

theorem toRat_le_toRat_iff {left right : Double} :
    left.toRat ≤ right.toRat ↔ left.signedSteps ≤ right.signedSteps := by
  have positive : (0 : ℚ) < stepsOfOne := Nat.cast_pos.mpr stepsOfOne_pos
  rw [← mul_le_mul_iff_of_pos_right positive, toRat_mul, toRat_mul, Int.cast_le]

theorem toRat_eq_toRat_iff {left right : Double} :
    left.toRat = right.toRat ↔ left.signedSteps = right.signedSteps := by
  rw [le_antisymm_iff, toRat_le_toRat_iff, toRat_le_toRat_iff, ← le_antisymm_iff]

theorem le_iff {left right : Double} (leftFinite : left.isFinite) (rightFinite : right.isFinite) :
    left.le right = true ↔ left.toRat ≤ right.toRat := by
  rw [toRat_le_toRat_iff, ← rank_le_rank_iff]
  simp [le, not_isNaN_of_isFinite leftFinite, not_isNaN_of_isFinite rightFinite]

theorem eq_iff {left right : Double} (leftFinite : left.isFinite) (rightFinite : right.isFinite) :
    left.eq right = true ↔ left.toRat = right.toRat := by
  have ranks : left.rank = right.rank ↔ left.toRat = right.toRat := by
    rw [toRat_eq_toRat_iff, le_antisymm_iff, rank_le_rank_iff, rank_le_rank_iff,
      ← le_antisymm_iff]
  rw [← ranks]
  simp [eq, not_isNaN_of_isFinite leftFinite, not_isNaN_of_isFinite rightFinite]

/-! ## Integers -/

theorem toRat_eq_intCast_iff {number : Double} {integer : Int} :
    number.toRat = integer ↔ number.signedSteps = integer * stepsOfOne := by
  have positive : (stepsOfOne : ℚ) ≠ 0 := Nat.cast_ne_zero.mpr (Nat.ne_of_gt stepsOfOne_pos)
  rw [← mul_left_inj' positive, toRat_mul]
  exact_mod_cast Iff.rfl

/-- The fields of a number whose significand has its leading bit. -/
theorem exponentField_significand_ofMagnitude {exponent significand : Nat} (negative : Bool)
    (leading : 2 ^ 52 ≤ significand) (short : significand < 2 ^ 53) (small : exponent < 2046) :
    (ofMagnitude negative (exponent * 2 ^ 52 + significand)).exponentField = exponent + 1 ∧
      (ofMagnitude negative (exponent * 2 ^ 52 + significand)).significand = significand := by
  have magnitude : (ofMagnitude negative (exponent * 2 ^ 52 + significand)).magnitude =
      exponent * 2 ^ 52 + significand := by
    rw [magnitude_ofMagnitude, Nat.mod_eq_of_lt]
    simp only [Nat.reducePow, Nat.reduceShiftLeft] at *
    omega
  have field : (ofMagnitude negative (exponent * 2 ^ 52 + significand)).exponentField =
      exponent + 1 := by
    rw [exponentField, magnitude, Nat.shiftRight_eq_div_pow]
    simp only [Nat.reducePow] at *
    omega
  have parts := magnitude_eq (ofMagnitude negative (exponent * 2 ^ 52 + significand))
  rw [magnitude, field, Nat.add_sub_cancel, Nat.add_left_cancel_iff] at parts
  exact ⟨field, parts.symm⟩

theorem steps_ofMagnitude {exponent significand : Nat} (negative : Bool)
    (leading : 2 ^ 52 ≤ significand) (short : significand < 2 ^ 53) (small : exponent < 2046) :
    (ofMagnitude negative (exponent * 2 ^ 52 + significand)).steps =
      significand * 2 ^ exponent := by
  have ⟨field, same⟩ := exponentField_significand_ofMagnitude negative leading short small
  rw [steps, field, same, Nat.add_sub_cancel]

theorem nearestQuotient_mul (quotient : Nat) {denominator : Nat} (positive : 0 < denominator) :
    nearestQuotient (quotient * denominator) denominator = quotient := by
  simp [nearestQuotient, Nat.mul_mod_left, Nat.mul_div_cancel _ positive, positive]

/-- An integer for which the fifty-three bits of a significand are enough. -/
def FitsSignificand (number : Nat) : Prop := number < 2 ^ 53 ∨ number < 2 ^ 54 ∧ number % 2 = 0

theorem FitsSignificand.lt {number : Nat} (fits : FitsSignificand number) : number < 1 <<< 54 := by
  unfold FitsSignificand at fits
  simp only [Nat.reduceShiftLeft, Nat.reducePow] at *
  omega

/-- Rounding an integer to the bits of a significand gives this one, and takes nothing off. -/
structure RoundsTo (number significand : Nat) : Prop where
  leading : 2 ^ 52 ≤ significand
  short : significand < 2 ^ 53
  unchanged : significand * 2 ^ (number.log2 + 1022) = number * stepsOfOne
  rounded :
    (if (0 : Int) ≤ (number.log2 : Int) - 52 then
      nearestQuotient number (1 <<< ((number.log2 : Int) - 52).toNat)
    else nearestQuotient (number <<< (-((number.log2 : Int) - 52)).toNat) 1) = significand

/-- Zeros are appended to a short integer until its leading bit is in place. -/
theorem roundsTo_of_lt {number : Nat} (positive : number ≠ 0) (small : number < 2 ^ 53) :
    RoundsTo number (number * 2 ^ (52 - number.log2)) := by
  have least : 2 ^ number.log2 ≤ number := Nat.log2_self_le positive
  have bounded : number < 2 ^ (number.log2 + 1) := Nat.lt_log2_self
  have short : number.log2 < 53 := (Nat.log2_lt positive).mpr small
  have place : number.log2 + (52 - number.log2) = 52 := by omega
  refine ⟨?_, ?_, ?_, ?_⟩
  · calc 2 ^ 52 = 2 ^ number.log2 * 2 ^ (52 - number.log2) := by rw [← pow_add, place]
      _ ≤ number * 2 ^ (52 - number.log2) := Nat.mul_le_mul_right _ least
  · calc number * 2 ^ (52 - number.log2)
        < 2 ^ (number.log2 + 1) * 2 ^ (52 - number.log2) :=
          Nat.mul_lt_mul_of_pos_right bounded (Nat.two_pow_pos _)
      _ = 2 ^ 53 := by rw [← pow_add, Nat.add_right_comm, place]
  · have exponent : 52 - number.log2 + (number.log2 + 1022) = 1074 := by omega
    rw [mul_assoc, ← pow_add, exponent, stepsOfOne]
  · split
    · next full =>
        have none : ((number.log2 : Int) - 52).toNat = 0 := by omega
        have nothing : 52 - number.log2 = 0 := by omega
        rw [none, nothing]
        simpa using nearestQuotient_mul number Nat.one_pos
    · have missing : (-((number.log2 : Int) - 52)).toNat = 52 - number.log2 := by omega
      rw [missing, Nat.shiftLeft_eq]
      simpa using nearestQuotient_mul (number * 2 ^ (52 - number.log2)) Nat.one_pos

/-- An even integer may have one bit too many, which is zero. -/
theorem roundsTo_half {number : Nat} (large : 2 ^ 53 ≤ number) (bounded : number < 2 ^ 54)
    (even : number % 2 = 0) : RoundsTo number (number / 2) := by
  have positive : number ≠ 0 := by omega
  have long : number.log2 = 53 := by
    have upper : number.log2 < 54 := (Nat.log2_lt positive).mpr bounded
    have lower : 53 ≤ number.log2 := (Nat.le_log2 positive).mpr large
    omega
  have halves : number / 2 * 2 = number := by omega
  refine ⟨?_, ?_, ?_, ?_⟩
  · simp only [Nat.reducePow] at large ⊢
    omega
  · simp only [Nat.reducePow] at bounded ⊢
    omega
  · rw [long, stepsOfOne, show 53 + 1022 = 1 + 1074 by rfl, pow_add, pow_one, ← mul_assoc, halves]
  · rw [long]
    have rounded := nearestQuotient_mul (number / 2) Nat.two_pos
    rw [halves] at rounded
    simpa using rounded

theorem exists_roundsTo {number : Nat} (positive : number ≠ 0) (fits : FitsSignificand number) :
    ∃ significand, RoundsTo number significand := by
  rcases Nat.lt_or_ge number (2 ^ 53) with small | large
  · exact ⟨_, roundsTo_of_lt positive small⟩
  · have ⟨bounded, even⟩ := fits.resolve_left (Nat.not_lt.mpr large)
    exact ⟨_, roundsTo_half large bounded even⟩

/-- An integer for which a significand is large enough is a double of its own. -/
theorem steps_ofInt {number : Int} (fits : FitsSignificand number.natAbs) :
    (ofInt number).steps = number.natAbs * stepsOfOne := by
  unfold ofInt ofRatio
  split
  · next zero =>
      rw [zero, Nat.zero_mul, steps_eq_zero_iff, magnitude_ofMagnitude, Nat.zero_mod]
  · next positive =>
      rcases exists_roundsTo positive fits with ⟨significand, leading, short, steps, rounded⟩
      have long : number.natAbs.log2 < 54 :=
        (Nat.log2_lt positive).mpr (by simpa using fits.lt)
      have exponent : ((number.natAbs.log2 : Int) - 52 - leastScale).toNat =
          number.natAbs.log2 + 1022 := by
        simp only [leastScale]
        omega
      have finite : min ((number.natAbs.log2 + 1022) * 2 ^ 52 + significand) infinityMagnitude =
          (number.natAbs.log2 + 1022) * 2 ^ 52 + significand := by
        simp only [infinityMagnitude, Nat.reducePow, Nat.reduceShiftLeft] at *
        omega
      have measured := steps_ofMagnitude (decide (number < 0)) leading short
        (by omega : number.natAbs.log2 + 1022 < 2046)
      simp only [Nat.shiftLeft_eq 1, one_mul, scaleOfRatio_one positive] at rounded ⊢
      rw [rounded, exponent, Nat.shiftLeft_eq, finite, measured, steps]

theorem isNegative_ofInt (number : Int) : (ofInt number).isNegative = decide (number < 0) := by
  unfold ofInt ofRatio
  split
  · exact isNegative_ofMagnitude _ _
  · exact isNegative_ofMagnitude _ _

theorem toRat_ofInt {number : Int} (fits : FitsSignificand number.natAbs) :
    (ofInt number).toRat = number := by
  rw [toRat_eq_intCast_iff, signedSteps, isNegative_ofInt, steps_ofInt fits]
  split
  · next below =>
      have negative : -(number.natAbs : Int) = number := by
        have sign := of_decide_eq_true below
        omega
      rw [Int.natCast_mul, ← Int.neg_mul, negative]
  · next notBelow =>
      have positive : (number.natAbs : Int) = number := by
        have sign := of_decide_eq_false (Bool.eq_false_of_not_eq_true notBelow)
        omega
      rw [Int.natCast_mul, positive]

/-- The integer part, without its sign. -/
theorem whole_eq (number : Double) :
    (if 0 ≤ number.scale then number.significand <<< number.scale.toNat
      else number.significand >>> (-number.scale).toNat) = number.steps / stepsOfOne := by
  have exponent := number.scale_add
  unfold steps
  split
  · next large =>
      have doublings : number.exponentField - 1 = number.scale.toNat + 1074 := by omega
      rw [Nat.shiftLeft_eq, doublings, pow_add, ← mul_assoc, ← stepsOfOne,
        Nat.mul_div_cancel _ stepsOfOne_pos]
  · next small =>
      have halvings : 1074 = (-number.scale).toNat + (number.exponentField - 1) := by omega
      rw [Nat.shiftRight_eq_div_pow, stepsOfOne, halvings, pow_add,
        Nat.mul_div_mul_right _ _ (Nat.two_pow_pos _)]

theorem steps_of_toRat {number : Double} {integer : Int} (whole : number.toRat = integer) :
    number.steps = integer.natAbs * stepsOfOne := by
  rw [← natAbs_signedSteps, toRat_eq_intCast_iff.mp whole, Int.natAbs_mul, Int.natAbs_natCast]

/-- The integer part of an integer is the integer. -/
theorem truncated_of_toRat {number : Double} {integer : Int} (whole : number.toRat = integer) :
    number.truncated = integer := by
  have positive := stepsOfOne_pos
  have size := steps_of_toRat whole
  rw [toRat_eq_intCast_iff] at whole
  simp only [truncated, whole_eq]
  rw [size, Nat.mul_div_cancel _ positive]
  unfold signedSteps at whole
  rw [size, Int.natCast_mul, ← Int.neg_mul] at whole
  have nonzero : (stepsOfOne : Int) ≠ 0 := by omega
  split at whole
  · next negative => exact (if_pos negative).trans (Int.eq_of_mul_eq_mul_right nonzero whole)
  · next negative => exact (if_neg negative).trans (Int.eq_of_mul_eq_mul_right nonzero whole)

end Targeting.Double
