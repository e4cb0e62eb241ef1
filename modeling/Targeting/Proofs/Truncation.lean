import Targeting.Matcher.Basic

/-!
# Truncated timestamps

A timestamp is truncated by way of an integer: its integer part is rounded down to a multiple of the
unit, and the result is made a double again. Only timestamps below `2 ^ 53` are truncated, and the
unit is small against that, so that both steps stay far below the numbers that are too large for a
double. What is truncated therefore stays finite.
-/

namespace Targeting

namespace Double

theorem nearestQuotient_le (numerator denominator : Nat) :
    nearestQuotient numerator denominator ≤ numerator / denominator + 1 := by
  simp only [nearestQuotient]
  split
  · omega
  · split
    · omega
    · omega

theorem significand_lt (number : Double) : number.significand < 1 <<< 53 := by
  have small : number.fraction < 1 <<< 52 := Nat.mod_lt _ (by decide)
  unfold significand
  simp only [Nat.reduceShiftLeft] at small ⊢
  split
  · omega
  · omega

/-- The first of the fifty-three bits of a significand is the first bit of the integer. -/
theorem scaleOfRatio_one {number : Nat} (positive : number ≠ 0) :
    scaleOfRatio number 1 = (number.log2 : Int) - 52 := by
  have least : 2 ^ number.log2 ≤ number := Nat.log2_self_le positive
  have whole : Nat.log2 1 = 0 := by decide
  -- The integer has its leading bit, which makes the estimate one too small.
  have inexact : (if (0 : Int) ≤ (number.log2 : Int) - (0 : Nat) - 53 then
        decide (number < 1 <<< (53 + ((number.log2 : Int) - (0 : Nat) - 53).toNat))
      else decide (number <<< (-((number.log2 : Int) - (0 : Nat) - 53)).toNat < 1 <<< 53)) =
        false := by
    split
    · have place : 53 + ((number.log2 : Int) - (0 : Nat) - 53).toNat = number.log2 := by omega
      rw [place, Nat.shiftLeft_eq, Nat.one_mul]
      exact decide_eq_false (Nat.not_lt.mpr least)
    · have missing : (-((number.log2 : Int) - (0 : Nat) - 53)).toNat = 53 - number.log2 := by omega
      have scaled := Nat.mul_le_mul_right (2 ^ (53 - number.log2)) least
      rw [← Nat.pow_add, show number.log2 + (53 - number.log2) = 53 by omega] at scaled
      rw [missing, Nat.shiftLeft_eq, Nat.shiftLeft_eq, Nat.one_mul]
      exact decide_eq_false (Nat.not_lt.mpr scaled)
  simp only [scaleOfRatio, leastScale, whole, inexact, Bool.false_eq_true, if_false]
  omega

/-- Fifty-three bits of an integer below `2 ^ 54`, rounded. -/
theorem roundedSignificand_le {number : Nat} (small : number < 1 <<< 54) :
    (if (0 : Int) ≤ (number.log2 : Int) - 52 then
      nearestQuotient number (1 <<< ((number.log2 : Int) - 52).toNat)
    else nearestQuotient (number <<< (-((number.log2 : Int) - 52)).toNat) 1) ≤ 1 <<< 54 := by
  split
  · have rounded := nearestQuotient_le number (1 <<< ((number.log2 : Int) - 52).toNat)
    have smaller := Nat.div_le_self number (1 <<< ((number.log2 : Int) - 52).toNat)
    omega
  · have bounded : number < 2 ^ (number.log2 + 1) := Nat.lt_log2_self
    have missing : (-((number.log2 : Int) - 52)).toNat = 52 - number.log2 := by omega
    have filled : number <<< (52 - number.log2) ≤ 1 <<< 53 := by
      have scaled := Nat.mul_le_mul_right (2 ^ (52 - number.log2)) (Nat.le_of_lt bounded)
      rw [← Nat.pow_add, show number.log2 + 1 + (52 - number.log2) = 53 by omega] at scaled
      rw [Nat.shiftLeft_eq]
      simpa using scaled
    have rounded := nearestQuotient_le (number <<< (52 - number.log2)) 1
    rw [missing]
    simp only [Nat.div_one, Nat.reduceShiftLeft] at rounded filled ⊢
    omega

theorem isFinite_ofInt {number : Int} (small : number.natAbs < 1 <<< 54) :
    (ofInt number).isFinite := by
  unfold ofInt ofRatio
  split
  · simp [isFinite, infinityMagnitude]
  · next positive =>
      have short : number.natAbs.log2 < 54 := (Nat.log2_lt positive).mpr (by simpa using small)
      have rounded := roundedSignificand_le small
      simp only [scaleOfRatio_one positive]
      simp only [isFinite, infinityMagnitude, leastScale, magnitude_ofMagnitude, decide_eq_true_eq,
        Nat.shiftLeft_eq] at rounded ⊢
      omega

end Double

namespace Timestamp

/-- The integer part of a timestamp that is truncated is below `2 ^ 53`. -/
theorem natAbs_truncated_lt {millis : Double} (exact : isExact millis) :
    millis.truncated.natAbs < 1 <<< 53 := by
  have significand := millis.significand_lt
  have exponent : millis.exponentField ≤ 1075 := by
    have small : millis.magnitude ≤ exactLimit.magnitude := by simpa [isExact] using exact
    have limit : exactLimit.magnitude = 0x433FFFFFFFFFFFFF := by decide
    simp only [Double.exponentField, Nat.shiftRight_eq_div_pow]
    omega
  have whole : (if 0 ≤ millis.scale then millis.significand <<< millis.scale.toNat
      else millis.significand >>> (-millis.scale).toNat) ≤ millis.significand := by
    split
    · next scaled =>
        have unscaled : millis.scale.toNat = 0 := by
          unfold Double.scale at scaled ⊢
          split
          · rfl
          · omega
        simp [unscaled]
    · rw [Nat.shiftRight_eq_div_pow]
      exact Nat.div_le_self _ _
  simp only [Double.truncated]
  split
  · omega
  · omega

theorem isFinite_truncate {unit : Int} {millis : Double} (positive : 0 < unit)
    (small : unit.natAbs ≤ 1 <<< 53) (finite : millis.isFinite) :
    (truncate unit millis).isFinite := by
  simp only [truncate]
  split
  · next exact =>
      have whole := natAbs_truncated_lt exact
      have low := Int.emod_nonneg millis.truncated (by omega : unit ≠ 0)
      have high := Int.emod_lt_of_pos millis.truncated positive
      apply Double.isFinite_ofInt
      simp only [Nat.reduceShiftLeft] at whole small ⊢
      omega
  · exact finite

end Timestamp

theorem Matcher.isFinite_truncate {millis : Double} (kind : MatcherKind)
    (finite : millis.isFinite) : (Matcher.truncate kind millis).isFinite := by
  unfold truncate
  split
  · exact Timestamp.isFinite_truncate (by decide) (by decide) finite
  · exact Timestamp.isFinite_truncate (by decide) (by decide) finite
  · exact Timestamp.isFinite_truncate (by decide) (by decide) finite
  · exact Timestamp.isFinite_truncate (by decide) (by decide) finite
  · exact finite

end Targeting
