import Targeting.Proofs.Magnitude

/-!
# The nearest double

An integer is converted to the double nearest to it, a tie going to the double whose significand is
even. An integer of more than fifty-three bits is rounded to a multiple of a power of two. All
doubles at least as large as the leading bit of the integer are such multiples, and all smaller ones
are farther away than the leading bit itself, so that no double is nearer than the nearest multiple.

There is only one nearest double. Two of them would have their value halfway between them and even
significands, and between doubles with even significands there is always another one.
-/

namespace Targeting.Double

/-- The finite double nearest to a value, with its sign, and of two that are equally near the one
with an even significand. -/
structure IsNearest (number : Double) (value : ℚ) : Prop where
  finite : number.isFinite
  sign : number.isNegative ↔ value < 0
  near : ∀ other : Double, other.isFinite → |number.toRat - value| ≤ |other.toRat - value|
  even : ∀ other : Double, other.isFinite → |number.toRat - value| = |other.toRat - value| →
    number.toRat ≠ other.toRat → number.significand % 2 = 0

/-! ## The nearest multiple -/

section

variable {numerator denominator : Nat}

theorem nearestQuotient_cases (numerator denominator : Nat) :
    nearestQuotient numerator denominator = numerator / denominator ∧
        2 * (numerator % denominator) ≤ denominator ∨
      nearestQuotient numerator denominator = numerator / denominator + 1 ∧
        denominator ≤ 2 * (numerator % denominator) := by
  simp only [nearestQuotient]
  split
  · omega
  · split
    · omega
    · omega

theorem nearestQuotient_of_tie (tie : 2 * (numerator % denominator) = denominator) :
    nearestQuotient numerator denominator % 2 = 0 := by
  simp only [nearestQuotient, tie, Nat.lt_irrefl, if_false]
  omega

/-- A multiple is one of the two beside the number, or a whole step farther away. -/
theorem multiple_cases (numerator denominator : Nat) (factor : Int) :
    factor * denominator + denominator ≤ (numerator / denominator : Nat) * denominator ∨
      factor = (numerator / denominator : Nat) ∨
      factor = (numerator / denominator + 1 : Nat) ∨
      (numerator / denominator : Nat) * denominator + 2 * denominator ≤
        factor * (denominator : Int) := by
  have step : (0 : Int) ≤ denominator := Int.natCast_nonneg _
  rcases lt_trichotomy factor (numerator / denominator : Nat) with below | same | above
  · left
    calc factor * denominator + denominator
        = (factor + 1) * denominator := by ring
      _ ≤ _ := Int.mul_le_mul_of_nonneg_right below step
  · exact .inr (.inl same)
  · rcases eq_or_lt_of_le (Int.add_one_le_of_lt above) with next | beyond
    · exact .inr (.inr (.inl next.symm))
    · refine .inr (.inr (.inr ?_))
      calc ((numerator / denominator : Nat) : Int) * denominator + 2 * denominator
          = ((numerator / denominator : Nat) + 1 + 1) * denominator := by ring
        _ ≤ _ := Int.mul_le_mul_of_nonneg_right beyond step

theorem natCast_div_mul_add_mod (numerator denominator : Nat) :
    ((numerator / denominator : Nat) : Int) * denominator + (numerator % denominator : Nat) =
      numerator := by
  exact_mod_cast Nat.div_add_mod' numerator denominator

/-- No multiple is nearer than the one that is taken, and another one is as near only in the middle
between an even and an odd one. -/
theorem nearestQuotient_nearest (positive : 0 < denominator) (factor : Int) :
    (nearestQuotient numerator denominator * denominator - numerator : Int).natAbs ≤
        (factor * denominator - numerator).natAbs ∧
      ((nearestQuotient numerator denominator * denominator - numerator : Int).natAbs =
          (factor * denominator - numerator).natAbs →
        factor ≠ nearestQuotient numerator denominator →
          nearestQuotient numerator denominator % 2 = 0) := by
  have parts := natCast_div_mul_add_mod numerator denominator
  have next := add_one_mul ((numerator / denominator : Nat) : Int) denominator
  rw [← Nat.cast_add_one] at next
  have small := Nat.mod_lt numerator positive
  have tie := @nearestQuotient_of_tie numerator denominator
  have either := nearestQuotient_cases numerator denominator
  generalize nearestQuotient numerator denominator = nearest at *
  rcases multiple_cases numerator denominator factor with below | rfl | rfl | above
  all_goals
    rcases either with ⟨rfl, lower⟩ | ⟨rfl, upper⟩
    · omega
    · omega

end

/-! ## Rounding a large integer -/

/-- How far apart the doubles with the leading bit of a large integer are. -/
def spacing (size : Nat) : Nat := 2 ^ (size.log2 - 52)

theorem spacing_pos (size : Nat) : 0 < spacing size := Nat.two_pow_pos _

section

variable {size : Nat} (large : 2 ^ 53 ≤ size)

include large

theorem ne_zero_of_large : size ≠ 0 :=
  Nat.ne_of_gt (Nat.lt_of_lt_of_le (Nat.two_pow_pos 53) large)

theorem le_log2 : 53 ≤ size.log2 :=
  (Nat.le_log2 (ne_zero_of_large large)).mpr large

theorem leading_mul_spacing_le : 2 ^ 52 * spacing size ≤ size := by
  have place : 52 + (size.log2 - 52) = size.log2 := by
    have long := le_log2 large
    omega
  rw [spacing, ← pow_add, place]
  exact Nat.log2_self_le (ne_zero_of_large large)

theorem lt_mul_spacing : size < 2 ^ 53 * spacing size := by
  have place : 53 + (size.log2 - 52) = size.log2 + 1 := by
    have long := le_log2 large
    omega
  rw [spacing, ← pow_add, place]
  exact Nat.lt_log2_self

theorem spacing_mul_stepsOfOne : spacing size * stepsOfOne = 2 ^ (size.log2 + 1022) := by
  have exponent : size.log2 - 52 + 1074 = size.log2 + 1022 := by
    have long := le_log2 large
    omega
  rw [spacing, stepsOfOne, ← pow_add, exponent]

/-- Fifty-three bits are left of a large integer, unless rounding up makes it a power of two. -/
theorem nearestQuotient_spacing_bounds :
    2 ^ 52 ≤ nearestQuotient size (spacing size) ∧
      nearestQuotient size (spacing size) ≤ 2 ^ 53 := by
  have positive := spacing_pos size
  have lower := (Nat.le_div_iff_mul_le positive).mpr (leading_mul_spacing_le large)
  have upper := (Nat.div_lt_iff_lt_mul positive).mpr (lt_mul_spacing large)
  rcases nearestQuotient_cases size (spacing size) with ⟨same, _⟩ | ⟨same, _⟩
  · omega
  · omega

end

/-- A significand that has been rounded up to a power of two carries into the exponent. -/
theorem steps_ofMagnitude_of_le {exponent significand : Nat} (negative : Bool)
    (leading : 2 ^ 52 ≤ significand) (short : significand ≤ 2 ^ 53) (small : exponent < 2045) :
    (ofMagnitude negative (exponent * 2 ^ 52 + significand)).steps = significand * 2 ^ exponent ∧
      (significand % 2 = 0 →
        (ofMagnitude negative (exponent * 2 ^ 52 + significand)).significand % 2 = 0) := by
  rcases Nat.lt_or_eq_of_le short with shorter | rfl
  · have ⟨_, same⟩ := exponentField_significand_ofMagnitude negative leading shorter
      (by omega : exponent < 2046)
    rw [same]
    exact ⟨steps_ofMagnitude negative leading shorter (by omega), id⟩
  · have carried : exponent * 2 ^ 52 + 2 ^ 53 = (exponent + 1) * 2 ^ 52 + 2 ^ 52 := by omega
    have ⟨_, same⟩ := exponentField_significand_ofMagnitude negative (Nat.le_refl (2 ^ 52))
      (by decide) (by omega : exponent + 1 < 2046)
    rw [carried, steps_ofMagnitude negative (Nat.le_refl _) (by decide) (by omega), same]
    exact ⟨by ring, fun _ => rfl⟩

section

variable {number : Int} (large : 2 ^ 53 ≤ number.natAbs) (small : number.natAbs < 2 ^ 64)

include large small

theorem log2_lt : number.natAbs.log2 < 64 :=
  (Nat.log2_lt (ne_zero_of_large large)).mpr small

theorem ofInt_eq_ofMagnitude :
    ofInt number = ofMagnitude (decide (number < 0))
      ((number.natAbs.log2 + 1022) * 2 ^ 52 +
        nearestQuotient number.natAbs (spacing number.natAbs)) := by
  have positive := ne_zero_of_large large
  have long := le_log2 large
  have short := log2_lt large small
  have ⟨_, bounded⟩ := nearestQuotient_spacing_bounds large
  have whole : (0 : Int) ≤ (number.natAbs.log2 : Int) - 52 := by omega
  have place : ((number.natAbs.log2 : Int) - 52).toNat = number.natAbs.log2 - 52 := by omega
  have exponent : ((number.natAbs.log2 : Int) - 52 - leastScale).toNat =
      number.natAbs.log2 + 1022 := by
    simp only [leastScale]
    omega
  simp only [ofInt, ofRatio, positive, if_false, scaleOfRatio_one positive, whole, if_true, place,
    exponent, Nat.shiftLeft_eq, one_mul]
  rw [← spacing, Nat.min_eq_left]
  simp only [infinityMagnitude, Nat.reducePow, Nat.reduceShiftLeft] at *
  omega

theorem steps_ofInt_of_large :
    (ofInt number).steps =
        nearestQuotient number.natAbs (spacing number.natAbs) *
          (spacing number.natAbs * stepsOfOne) ∧
      (nearestQuotient number.natAbs (spacing number.natAbs) % 2 = 0 →
        (ofInt number).significand % 2 = 0) := by
  have short := log2_lt large small
  have ⟨leading, bounded⟩ := nearestQuotient_spacing_bounds large
  rw [ofInt_eq_ofMagnitude large small, spacing_mul_stepsOfOne large]
  exact steps_ofMagnitude_of_le _ leading bounded (by omega)

theorem isFinite_ofInt_of_large : (ofInt number).isFinite := by
  have short := log2_lt large small
  have ⟨_, bounded⟩ := nearestQuotient_spacing_bounds large
  rw [ofInt_eq_ofMagnitude large small, isFinite, magnitude_ofMagnitude]
  apply decide_eq_true
  simp only [infinityMagnitude, Nat.reducePow, Nat.reduceShiftLeft] at *
  omega

end

theorem isNegative_ofInt_iff (number : Int) :
    (ofInt number).isNegative ↔ (number : ℚ) < 0 := by
  rw [isNegative_ofInt, decide_eq_true_eq, Int.cast_lt_zero]

/-! ## Distances -/

theorem abs_toRat_sub_mul (number : Double) (integer : Int) :
    |number.toRat - integer| * stepsOfOne =
      ((number.signedSteps - integer * stepsOfOne).natAbs : ℚ) := by
  have positive : (0 : ℚ) ≤ stepsOfOne := Nat.cast_nonneg _
  rw [Nat.cast_natAbs, Int.cast_abs]
  push_cast
  rw [← toRat_mul, ← sub_mul, abs_mul, abs_of_nonneg positive]

theorem abs_toRat_sub_le_iff {number other : Double} {integer : Int} :
    |number.toRat - integer| ≤ |other.toRat - integer| ↔
      (number.signedSteps - integer * stepsOfOne).natAbs ≤
        (other.signedSteps - integer * stepsOfOne).natAbs := by
  have positive : (0 : ℚ) < stepsOfOne := Nat.cast_pos.mpr stepsOfOne_pos
  rw [← mul_le_mul_iff_of_pos_right positive, abs_toRat_sub_mul, abs_toRat_sub_mul, Nat.cast_le]

/-- A double is a multiple of a power of two, or smaller than all doubles that are so far apart. -/
theorem steps_multiple_or_lt (number : Double) (exponent : Nat) :
    (∃ factor : Nat, number.steps = factor * 2 ^ exponent) ∨
      number.steps < 2 ^ 52 * 2 ^ exponent := by
  rcases Nat.lt_or_ge (number.exponentField - 1) exponent with small | large
  · right
    calc number.steps
        < 2 ^ 53 * 2 ^ (number.exponentField - 1) := by
          exact Nat.mul_lt_mul_of_pos_right number.significand_lt (Nat.two_pow_pos _)
      _ = 2 ^ 52 * 2 ^ (number.exponentField - 1 + 1) := by ring
      _ ≤ 2 ^ 52 * 2 ^ exponent :=
          Nat.mul_le_mul_left _ (Nat.pow_le_pow_right (by decide) small)
  · left
    refine ⟨number.significand * 2 ^ (number.exponentField - 1 - exponent), ?_⟩
    rw [steps, mul_assoc, ← pow_add, Nat.sub_add_cancel large]

theorem multiple_or_lt {value : Int} {number : Double} (size : value.natAbs = number.steps)
    (exponent : Nat) :
    (∃ factor : Int, value = factor * (2 ^ exponent : Nat)) ∨
      value.natAbs < 2 ^ 52 * 2 ^ exponent := by
  rcases number.steps_multiple_or_lt exponent with ⟨factor, same⟩ | less
  · left
    rcases Int.natAbs_eq value with positive | negative
    · exact ⟨factor, by rw [positive, size, same, Nat.cast_mul]⟩
    · exact ⟨-factor, by rw [negative, size, same, Nat.cast_mul, Int.neg_mul]⟩
  · rw [size]
    exact .inr less

/-- No double of either sign is nearer to a large integer than the multiple it is rounded to. -/
theorem nearestQuotient_spacing_nearest {size : Nat} (large : 2 ^ 53 ≤ size) {other : Double}
    {value : Int} (steps : value.natAbs = other.steps) :
    (nearestQuotient size (spacing size) * (spacing size * stepsOfOne : Nat) -
        (size * stepsOfOne : Nat) : Int).natAbs ≤ (value - (size * stepsOfOne : Nat)).natAbs ∧
      ((nearestQuotient size (spacing size) * (spacing size * stepsOfOne : Nat) -
          (size * stepsOfOne : Nat) : Int).natAbs = (value - (size * stepsOfOne : Nat)).natAbs →
        value ≠ nearestQuotient size (spacing size) * (spacing size * stepsOfOne : Nat) →
          nearestQuotient size (spacing size) % 2 = 0) := by
  have scaled : ∀ factor : Int,
      (factor * (spacing size * stepsOfOne : Nat) - (size * stepsOfOne : Nat)).natAbs =
        (factor * spacing size - size).natAbs * stepsOfOne := by
    intro factor
    rw [← Int.natAbs_natCast stepsOfOne, ← Int.natAbs_mul, Int.natAbs_natCast]
    push_cast
    ring_nf
  have nearest := @nearestQuotient_nearest size (spacing size) (spacing_pos size)
  have onGrid := multiple_or_lt steps (size.log2 + 1022)
  rw [← spacing_mul_stepsOfOne large] at onGrid
  rcases onGrid with ⟨factor, rfl⟩ | less
  · rw [scaled, scaled]
    have ⟨near, even⟩ := nearest factor
    refine ⟨Nat.mul_le_mul_right _ near, ?_⟩
    intro same other
    refine even (Nat.eq_of_mul_eq_mul_right stepsOfOne_pos same) ?_
    rintro rfl
    exact other rfl
  · -- Whatever is smaller is farther away than the least double with the leading bit.
    have leading := Nat.mul_le_mul_right stepsOfOne (leading_mul_spacing_le large)
    have near := Nat.mul_le_mul_right stepsOfOne (nearest (2 ^ 52 : Nat)).1
    rw [← scaled, ← scaled] at near
    rw [mul_assoc] at leading
    rw [← Nat.cast_mul] at near
    omega

section

variable {number : Int} (large : 2 ^ 53 ≤ number.natAbs) (small : number.natAbs < 2 ^ 64)

include large small

theorem signedSteps_ofInt_nearest (other : Double) :
    ((ofInt number).signedSteps - number * stepsOfOne).natAbs ≤
        (other.signedSteps - number * stepsOfOne).natAbs ∧
      (((ofInt number).signedSteps - number * stepsOfOne).natAbs =
          (other.signedSteps - number * stepsOfOne).natAbs →
        other.signedSteps ≠ (ofInt number).signedSteps →
          nearestQuotient number.natAbs (spacing number.natAbs) % 2 = 0) := by
  have steps := (steps_ofInt_of_large large small).1
  rcases lt_or_ge number 0 with negative | positive
  · -- Both distances are those of the numbers with the other sign.
    have rounded : (ofInt number).signedSteps = -((ofInt number).steps : Int) := by
      simp [signedSteps, isNegative_ofInt, negative]
    have whole : number * (stepsOfOne : Int) = -(number.natAbs * stepsOfOne : Nat) := by
      have opposite : (number.natAbs : Int) = -number := by omega
      rw [Nat.cast_mul, opposite, Int.neg_mul, Int.neg_neg]
    have nearest := nearestQuotient_spacing_nearest large
      ((Int.natAbs_neg _).trans other.natAbs_signedSteps)
    rw [rounded, whole, steps, Nat.cast_mul]
    generalize stepsOfOne = unit at *
    omega
  · have rounded : (ofInt number).signedSteps = ((ofInt number).steps : Int) := by
      simp [signedSteps, isNegative_ofInt, positive]
    have whole : number * (stepsOfOne : Int) = (number.natAbs * stepsOfOne : Nat) := by
      rw [Nat.cast_mul, Int.natAbs_of_nonneg positive]
    rw [rounded, whole, steps, Nat.cast_mul]
    exact nearestQuotient_spacing_nearest large other.natAbs_signedSteps

theorem isNearest_ofInt_of_large : (ofInt number).IsNearest number := by
  have even := (steps_ofInt_of_large large small).2
  refine ⟨isFinite_ofInt_of_large large small, isNegative_ofInt_iff number, ?_, ?_⟩
  · intro other _
    exact abs_toRat_sub_le_iff.mpr (signedSteps_ofInt_nearest large small other).1
  · intro other _ same apart
    refine even ((signedSteps_ofInt_nearest large small other).2 ?_ ?_)
    · exact Nat.le_antisymm (abs_toRat_sub_le_iff.mp same.le) (abs_toRat_sub_le_iff.mp same.ge)
    · intro equal
      exact apart (toRat_eq_toRat_iff.mpr equal.symm)

end

/-- An integer of up to sixty-four bits is converted to the double nearest to it. -/
theorem isNearest_ofInt {number : Int} (small : number.natAbs < 2 ^ 64) :
    (ofInt number).IsNearest number := by
  rcases Nat.lt_or_ge number.natAbs (2 ^ 53) with short | large
  · have same := toRat_ofInt (.inl short)
    have bounded : number.natAbs < 1 <<< 54 := Nat.lt_trans short (by decide)
    refine ⟨isFinite_ofInt bounded, isNegative_ofInt_iff number, ?_, ?_⟩
    · intro other _
      rw [same, sub_self, abs_zero]
      exact abs_nonneg _
    · intro other _ near apart
      rw [same, sub_self, abs_zero] at near
      rw [same] at apart
      exact absurd (sub_eq_zero.mp (abs_eq_zero.mp near.symm)) (Ne.symm apart)
  · exact isNearest_ofInt_of_large large small

/-! ## Uniqueness -/

theorem toRat_le_iff_rank {left right : Double} :
    left.toRat ≤ right.toRat ↔ left.rank ≤ right.rank :=
  toRat_le_toRat_iff.trans rank_le_rank_iff.symm

theorem eq_of_toRat_eq {left right : Double} (sign : left.isNegative = right.isNegative)
    (same : left.toRat = right.toRat) : left = right := by
  have steps : left.steps = right.steps := by
    rw [← natAbs_signedSteps, ← natAbs_signedSteps, toRat_eq_toRat_iff.mp same]
  have magnitude : left.magnitude = right.magnitude :=
    Nat.le_antisymm (steps_le_steps_iff.mp steps.le) (steps_le_steps_iff.mp steps.ge)
  rw [← left.ofMagnitude_magnitude, ← right.ofMagnitude_magnitude, sign, magnitude]

theorem rank_mod_two (number : Double) : number.rank % 2 = (number.significand % 2 : Nat) := by
  have parts := number.magnitude_eq
  unfold rank
  split
  · omega
  · omega

theorem isFinite_iff_natAbs_rank_lt (number : Double) :
    number.isFinite ↔ number.rank.natAbs < infinityMagnitude := by
  have size : number.rank.natAbs = number.magnitude := by
    unfold rank
    split
    · rw [Int.natAbs_neg, Int.natAbs_natCast]
    · rw [Int.natAbs_natCast]
  rw [isFinite, size, decide_eq_true_eq]

theorem exists_rank {rank : Int} (small : rank.natAbs < infinityMagnitude) :
    ∃ number : Double, number.rank = rank := by
  refine ⟨ofMagnitude (decide (rank < 0)) rank.natAbs, ?_⟩
  rw [Double.rank, isNegative_ofMagnitude, magnitude_ofMagnitude,
    Nat.mod_eq_of_lt (Nat.lt_trans small (by decide))]
  simp only [decide_eq_true_eq]
  split
  · omega
  · omega

/-- Between two finite doubles whose ranks are not next to each other there is another one. -/
theorem exists_between {left right : Double} (leftFinite : left.isFinite)
    (rightFinite : right.isFinite) (apart : left.rank + 1 < right.rank) :
    ∃ between : Double, between.isFinite ∧ left.toRat < between.toRat ∧
      between.toRat < right.toRat := by
  rw [isFinite_iff_natAbs_rank_lt] at leftFinite rightFinite
  have small : (left.rank + 1).natAbs < infinityMagnitude := by omega
  rcases exists_rank small with ⟨between, next⟩
  refine ⟨between, ?_, ?_, ?_⟩
  · rwa [isFinite_iff_natAbs_rank_lt, next]
  · rw [← not_le, toRat_le_iff_rank, next]
    omega
  · rw [← not_le, toRat_le_iff_rank, next]
    omega

theorem IsNearest.not_below {left right : Double} {value : ℚ} (leftNearest : left.IsNearest value)
    (rightNearest : right.IsNearest value) : ¬left.toRat < right.toRat := by
  intro less
  have same : |left.toRat - value| = |right.toRat - value| :=
    le_antisymm (leftNearest.near right rightNearest.finite)
      (rightNearest.near left leftNearest.finite)
  have leftEven := leftNearest.even right rightNearest.finite same less.ne
  have rightEven := rightNearest.even left leftNearest.finite same.symm less.ne'
  -- Two even significands are not next to each other, and what is between them is nearer.
  have apart : left.rank + 1 < right.rank := by
    have leftParity := left.rank_mod_two
    have rightParity := right.rank_mod_two
    rw [← not_le, toRat_le_iff_rank] at less
    omega
  rcases exists_between leftNearest.finite rightNearest.finite apart with
    ⟨between, finite, above, below⟩
  have near := leftNearest.near between finite
  have middle : left.toRat - value = -(right.toRat - value) := by
    rcases abs_eq_abs.mp same with equal | opposite
    · linarith
    · exact opposite
  have nearer : |between.toRat - value| < |left.toRat - value| := by
    rw [abs_of_neg (by linarith : left.toRat - value < 0), abs_lt]
    exact ⟨by linarith, by linarith⟩
  exact absurd near (not_le.mpr nearer)

/-- There is one nearest double. -/
theorem IsNearest.unique {left right : Double} {value : ℚ} (leftNearest : left.IsNearest value)
    (rightNearest : right.IsNearest value) : left = right := by
  apply eq_of_toRat_eq
  · rw [Bool.eq_iff_iff, leftNearest.sign, rightNearest.sign]
  · exact le_antisymm (not_lt.mp (rightNearest.not_below leftNearest))
      (not_lt.mp (leftNearest.not_below rightNearest))

theorem isNearest_iff {number : Double} {integer : Int} (small : integer.natAbs < 2 ^ 64) :
    number.IsNearest integer ↔ number = ofInt integer := by
  constructor
  · intro nearest
    exact nearest.unique (isNearest_ofInt small)
  · rintro rfl
    exact isNearest_ofInt small

/-- The middle between two doubles goes down to the even one and up to the even one. -/
example : ofInt (2 ^ 53 + 1) = ofInt (2 ^ 53) ∧ ofInt (2 ^ 53 + 3) = ofInt (2 ^ 53 + 4) := by
  decide +kernel

end Targeting.Double
