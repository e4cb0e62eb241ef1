import Mathlib.Data.Rat.Floor
import Targeting.Proofs.Calendar

/-!
# Starts of units

A timestamp may have a fraction. It is truncated in two steps that round in directions of their own:
the fraction is cut off towards zero, and the integer that is left is rounded down to the start of
its unit. After 1970 both directions are down. Before 1970 the first step goes up, which makes no
difference as long as it stays in the unit. In the last millisecond of a unit it reaches the start
of the next one.
-/

namespace Targeting

namespace Double

variable {number left right : Double}

theorem toRat_eq_div (number : Double) : number.toRat = number.signedSteps / stepsOfOne := by
  have positive : (stepsOfOne : ℚ) ≠ 0 := Nat.cast_ne_zero.mpr (Nat.ne_of_gt stepsOfOne_pos)
  rw [eq_div_iff positive, toRat_mul]

theorem abs_toRat_le_iff {bound : Nat} :
    |number.toRat| ≤ bound ↔ number.steps ≤ bound * stepsOfOne := by
  have positive : (0 : ℚ) < stepsOfOne := Nat.cast_pos.mpr stepsOfOne_pos
  have size : |(number.signedSteps : ℚ)| = number.steps := by
    rw [← Int.cast_abs, Int.abs_eq_natAbs, natAbs_signedSteps, Int.cast_natCast]
  rw [toRat_eq_div, abs_div, size, Nat.abs_cast, div_le_iff₀ positive]
  exact_mod_cast Iff.rfl

theorem truncated_eq_ite (number : Double) :
    number.truncated = if number.isNegative then ⌈number.toRat⌉ else ⌊number.toRat⌋ := by
  have whole : ⌊(number.steps : ℚ) / stepsOfOne⌋ = (number.steps / stepsOfOne : Nat) := by
    rw [Rat.floor_natCast_div_natCast]
    rfl
  simp only [truncated, whole_eq, toRat_eq_div, signedSteps]
  split
  · rw [Int.cast_neg, neg_div, Int.ceil_neg, Int.cast_natCast, whole]
  · rw [Int.cast_natCast, whole]

/-- Above zero the fraction is cut off downwards. -/
theorem truncated_eq_floor (nonnegative : 0 ≤ number.toRat) :
    number.truncated = ⌊number.toRat⌋ := by
  rw [truncated_eq_ite]
  split
  · next negative =>
      have zero : number.toRat = 0 := by
        apply le_antisymm _ nonnegative
        rw [toRat, if_pos negative]
        have positive : (0 : ℚ) ≤ number.significand * 2 ^ number.scale := by positivity
        linarith
      simp [zero]
  · rfl

/-- Below zero the fraction is cut off upwards. -/
theorem truncated_eq_ceil (nonpositive : number.toRat ≤ 0) :
    number.truncated = ⌈number.toRat⌉ := by
  rw [truncated_eq_ite]
  split
  · rfl
  · next positive =>
      have zero : number.toRat = 0 := by
        apply le_antisymm nonpositive
        rw [toRat, if_neg positive]
        positivity
      simp [zero]

theorem truncated_mono (inOrder : left.toRat ≤ right.toRat) :
    left.truncated ≤ right.truncated := by
  rcases le_total 0 left.toRat with leftPositive | leftNegative
  · rw [truncated_eq_floor leftPositive, truncated_eq_floor (leftPositive.trans inOrder)]
    exact Int.floor_le_floor inOrder
  · rcases le_total 0 right.toRat with rightPositive | rightNegative
    · rw [truncated_eq_ceil leftNegative, truncated_eq_floor rightPositive]
      have below : ⌈left.toRat⌉ ≤ 0 := Int.ceil_le.mpr (by simpa using leftNegative)
      exact below.trans (Int.floor_nonneg.mpr rightPositive)
    · rw [truncated_eq_ceil leftNegative, truncated_eq_ceil rightNegative]
      exact Int.ceil_le_ceil inOrder

end Double

namespace Timestamp

variable {millis : Double} {unit : Int}

/-- The limit is an integer, so that it makes no difference whether numbers or their bits are
compared with it. -/
theorem isExact_iff : isExact millis = true ↔ |millis.toRat| ≤ 2 ^ 53 - 1 := by
  have bound : (2 : ℚ) ^ 53 - 1 = (2 ^ 53 - 1 : Nat) := by norm_num
  rw [bound, Double.abs_toRat_le_iff, isExact, decide_eq_true_eq, ← Double.steps_le_steps_iff,
    steps_exactLimit]

theorem natAbs_truncated_le (exact : isExact millis) : millis.truncated.natAbs ≤ 2 ^ 53 - 1 := by
  have below := natAbs_truncated_lt exact
  simp only [Nat.reduceShiftLeft] at below
  omega

theorem truncate_eq (exact : isExact millis) (unit : Int) :
    truncate unit millis = .ofInt (unit * (millis.truncated / unit)) := by
  have rounded : millis.truncated - millis.truncated % unit = unit * (millis.truncated / unit) := by
    have parts := Int.mul_ediv_add_emod millis.truncated unit
    omega
  simp only [truncate, if_pos exact, rounded]

theorem truncate_of_not_exact (large : ¬isExact millis) : truncate unit millis = millis := by
  simp only [truncate, if_neg large]

theorem toRat_truncate (isUnit : IsUnit unit) (exact : isExact millis) :
    (truncate unit millis).toRat = (unit * (millis.truncated / unit) : Int) := by
  rw [truncate_eq exact,
    Double.toRat_ofInt (fitsSignificand_truncate isUnit (natAbs_truncated_le exact))]

/-- What has been truncated stays as it is, also where it lies too far out to be truncated again. -/
theorem truncate_truncate (isUnit : IsUnit unit) (millis : Double) :
    truncate unit (truncate unit millis) = truncate unit millis := by
  by_cases exact : isExact millis
  · by_cases again : isExact (truncate unit millis)
    · have whole := Double.truncated_of_toRat (toRat_truncate isUnit exact)
      rw [truncate_eq again, whole, Int.mul_ediv_cancel_left _ (Int.ne_of_gt isUnit.positive),
        ← truncate_eq exact]
    · exact truncate_of_not_exact again
  · simp only [truncate_of_not_exact exact]

/-- A moment in the last millisecond of a unit that ends by 1970. Its fraction is cut off onto the
start of the next unit. -/
structure InLastMillisecond (unit : Int) (millis : Double) (next : Int) : Prop where
  isStart : next % unit = 0
  early : next ≤ 0
  last : (next : ℚ) - 1 < millis.toRat
  before : millis.toRat < next

theorem InLastMillisecond.truncated_eq {next : Int} (last : InLastMillisecond unit millis next) :
    millis.truncated = next := by
  have early : (next : ℚ) ≤ 0 := by exact_mod_cast last.early
  rw [Double.truncated_eq_ceil (last.before.le.trans early)]
  exact Int.ceil_eq_iff.mpr ⟨last.last, last.before.le⟩

/-- A timestamp comes before the end of the millisecond that it is cut off to. -/
theorem toRat_lt_truncated_add_one (millis : Double) :
    millis.toRat < (millis.truncated : ℚ) + 1 := by
  rcases le_total 0 millis.toRat with nonnegative | nonpositive
  · rw [Double.truncated_eq_floor nonnegative]
    exact Int.lt_floor_add_one _
  · rw [Double.truncated_eq_ceil nonpositive]
    have below := Int.le_ceil millis.toRat
    linarith

/-- A timestamp comes at most a millisecond before the one that it is cut off to. -/
theorem truncated_sub_one_lt (millis : Double) : (millis.truncated : ℚ) - 1 < millis.toRat := by
  rcases le_total 0 millis.toRat with nonnegative | nonpositive
  · rw [Double.truncated_eq_floor nonnegative]
    have below := Int.floor_le millis.toRat
    linarith
  · rw [Double.truncated_eq_ceil nonpositive]
    have near := Int.ceil_lt_add_one millis.toRat
    linarith

/-- A timestamp that is cut off onto the start of a unit either comes after it or is in the last
millisecond before it. -/
theorem truncated_le_or_inLastMillisecond (isStart : millis.truncated % unit = 0) :
    (millis.truncated : ℚ) ≤ millis.toRat ∨ InLastMillisecond unit millis millis.truncated := by
  rcases le_or_gt (millis.truncated : ℚ) millis.toRat with after | before
  · exact .inl after
  · right
    have negative : millis.toRat ≤ 0 := by
      by_contra positive
      rw [Double.truncated_eq_floor (not_le.mp positive).le] at before
      exact absurd (Int.floor_le millis.toRat) (not_le.mpr before)
    refine ⟨isStart, ?_, truncated_sub_one_lt millis, before⟩
    rw [Double.truncated_eq_ceil negative]
    exact Int.ceil_le.mpr (by simpa using negative)

/-- A timestamp is truncated to a start of a unit, and no further by doing so again. The start is
that of the unit in which the timestamp lies. Only in the last millisecond of a unit before 1970 it
is that of the next one. -/
theorem truncate_rounds_down_unless_last_millisecond (isUnit : IsUnit unit)
    (small : |millis.toRat| ≤ 2 ^ 53 - 1) :
    (truncate unit millis).isFinite ∧
      (∃ count : Int, (truncate unit millis).toRat = unit * count) ∧
      truncate unit (truncate unit millis) = truncate unit millis ∧
      ((¬∃ next, InLastMillisecond unit millis next) →
        (truncate unit millis).toRat ≤ millis.toRat ∧
          millis.toRat < (truncate unit millis).toRat + unit) ∧
      ∀ next, InLastMillisecond unit millis next → (truncate unit millis).toRat = next := by
  have exact : isExact millis := isExact_iff.mpr small
  have value := toRat_truncate isUnit exact
  have parts := Int.mul_ediv_add_emod millis.truncated unit
  have low := Int.emod_nonneg millis.truncated (Int.ne_of_gt isUnit.positive)
  have high := Int.emod_lt_of_pos millis.truncated isUnit.positive
  refine ⟨?_, ⟨millis.truncated / unit, ?_⟩, truncate_truncate isUnit millis, ?_, ?_⟩
  · rw [truncate_eq exact]
    exact Double.isFinite_ofInt (fitsSignificand_truncate isUnit (natAbs_truncated_le exact)).lt
  · rw [value, Int.cast_mul]
  · intro notLast
    rw [value]
    constructor
    · rcases eq_or_ne (millis.truncated % unit) 0 with isStart | inside
      · rcases truncated_le_or_inLastMillisecond isStart with after | last
        · rw [isStart, add_zero] at parts
          rwa [parts]
        · exact absurd ⟨_, last⟩ notLast
      · have earlier : unit * (millis.truncated / unit) ≤ millis.truncated - 1 := by omega
        calc ((unit * (millis.truncated / unit) : Int) : ℚ)
            ≤ (millis.truncated - 1 : Int) := Int.cast_le.mpr earlier
          _ = millis.truncated - 1 := by push_cast; rfl
          _ ≤ millis.toRat := (truncated_sub_one_lt millis).le
    · have later : millis.truncated + 1 ≤ unit * (millis.truncated / unit) + unit := by omega
      calc millis.toRat
          < (millis.truncated : ℚ) + 1 := toRat_lt_truncated_add_one millis
        _ = (millis.truncated + 1 : Int) := by push_cast; rfl
        _ ≤ (unit * (millis.truncated / unit) + unit : Int) := Int.cast_le.mpr later
        _ = _ := by push_cast; rfl
  · intro next last
    rw [last.truncated_eq] at value parts
    rw [last.isStart, add_zero] at parts
    rw [value, parts]

/-- The earliest minute that timestamps are truncated to starts where they are not truncated. -/
theorem truncate_rounds_down_unless_last_millisecond_lowestMinute :
    IsUnit minute ∧ |(Double.ofInt (-9007199254740991)).toRat| ≤ 2 ^ 53 - 1 ∧
      (truncate minute (.ofInt (-9007199254740991))).toRat = minute * (-150119987580 : Int) ∧
      ¬isExact (truncate minute (.ofInt (-9007199254740991))) ∧
      truncate minute (truncate minute (.ofInt (-9007199254740991))) =
        truncate minute (.ofInt (-9007199254740991)) ∧
      (truncate minute (.ofInt (-9007199254740991))).toRat ≤
        (Double.ofInt (-9007199254740991)).toRat := by
  have counts : Counts (.ofInt (-9007199254740991)) (-9007199254740991) := counts_ofInt (by decide)
  have small := isExact_iff.mp counts.isExact
  rcases truncate_rounds_down_unless_last_millisecond isUnit_minute small with
    ⟨_, _, again, down, _⟩
  refine ⟨isUnit_minute, small, ?_, by decide +kernel, again, (down ?_).1⟩
  · rw [counts.toRat_truncate isUnit_minute, minute]
    norm_num
  · rintro ⟨next, last⟩
    have lastMillisecond := last.last
    have before := last.before
    rw [counts.toRat_eq] at lastMillisecond before
    norm_cast at lastMillisecond before
    omega

/-- Half a millisecond before 1970. -/
def halfBefore : Double := ⟨0xBFE0000000000000⟩

theorem toRat_halfBefore : halfBefore.toRat = -1 / 2 := by
  have negative : halfBefore.isNegative := by decide
  have significand : halfBefore.significand = 2 ^ 52 := by decide
  have scale : halfBefore.scale = -53 := by decide
  rw [Double.toRat, if_pos negative, significand, scale]
  norm_num

/-- A moment of the last day before 1970 is truncated to the day after it. -/
theorem truncated_upwards :
    halfBefore.isFinite ∧ |halfBefore.toRat| ≤ 2 ^ 53 - 1 ∧
      halfBefore.toRat < (truncate day halfBefore).toRat := by
  have exact : isExact halfBefore := by decide
  refine ⟨by decide, isExact_iff.mp exact, ?_⟩
  have onto : halfBefore.truncated = 0 := by decide
  rw [toRat_truncate isUnit_day exact, onto, toRat_halfBefore]
  norm_num

end Timestamp

end Targeting
