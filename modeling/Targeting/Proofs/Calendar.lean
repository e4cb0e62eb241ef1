import Targeting.Pattern.Standard
import Targeting.Proofs.Compilation
import Targeting.Proofs.Magnitude

/-!
# Days and minutes

Timestamps are compared as doubles, after both sides have been truncated by separate rules: the
definition when it is brought to normal form, and the attribute when it is brought to the type of
the matcher. What comes out is a comparison of calendar units. Two timestamps are equal if they are
on the same day, and one is before another if it is in an earlier minute, on either side of 1970.

A truncated timestamp may lie below the integers that are all doubles. It is still exact, because it
is a multiple of its unit, and the units are even.
-/

namespace Targeting

namespace Timestamp

/-- A double that stands for an integral number of milliseconds, in the range in which every integer
is a double of its own. -/
structure Counts (millis : Double) (time : Int) : Prop where
  finite : millis.isFinite
  toRat_eq : millis.toRat = time
  small : time.natAbs ≤ 2 ^ 53 - 1

variable {millis other : Double} {time otherTime unit : Int}

theorem counts_ofInt (small : time.natAbs ≤ 2 ^ 53 - 1) : Counts (.ofInt time) time := by
  simp only [Nat.reducePow, Nat.reduceSub] at small
  refine ⟨?_, ?_, small⟩
  · apply Double.isFinite_ofInt
    simp only [Nat.reduceShiftLeft]
    omega
  · apply Double.toRat_ofInt
    left
    simp only [Nat.reducePow]
    omega

theorem steps_exactLimit : exactLimit.steps = (2 ^ 53 - 1) * Double.stepsOfOne := by
  have field : exactLimit.exponentField - 1 = 1074 := by decide
  have significand : exactLimit.significand = 2 ^ 53 - 1 := by decide
  rw [Double.steps, field, significand, Double.stepsOfOne]

theorem Counts.isExact (counts : Counts millis time) : Timestamp.isExact millis := by
  rw [Timestamp.isExact, decide_eq_true_eq, ← Double.steps_le_steps_iff, steps_exactLimit,
    Double.steps_of_toRat counts.toRat_eq]
  exact Nat.mul_le_mul_right _ counts.small

/-- A unit that timestamps are truncated to: even, and far smaller than the largest of them. -/
structure IsUnit (unit : Int) : Prop where
  positive : 0 < unit
  even : unit % 2 = 0
  small : unit ≤ 2 ^ 53

theorem isUnit_day : IsUnit day := ⟨by decide, by decide, by decide⟩

theorem isUnit_minute : IsUnit minute := ⟨by decide, by decide, by decide⟩

theorem Counts.truncate_eq (counts : Counts millis time) (unit : Int) :
    truncate unit millis = .ofInt (unit * (time / unit)) := by
  have rounded : time - time % unit = unit * (time / unit) := by
    have parts := Int.mul_ediv_add_emod time unit
    omega
  simp only [truncate, if_pos counts.isExact, Double.truncated_of_toRat counts.toRat_eq, rounded]

/-- A multiple of a unit is even, so that one bit more than usual is exact. -/
theorem fitsSignificand_truncate (isUnit : IsUnit unit) (small : time.natAbs ≤ 2 ^ 53 - 1) :
    Double.FitsSignificand (unit * (time / unit)).natAbs := by
  have parts := Int.mul_ediv_add_emod time unit
  have low := Int.emod_nonneg time (Int.ne_of_gt isUnit.positive)
  have high := Int.emod_lt_of_pos time isUnit.positive
  have even : unit * (time / unit) % 2 = 0 := by
    rw [Int.mul_emod, isUnit.even, Int.zero_mul, Int.zero_emod]
  have bound := isUnit.small
  unfold Double.FitsSignificand
  simp only [Int.reducePow, Nat.reducePow, Nat.reduceSub] at bound small ⊢
  generalize unit * (time / unit) = multiple at *
  omega

theorem Counts.toRat_truncate (counts : Counts millis time) (isUnit : IsUnit unit) :
    (truncate unit millis).toRat = (unit * (time / unit) : Int) := by
  rw [counts.truncate_eq unit, Double.toRat_ofInt (fitsSignificand_truncate isUnit counts.small)]

theorem Counts.isFinite_truncate (counts : Counts millis time) (isUnit : IsUnit unit) :
    (truncate unit millis).isFinite := by
  rw [counts.truncate_eq unit]
  exact Double.isFinite_ofInt (fitsSignificand_truncate isUnit counts.small).lt

theorem Counts.truncate_le_iff (counts : Counts millis time) (otherCounts : Counts other otherTime)
    (isUnit : IsUnit unit) :
    (truncate unit millis).le (truncate unit other) = true ↔ time / unit ≤ otherTime / unit := by
  rw [Double.le_iff (counts.isFinite_truncate isUnit) (otherCounts.isFinite_truncate isUnit),
    counts.toRat_truncate isUnit, otherCounts.toRat_truncate isUnit, Int.cast_le]
  exact mul_le_mul_iff_of_pos_left isUnit.positive

theorem Counts.truncate_eq_iff (counts : Counts millis time) (otherCounts : Counts other otherTime)
    (isUnit : IsUnit unit) :
    (truncate unit millis).eq (truncate unit other) = true ↔ time / unit = otherTime / unit := by
  rw [Double.eq_iff (counts.isFinite_truncate isUnit) (otherCounts.isFinite_truncate isUnit),
    counts.toRat_truncate isUnit, otherCounts.toRat_truncate isUnit, Int.cast_inj]
  exact mul_right_inj' (Int.ne_of_gt isUnit.positive)

end Timestamp

/-- A definition that compares timestamps asks something of a time in whole days or minutes. Integer
division rounds down, so that the units before 1970 are counted like the later ones. -/
inductive MatcherDefinition.AsksTime (definition : MatcherDefinition) : (Int → Prop) → Prop where
  /-- The same day. -/
  | equalTo {bound : Double} {date : Int} (kind : definition.kindName = "EQUAL_TO")
      (payload : definition.number = some ⟨.datetime, bound⟩)
      (counts : Timestamp.Counts bound date) :
      AsksTime definition fun time => time / 86400000 = date / 86400000
  /-- No earlier minute. -/
  | greaterThanOrEqualTo {bound : Double} {date : Int}
      (kind : definition.kindName = "GREATER_THAN_OR_EQUAL_TO")
      (payload : definition.number = some ⟨.datetime, bound⟩)
      (counts : Timestamp.Counts bound date) :
      AsksTime definition fun time => time / 60000 ≥ date / 60000
  /-- No later minute. -/
  | lessThanOrEqualTo {bound : Double} {date : Int}
      (kind : definition.kindName = "LESS_THAN_OR_EQUAL_TO")
      (payload : definition.number = some ⟨.datetime, bound⟩)
      (counts : Timestamp.Counts bound date) :
      AsksTime definition fun time => time / 60000 ≤ date / 60000
  /-- A minute from one to another, both included. -/
  | between {start finish : Double} {first last : Int} (kind : definition.kindName = "BETWEEN")
      (payload : definition.numberRange = some ⟨.datetime, start, finish⟩)
      (startCounts : Timestamp.Counts start first)
      (finishCounts : Timestamp.Counts finish last) :
      AsksTime definition fun time =>
        first / 60000 ≤ time / 60000 ∧ time / 60000 ≤ last / 60000

/-- A number is never looked up anywhere. -/
theorem Predicate.holds_number (predicate : Predicate) (value : Double)
    (surroundings : Surroundings) :
    predicate.holds (.number value) surroundings =
      .ready (.ok (predicate.holdsAlone (.number value))) := by
  cases predicate <;> rfl

namespace Matcher

/-- A definition has a predicate, a key and attributes have a value for it, and the predicate is
true of the value exactly if something else is the case. -/
def Reports [PatternLanguage] (definition : MatcherDefinition) (key : Key) (attributes : Attributes)
    (fact : Prop) : Prop :=
  ∃ matcher predicate value,
    ofDefinition definition = .ok matcher ∧
      Predicate.ofMatcher matcher = .ok predicate ∧
      matcher.value? key attributes = some value ∧
      ∃ held, (∀ surroundings, predicate.holds value surroundings = .ready (.ok held)) ∧
        (held = true ↔ fact)

theorem payload_of_number (definition : MatcherDefinition) {kind : MatcherKind} {bound : Double}
    (unary : kind = .equalTo ∨ kind = .greaterThanOrEqualTo ∨ kind = .lessThanOrEqualTo)
    (payload : definition.number = some ⟨.datetime, bound⟩) :
    Matcher.payload definition kind = .ok (.number (truncate kind bound), .datetime) := by
  rcases unary with rfl | rfl | rfl
  all_goals
    simp only [Matcher.payload, payload]
    rfl

section

variable [PatternLanguage]

variable {definition : MatcherDefinition} {name : String} {attributes : Attributes}
  {millis : Double} {time : Int}

/-- A predicate on timestamps sees the attribute truncated as its kind wants. -/
theorem reports_of_holdsAlone (kind : MatcherKind) (predicate : Predicate) {operand : Operand}
    {fact : Prop} (known : definition.kindName = kind.name)
    (compares : payload definition kind = .ok (operand, .datetime))
    (prepares : Predicate.ofMatcher
      ⟨kind, operand, some name, definition.negate, .datetime⟩ = .ok predicate)
    (selects : definition.keySelector.bind (·.attribute?) = some name)
    (supplied : attributes.lookup name = some (.number millis)) (finite : millis.isFinite)
    (agrees : predicate.holdsAlone (.number (truncate kind millis)) = true ↔ fact) (key : Key) :
    Reports definition key attributes fact := by
  have found : MatcherKind.ofName? definition.kindName = some kind := by
    rw [known, MatcherKind.ofName?_name]
  have normalizes : ofDefinition definition =
      .ok ⟨kind, operand, some name, definition.negate, .datetime⟩ :=
    ofDefinition_eq_ok_iff.mpr ⟨found, compares, selects.symm, rfl⟩
  have number : Attribute.toNumber? (.number millis) = some millis := by
    simp [Attribute.toNumber?, Option.filter, finite]
  have selected : value? ⟨kind, operand, some name, definition.negate, .datetime⟩ key attributes =
      some (.number (truncate kind millis)) := by
    simp [value?, supplied, MatchValue.ofAttribute?, number, MatchValue.truncateFor]
  exact ⟨_, predicate, _, normalizes, prepares, selected, _, predicate.holds_number _, agrees⟩

/-- Timestamps are compared by calendar unit. What a definition asks of a time in whole days or
minutes is what its predicate, applied to the truncated attribute, is true of. -/
theorem timestamps_compare_by_unit {asks : Int → Prop} (asksTime : definition.AsksTime asks)
    (selects : definition.keySelector.bind (·.attribute?) = some name)
    (supplied : attributes.lookup name = some (.number millis))
    (counts : Timestamp.Counts millis time) (key : Key) :
    Reports definition key attributes (asks time) := by
  cases asksTime with
  | @equalTo bound _ known payload boundCounts =>
      exact reports_of_holdsAlone .equalTo (.equalTo (truncate .equalTo bound)) known
        (payload_of_number definition (by decide) payload) rfl selects supplied counts.finite
        (counts.truncate_eq_iff boundCounts Timestamp.isUnit_day) key
  | @greaterThanOrEqualTo bound _ known payload boundCounts =>
      exact reports_of_holdsAlone .greaterThanOrEqualTo
        (.greaterThanOrEqualTo (truncate .greaterThanOrEqualTo bound)) known
        (payload_of_number definition (by decide) payload) rfl selects supplied counts.finite
        (boundCounts.truncate_le_iff counts Timestamp.isUnit_minute) key
  | @lessThanOrEqualTo bound _ known payload boundCounts =>
      exact reports_of_holdsAlone .lessThanOrEqualTo
        (.lessThanOrEqualTo (truncate .lessThanOrEqualTo bound)) known
        (payload_of_number definition (by decide) payload) rfl selects supplied counts.finite
        (counts.truncate_le_iff boundCounts Timestamp.isUnit_minute) key
  | @between start finish first last known payload startCounts finishCounts =>
      have compares : Matcher.payload definition .between =
          .ok (.range (truncate .between start) (truncate .between finish), .datetime) := by
        simp only [Matcher.payload, payload]
        rfl
      have within : Predicate.holdsAlone
            (.between (truncate .between start) (truncate .between finish))
            (.number (truncate .between millis)) = true ↔
          first / 60000 ≤ time / 60000 ∧ time / 60000 ≤ last / 60000 := by
        rw [Predicate.holdsAlone, Bool.and_eq_true]
        exact and_congr (startCounts.truncate_le_iff counts Timestamp.isUnit_minute)
          (counts.truncate_le_iff finishCounts Timestamp.isUnit_minute)
      exact reports_of_holdsAlone .between _ known compares rfl selects supplied counts.finite
        within key

end

/-- A matcher for the earliest day that timestamps are truncated to. The day starts before the range
in which every integer is a double. -/
def earliestDay : MatcherDefinition where
  kindName := "EQUAL_TO"
  keySelector := some ⟨none, some "seen"⟩
  number := some ⟨.datetime, .ofInt (-9007199222400001)⟩

theorem timestamps_compare_by_unit_earliestDay :
    earliestDay.AsksTime (fun time => time / 86400000 = -9007199222400001 / 86400000) ∧
      Timestamp.Counts (.ofInt (-9007199254740991)) (-9007199254740991) ∧
      Reports earliestDay (.ofMatching "alice")
        [("seen", .number (.ofInt (-9007199254740991)))]
        ((-9007199254740991 : Int) / 86400000 = -9007199222400001 / 86400000) ∧
      (-9007199254740991 : Int) / 86400000 = -9007199222400001 / 86400000 := by
  have asks : earliestDay.AsksTime fun time => time / 86400000 = -9007199222400001 / 86400000 :=
    .equalTo rfl rfl (Timestamp.counts_ofInt (by decide))
  have counts : Timestamp.Counts (.ofInt (-9007199254740991)) (-9007199254740991) :=
    Timestamp.counts_ofInt (by decide)
  exact ⟨asks, counts, timestamps_compare_by_unit asks rfl rfl counts _, by decide⟩

end Matcher

end Targeting
