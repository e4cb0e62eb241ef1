import Targeting.Proofs.Comparison
import Targeting.Proofs.Decision
import Targeting.Proofs.UnitStart

/-!
# The order of timestamps

Truncation keeps the order of timestamps, and therefore does a matcher that asks for timestamps on
one side of a bound: what holds of one timestamp holds of every other that is further on that side.
There is one exception. Timestamps are truncated from a limit on, and the limit cuts a unit in two.
What lies in the later part of that unit is truncated to its start, and so comes before what lies in
the earlier part, where timestamps are taken as they are.
-/

namespace Targeting

namespace Timestamp

variable {unit : Int} {earlier later millis : Double}

/-- Two timestamps in the unit that the limit of truncation cuts in two, one on either side of the
limit, the earlier one being past the start of the unit. -/
structure CutApart (unit : Int) (earlier later : Double) (start : Int) : Prop where
  isStart : start % unit = 0
  pastStart : (start : ℚ) < earlier.toRat
  kept : earlier.toRat < -(2 ^ 53 - 1)
  truncated : -(2 ^ 53 - 1) ≤ later.toRat
  sameUnit : later.toRat ≤ start + unit - 1

variable {start : Int}

theorem start_le_of_lt (pastStart : (start : ℚ) < earlier.toRat)
    (kept : earlier.toRat < -(2 ^ 53 - 1)) : start ≤ -2 ^ 53 := by
  have below : (start : ℚ) < (-(2 ^ 53 - 1) : Int) := by
    apply pastStart.trans
    exact_mod_cast kept
  have smaller := Int.cast_lt.mp below
  omega

namespace CutApart

theorem end_nonpos (isUnit : IsUnit unit) (cut : CutApart unit earlier later start) :
    start + unit ≤ 0 := by
  have low := start_le_of_lt cut.pastStart cut.kept
  have short := isUnit.small
  omega

theorem not_isExact (cut : CutApart unit earlier later start) : ¬isExact earlier := by
  intro exact
  exact absurd (abs_le.mp (isExact_iff.mp exact)).1 (not_le.mpr cut.kept)

theorem isExact (isUnit : IsUnit unit) (cut : CutApart unit earlier later start) :
    isExact later := by
  have past : ((start + unit : Int) : ℚ) ≤ 0 := by exact_mod_cast cut.end_nonpos isUnit
  have sameUnit := cut.sameUnit
  push_cast at past
  apply isExact_iff.mpr
  apply abs_le.mpr
  exact ⟨cut.truncated, by linarith⟩

/-- The later timestamp is truncated to the start of the unit. -/
theorem toRat_truncate (isUnit : IsUnit unit) (cut : CutApart unit earlier later start) :
    (truncate unit later).toRat = start := by
  have exact := cut.isExact isUnit
  have past := cut.end_nonpos isUnit
  have below := start_le_of_lt cut.pastStart cut.kept
  have small := natAbs_truncated_le exact
  have within : later.truncated ≤ start + unit - 1 := by
    have bound : later.toRat ≤ (start + unit - 1 : Int) := by
      push_cast
      exact cut.sameUnit
    have nonpositive : later.toRat ≤ 0 := bound.trans (by exact_mod_cast (by omega))
    rw [Double.truncated_eq_ceil nonpositive]
    exact Int.ceil_le.mpr bound
  have startParts := Int.mul_ediv_add_emod start unit
  rw [cut.isStart, add_zero] at startParts
  have quotient : later.truncated / unit = start / unit := by
    apply And.left
    apply (Int.ediv_emod_unique isUnit.positive (r := later.truncated - start)).mpr
    omega
  rw [Timestamp.toRat_truncate isUnit exact, quotient, startParts]

end CutApart

theorem toRat_truncate_le_truncated (isUnit : IsUnit unit) (exact : isExact millis) :
    (truncate unit millis).toRat ≤ millis.truncated := by
  have low := Int.emod_nonneg millis.truncated (Int.ne_of_gt isUnit.positive)
  have parts := Int.mul_ediv_add_emod millis.truncated unit
  rw [toRat_truncate isUnit exact]
  exact Int.cast_le.mpr (by omega)

theorem abs_truncated_le (exact : isExact millis) : |(millis.truncated : ℚ)| ≤ 2 ^ 53 - 1 := by
  have small := natAbs_truncated_le exact
  have size : (millis.truncated.natAbs : ℚ) ≤ (2 ^ 53 - 1 : Nat) := by exact_mod_cast small
  rw [Nat.cast_natAbs, Int.cast_abs] at size
  exact size.trans (by norm_num)

theorem truncate_le_truncate_of_exact (isUnit : IsUnit unit) (earlierExact : isExact earlier)
    (laterExact : isExact later) (inOrder : earlier.toRat ≤ later.toRat) :
    (truncate unit earlier).toRat ≤ (truncate unit later).toRat := by
  have whole := Double.truncated_mono inOrder
  rw [toRat_truncate isUnit earlierExact, toRat_truncate isUnit laterExact, Int.cast_le]
  exact Int.mul_le_mul_of_nonneg_left (Int.ediv_le_ediv isUnit.positive whole) isUnit.positive.le

/-- Beyond the limit in the future everything is later than what is truncated. -/
theorem truncate_le_of_not_exact (isUnit : IsUnit unit) (earlierExact : isExact earlier)
    (laterKept : ¬isExact later) (inOrder : earlier.toRat ≤ later.toRat) :
    (truncate unit earlier).toRat ≤ (truncate unit later).toRat := by
  have lower := abs_le.mp (isExact_iff.mp earlierExact)
  have beyond := mt isExact_iff.mpr laterKept
  have far : 2 ^ 53 - 1 < later.toRat := by
    by_contra near
    exact beyond (abs_le.mpr ⟨lower.1.trans inOrder, not_lt.mp near⟩)
  rw [truncate_of_not_exact laterKept]
  calc (truncate unit earlier).toRat
      ≤ earlier.truncated := toRat_truncate_le_truncated isUnit earlierExact
    _ ≤ 2 ^ 53 - 1 := (abs_le.mp (abs_truncated_le earlierExact)).2
    _ ≤ later.toRat := far.le

/-- Beyond the limit in the past, everything is earlier than what is truncated, unless it is in the
unit that the limit cuts in two. -/
theorem le_truncate_or_cutApart (isUnit : IsUnit unit) (earlierKept : ¬isExact earlier)
    (laterExact : isExact later) (inOrder : earlier.toRat ≤ later.toRat) :
    (truncate unit earlier).toRat ≤ (truncate unit later).toRat ∨
      ∃ start, CutApart unit earlier later start := by
  have range := abs_le.mp (isExact_iff.mp laterExact)
  have far : earlier.toRat < -(2 ^ 53 - 1) := by
    by_contra near
    exact earlierKept (isExact_iff.mpr (abs_le.mpr ⟨not_lt.mp near, inOrder.trans range.2⟩))
  rw [truncate_of_not_exact earlierKept, toRat_truncate isUnit laterExact]
  rcases le_or_gt earlier.toRat (unit * (later.truncated / unit) : Int) with ordered | pastStart
  · exact .inl ordered
  · right
    have isStart : unit * (later.truncated / unit) % unit = 0 := Int.mul_emod_right _ _
    have low := start_le_of_lt pastStart far
    have short := isUnit.small
    have parts := Int.mul_ediv_add_emod later.truncated unit
    have last := Int.emod_lt_of_pos later.truncated isUnit.positive
    have within : later.truncated ≤ unit * (later.truncated / unit) + unit - 1 := by omega
    have early : later.toRat ≤ 0 := by
      have next : later.truncated + 1 ≤ 0 := by omega
      exact (toRat_lt_truncated_add_one later).le.trans (by exact_mod_cast next)
    refine ⟨_, isStart, pastStart, far, range.1, ?_⟩
    calc later.toRat
        ≤ later.truncated := by
          rw [Double.truncated_eq_ceil early]
          exact Int.le_ceil _
      _ ≤ (unit * (later.truncated / unit) + unit - 1 : Int) := Int.cast_le.mpr within
      _ = _ := by push_cast; rfl

/-- Truncation keeps the order of two timestamps exactly if they are not cut apart. -/
theorem truncate_le_truncate_iff (isUnit : IsUnit unit) (inOrder : earlier.toRat ≤ later.toRat) :
    (truncate unit earlier).toRat ≤ (truncate unit later).toRat ↔
      ¬∃ start, CutApart unit earlier later start := by
  constructor
  · rintro ordered ⟨start, cut⟩
    rw [truncate_of_not_exact cut.not_isExact, cut.toRat_truncate isUnit] at ordered
    exact absurd cut.pastStart (not_lt.mpr ordered)
  · intro uncut
    by_cases earlierExact : isExact earlier
    · by_cases laterExact : isExact later
      · exact truncate_le_truncate_of_exact isUnit earlierExact laterExact inOrder
      · exact truncate_le_of_not_exact isUnit earlierExact laterExact inOrder
    · by_cases laterExact : isExact later
      · exact (le_truncate_or_cutApart isUnit earlierExact laterExact inOrder).resolve_right uncut
      · rwa [truncate_of_not_exact earlierExact, truncate_of_not_exact laterExact]

end Timestamp

/-- The timestamp that a matcher looks at, before it is truncated. -/
def MatcherDefinition.time? (definition : MatcherDefinition) (context : Context) : Option Double :=
  (definition.subject? context).bind Attribute.toNumber?

theorem Matcher.value?_of_datetime {definition : MatcherDefinition} {matcher : Matcher}
    (selects : matcher.attribute? = definition.attribute?) (timed : matcher.valueType = .datetime)
    (context : Context) :
    matcher.value? context.key context.attributes =
      (definition.time? context).map fun millis => .number (truncate matcher.kind millis) := by
  simp only [value?, MatcherDefinition.time?, MatcherDefinition.subject?, selects, timed]
  cases definition.attribute? with
  | none =>
      simp [MatchValue.ofKey?, MatchValue.ofAttribute?, MatchValue.truncateFor, timed,
        Function.comp_def]
  | some name =>
      simp [MatchValue.ofAttribute?, MatchValue.truncateFor, timed, Function.comp_def,
        Option.map_bind]

namespace CompiledMatcher

variable {definition : MatcherDefinition} {bound millis other : Double}

/-- A matcher that holds of one timestamp holds of another one, wherever the two are found. -/
def PassesOn [PatternLanguage] (definition : MatcherDefinition) (millis other : Double) : Prop :=
  ∃ compiled, ofDefinition definition = .ok compiled ∧
    ∀ context otherContext, definition.time? context = some millis →
      definition.time? otherContext = some other →
        compiled.holds context = .ready true → compiled.holds otherContext = .ready true

/-- A comparison with a bound is made between truncated timestamps. -/
theorem holds_ofPayload {kind : MatcherKind} {operand : Operand} {predicate : Predicate}
    {context : Context} (read : definition.time? context = some millis)
    (alone : predicate.query? = none) :
    holds ⟨.ofPayload definition kind (operand, .datetime), predicate⟩ context =
      .ready (predicate.holdsAlone (.number (Matcher.truncate kind millis))) := by
  have value : (Matcher.ofPayload definition kind (operand, .datetime)).value? context.key
      context.attributes = some (.number (Matcher.truncate kind millis)) := by
    rw [Matcher.value?_of_datetime rfl rfl, read]
    rfl
  simp only [holds, value, Predicate.holds_of_no_query alone]
  rfl

theorem passesOn_of_time [PatternLanguage] (kind : MatcherKind) (predicate : Predicate)
    (known : definition.kindName = kind.name)
    (unary : kind = .equalTo ∨ kind = .greaterThanOrEqualTo ∨ kind = .lessThanOrEqualTo)
    (payload : definition.number = some ⟨.datetime, bound⟩)
    (prepares : Predicate.ofMatcher
      (.ofPayload definition kind (.number (Matcher.truncate kind bound), .datetime)) =
        .ok predicate)
    (alone : predicate.query? = none)
    (keeps : predicate.holdsAlone (.number (Matcher.truncate kind millis)) = true →
      predicate.holdsAlone (.number (Matcher.truncate kind other)) = true) :
    PassesOn definition millis other := by
  have found := Matcher.payload_of_number definition unary payload
  refine ⟨_, ofDefinition_of_payload known found prepares, ?_⟩
  intro context otherContext read otherRead held
  rw [holds_ofPayload read alone] at held
  rw [holds_ofPayload otherRead alone]
  exact congrArg Lookup.ready (keeps (congrArg Lookup.value held))

end CompiledMatcher

namespace Timestamp

variable {unit : Int} {earlier later bound : Double}

theorem truncate_le_iff (isUnit : IsUnit unit) (earlierFinite : earlier.isFinite)
    (laterFinite : later.isFinite) :
    (truncate unit earlier).le (truncate unit later) = true ↔
      (truncate unit earlier).toRat ≤ (truncate unit later).toRat := by
  have small : unit.natAbs ≤ 1 <<< 53 := by
    have positive := isUnit.positive
    have bound := isUnit.small
    simp only [Nat.reduceShiftLeft, Int.reducePow] at *
    omega
  exact Double.le_iff (Timestamp.isFinite_truncate isUnit.positive small earlierFinite)
    (Timestamp.isFinite_truncate isUnit.positive small laterFinite)

/-- The order of timestamps survives truncation exactly if they are not cut apart. If they are not
cut apart by minutes, what an ordering holds of one of them it holds of the other, too. -/
theorem order_kept_unless_cut_apart [PatternLanguage] (earlierFinite : earlier.isFinite)
    (laterFinite : later.isFinite) (inOrder : earlier.toRat ≤ later.toRat) :
    (∀ unit, IsUnit unit →
      ((truncate unit earlier).le (truncate unit later) = true ↔
        ¬∃ start, CutApart unit earlier later start)) ∧
    ((¬∃ start, CutApart minute earlier later start) →
      ∀ (definition : MatcherDefinition) (bound : Double),
        definition.number = some ⟨.datetime, bound⟩ → bound.isFinite →
          (definition.kindName = "GREATER_THAN_OR_EQUAL_TO" →
            CompiledMatcher.PassesOn definition earlier later) ∧
          (definition.kindName = "LESS_THAN_OR_EQUAL_TO" →
            CompiledMatcher.PassesOn definition later earlier)) := by
  constructor
  · intro unit isUnit
    rw [truncate_le_iff isUnit earlierFinite laterFinite]
    exact truncate_le_truncate_iff isUnit inOrder
  · intro uncut definition bound payload boundFinite
    have kept := (truncate_le_truncate_iff isUnit_minute inOrder).mpr uncut
    constructor
    · intro known
      apply CompiledMatcher.passesOn_of_time .greaterThanOrEqualTo
        (.greaterThanOrEqualTo (truncate minute bound)) known (by decide) payload rfl rfl
      intro above
      apply (truncate_le_iff isUnit_minute boundFinite laterFinite).mpr
      exact ((truncate_le_iff isUnit_minute boundFinite earlierFinite).mp above).trans kept
    · intro known
      apply CompiledMatcher.passesOn_of_time .lessThanOrEqualTo
        (.lessThanOrEqualTo (truncate minute bound)) known (by decide) payload rfl rfl
      intro below
      apply (truncate_le_iff isUnit_minute earlierFinite boundFinite).mpr
      exact kept.trans ((truncate_le_iff isUnit_minute laterFinite boundFinite).mp below)

/-- Whether something was seen no earlier than at a given time. -/
def seenFrom (bound : Double) : MatcherDefinition where
  kindName := "GREATER_THAN_OR_EQUAL_TO"
  keySelector := some ⟨none, some "seen"⟩
  number := some ⟨.datetime, bound⟩

theorem time?_seenFrom {bound seen : Double} {key : Key} {surroundings : Surroundings}
    (finite : seen.isFinite) :
    (seenFrom bound).time? ⟨key, [("seen", .number seen)], surroundings⟩ = some seen := by
  simp [MatcherDefinition.time?, MatcherDefinition.subject?, MatcherDefinition.attribute?,
    seenFrom, Attribute.toNumber?, Option.filter, finite]

/-- The start of the minute that the limit cuts in two is before the limit, and still in order with
the end of that minute. -/
theorem order_kept_unless_cut_apart_startOfMinute :
    (Double.ofInt (-9007199254800000)).isFinite ∧ (Double.ofInt (-9007199254740991)).isFinite ∧
      (Double.ofInt (-9007199254800000)).toRat ≤ (Double.ofInt (-9007199254740991)).toRat ∧
      (¬∃ start,
        CutApart minute (.ofInt (-9007199254800000)) (.ofInt (-9007199254740991)) start) ∧
      (truncate minute (.ofInt (-9007199254800000))).le
        (truncate minute (.ofInt (-9007199254740991))) = true ∧
      CompiledMatcher.PassesOn (seenFrom (.ofInt (-9007199254800000)))
        (.ofInt (-9007199254800000)) (.ofInt (-9007199254740991)) := by
  have start : (Double.ofInt (-9007199254800000)).toRat = (-9007199254800000 : Int) :=
    Double.toRat_ofInt (.inr (by decide))
  have limit : (Double.ofInt (-9007199254740991)).toRat = (-9007199254740991 : Int) :=
    Double.toRat_ofInt (.inl (by decide))
  have startFinite : (Double.ofInt (-9007199254800000)).isFinite := by decide +kernel
  have limitFinite : (Double.ofInt (-9007199254740991)).isFinite := by decide +kernel
  have inOrder : (Double.ofInt (-9007199254800000)).toRat ≤
      (Double.ofInt (-9007199254740991)).toRat := by
    rw [start, limit]
    norm_num
  have uncut : ¬∃ start,
      CutApart minute (.ofInt (-9007199254800000)) (.ofInt (-9007199254740991)) start := by
    rintro ⟨other, cut⟩
    have isStart := cut.isStart
    have pastStart := cut.pastStart
    have sameUnit := cut.sameUnit
    rw [start] at pastStart
    rw [limit] at sameUnit
    rw [minute] at isStart sameUnit
    norm_cast at pastStart sameUnit
    omega
  have both := order_kept_unless_cut_apart startFinite limitFinite inOrder
  exact ⟨startFinite, limitFinite, inOrder, uncut, (both.1 _ isUnit_minute).mpr uncut,
    (both.2 uncut _ _ rfl startFinite).1 rfl⟩

/-- What holds of the last timestamp before the limit need not hold of the limit itself. -/
theorem order_lost_at_limit :
    (Double.ofInt (-9007199254740992)).isFinite ∧ (Double.ofInt (-9007199254740991)).isFinite ∧
      (Double.ofInt (-9007199254740992)).toRat ≤ (Double.ofInt (-9007199254740991)).toRat ∧
      ∃ compiled,
        CompiledMatcher.ofDefinition (seenFrom (.ofInt (-9007199254740992))) = .ok compiled ∧
        compiled.holds ⟨.ofMatching "alice", [("seen", .number (.ofInt (-9007199254740992)))],
          .unavailable⟩ = .ready true ∧
        compiled.holds ⟨.ofMatching "alice", [("seen", .number (.ofInt (-9007199254740991)))],
          .unavailable⟩ = .ready false := by
  have before : (Double.ofInt (-9007199254740992)).isFinite := by decide +kernel
  have limit : (Double.ofInt (-9007199254740991)).isFinite := by decide +kernel
  refine ⟨before, limit, ?_, ⟨.ofPayload _ .greaterThanOrEqualTo (_, .datetime),
    .greaterThanOrEqualTo _⟩, rfl, ?_, ?_⟩
  · apply (Double.le_iff before limit).mp
    decide +kernel
  · rw [CompiledMatcher.holds_ofPayload (time?_seenFrom before) rfl]
    apply congrArg Lookup.ready
    decide +kernel
  · rw [CompiledMatcher.holds_ofPayload (time?_seenFrom limit) rfl]
    apply congrArg Lookup.ready
    decide +kernel

end Timestamp

end Targeting
