import Targeting.Flag.Compiled
import Targeting.Segment.Membership
import Targeting.Storage.Memory

/-!
# Comparing evaluations

Many statements about an evaluation compare two runs of the same rules: with other answers
pending, with another stack, with another storage. What they have in common is that the rules only
build lookups from other lookups, in three ways: a value at hand, one lookup after another, and the
first of two alternatives that decides. A `Lookup.Congruence` is a way to compare lookups that all
three respect.

The theorems of this file follow the rules upwards, from a matcher to a flag and to a rule-based
segment. Each assumes that the answers which its definition asks for are related, and concludes
that the results are.
-/

namespace Targeting

namespace Lookup

variable {ε α β ι : Type}

/-- The first of two alternatives that decides. -/
def orElse (first second : Lookup ε (Option α)) : Lookup ε (Option α) :=
  match first.answer with
  | .ready (some chosen) => ⟨.ready (some chosen), first.calls⟩
  | .ready none => ⟨second.answer, first.calls ++ second.calls⟩
  | .pending chosen =>
      ⟨.pending (chosen.or second.answer.value), first.calls ++ second.calls⟩

theorem firstDecision_cons (decision : ι → Lookup ε (Option α)) (alternative : ι)
    (rest : List ι) :
    firstDecision decision (alternative :: rest) =
      (decision alternative).orElse (firstDecision decision rest) := by
  rw [firstDecision, orElse]
  rcases (decision alternative).answer with (_ | _) | _ <;> rfl

@[simp]
theorem value_orElse (first second : Lookup ε (Option α)) :
    (first.orElse second).value = first.value.or second.value := by
  rcases first with ⟨(_ | _) | _, calls⟩ <;> rfl

theorem isReady_orElse (first second : Lookup ε (Option α)) :
    (first.orElse second).isReady =
      (first.isReady && (first.value.isSome || second.isReady)) := by
  rcases first with ⟨(_ | _) | _, calls⟩ <;> rfl

theorem calls_orElse (first second : Lookup ε (Option α)) :
    (first.orElse second).calls =
      if first.isReady && first.value.isSome then first.calls
      else first.calls ++ second.calls := by
  rcases first with ⟨(_ | _) | (_ | _), calls⟩ <;> rfl

theorem map_eq_andThen (transform : α → β) (lookup : Lookup ε α) :
    lookup.map transform = lookup.andThen (ready (transform lookup.value)) := by
  apply ext_of
  · simp
  · simp
  · simp

/-- A way to compare lookups, apart from their values, that everything evaluations are built from
respects. -/
structure Congruence (ε : Type) where
  Alike : {α β : Type} → Lookup ε α → Lookup ε β → Prop
  ready : ∀ {α β : Type} (left : α) (right : β), Alike (Lookup.ready left) (Lookup.ready right)
  andThen : ∀ {α β α' β' : Type} {first : Lookup ε α} {second : Lookup ε β}
    {first' : Lookup ε α'} {second' : Lookup ε β'},
    Alike first first' → Alike second second' →
      Alike (first.andThen second) (first'.andThen second')
  orElse : ∀ {α : Type} {first second first' second' : Lookup ε (Option α)},
    first.value = first'.value → Alike first first' → Alike second second' →
      Alike (first.orElse second) (first'.orElse second')

namespace Congruence

variable {congruence : Congruence ε}

/-- Lookups that are alike and whose values are related. -/
def Related (congruence : Congruence ε) (relation : α → β → Prop) (left : Lookup ε α)
    (right : Lookup ε β) : Prop :=
  relation left.value right.value ∧ congruence.Alike left right

theorem related_ready {relation : α → β → Prop} {left : α} {right : β}
    (values : relation left right) :
    congruence.Related relation (Lookup.ready left) (Lookup.ready right) :=
  ⟨values, congruence.ready left right⟩

theorem Related.andThen {α' β' : Type} {earlier : α → α' → Prop} {later : β → β' → Prop}
    {first : Lookup ε α} {first' : Lookup ε α'} {second : Lookup ε β} {second' : Lookup ε β'}
    (firstRelated : congruence.Related earlier first first')
    (secondRelated : congruence.Related later second second') :
    congruence.Related later (first.andThen second) (first'.andThen second') := by
  refine ⟨?_, congruence.andThen firstRelated.2 secondRelated.2⟩
  simpa using secondRelated.1

/-- What comes after a lookup only has to be compared at the values that the lookup has. -/
theorem Related.bind {α' β' : Type} {earlier : α → α' → Prop} {later : β → β' → Prop}
    {first : Lookup ε α} {first' : Lookup ε α'} {next : α → Lookup ε β}
    {next' : α' → Lookup ε β'} (related : congruence.Related earlier first first')
    (nextRelated : earlier first.value first'.value →
      congruence.Related later (next first.value) (next' first'.value)) :
    congruence.Related later (first.bind next) (first'.bind next') :=
  related.andThen (nextRelated related.1)

theorem Related.map {α' β' : Type} {earlier : α → α' → Prop} {later : β → β' → Prop}
    {left : Lookup ε α} {right : Lookup ε α'} {transform : α → β} {transform' : α' → β'}
    (related : congruence.Related earlier left right)
    (respects : ∀ {value value'}, earlier value value' →
      later (transform value) (transform' value')) :
    congruence.Related later (left.map transform) (right.map transform') := by
  rw [map_eq_andThen, map_eq_andThen]
  exact related.andThen (related_ready (respects related.1))

theorem Related.orElse {first second first' second' : Lookup ε (Option α)}
    (firstRelated : congruence.Related Eq first first')
    (secondRelated : congruence.Related Eq second second') :
    congruence.Related Eq (first.orElse second) (first'.orElse second') := by
  refine ⟨?_, congruence.orElse firstRelated.1 firstRelated.2 secondRelated.2⟩
  rw [value_orElse, value_orElse, firstRelated.1, secondRelated.1]

theorem related_collect {items : List ι} {left right : ι → Lookup ε α}
    (related : ∀ item ∈ items, congruence.Related Eq (left item) (right item)) :
    congruence.Related Eq (collect (items.map left)) (collect (items.map right)) := by
  induction items with
  | nil => exact related_ready rfl
  | cons item rest ih =>
      have headRelated := related item List.mem_cons_self
      have restRelated := ih fun other member => related other (List.mem_cons_of_mem item member)
      simp only [List.map_cons, collect]
      apply headRelated.bind
      intro same
      apply restRelated.map
      rintro values _ rfl
      rw [same]

theorem related_conjunction {items : List ι} {left right : ι → Lookup ε Bool}
    (related : ∀ item ∈ items, congruence.Related Eq (left item) (right item)) :
    congruence.Related Eq (conjunction (items.map left)) (conjunction (items.map right)) := by
  apply (related_collect related).map
  rintro values _ rfl
  rfl

theorem related_firstDecision {items : List ι} {left right : ι → Lookup ε (Option α)}
    (related : ∀ item ∈ items, congruence.Related Eq (left item) (right item)) :
    congruence.Related Eq (firstDecision left items) (firstDecision right items) := by
  induction items with
  | nil => exact related_ready rfl
  | cons item rest ih =>
      have headRelated := related item List.mem_cons_self
      have restRelated := ih fun other member => related other (List.mem_cons_of_mem item member)
      rw [firstDecision_cons, firstDecision_cons]
      exact headRelated.orElse restRelated

/-- Lookups that differ in nothing but their values. -/
def identical (ε : Type) : Congruence ε where
  Alike left right := left.isReady = right.isReady ∧ left.calls = right.calls
  ready _ _ := ⟨rfl, rfl⟩
  andThen first second := by
    simp [first.1, first.2, second.1, second.2]
  orElse values first second := by
    simp [isReady_orElse, calls_orElse, values, first.1, first.2, second.1, second.2]

@[simp]
theorem related_identical_iff {left right : Lookup ε α} :
    (identical ε).Related Eq left right ↔ left = right := by
  constructor
  · rintro ⟨values, readiness, calls⟩
    exact ext_of values readiness calls
  · rintro rfl
    exact ⟨rfl, rfl, rfl⟩

end Congruence

end Lookup

open Lookup

variable {congruence : Congruence Call} {left right : Context}

/-- Whether two surroundings answer a query alike, whatever the key. -/
def Surroundings.Alike (congruence : Congruence Call) (left right : Surroundings) :
    Query → Prop
  | .flag name =>
      ∀ key, congruence.Related Eq (left.evaluation name key) (right.evaluation name key)
  | .segment name =>
      ∀ key, congruence.Related Eq (left.inSegment name key) (right.inSegment name key)
  | .largeSegment name =>
      ∀ key, congruence.Related Eq (left.inLargeSegment name key) (right.inLargeSegment name key)
  | .ruleBased name =>
      ∀ key, congruence.Related Eq (left.inRuleBased name key) (right.inRuleBased name key)

/-- Two contexts of one key, with surroundings that answer some queries alike. -/
structure Context.Alike (congruence : Congruence Call) (queries : List Query)
    (left right : Context) : Prop where
  key : left.key = right.key
  attributes : left.attributes = right.attributes
  surroundings : ∀ query ∈ queries, left.surroundings.Alike congruence right.surroundings query

theorem Context.Alike.mono {queries fewer : List Query}
    (alike : Context.Alike congruence queries left right) (subset : fewer ⊆ queries) :
    Context.Alike congruence fewer left right :=
  ⟨alike.key, alike.attributes, fun query asked => alike.surroundings query (subset asked)⟩

namespace Predicate

/-- The query that a predicate leads to. -/
def query? : Predicate → Option Query
  | inSegment name => some (.segment name)
  | inLargeSegment name => some (.largeSegment name)
  | inRuleBasedSegment name => some (.ruleBased name)
  | inSplitTreatment flag _ => some (.flag flag)
  | _ => none

theorem related_holds {left right : Surroundings} (predicate : Predicate) (value : MatchValue)
    (alike : ∀ query ∈ predicate.query?, left.Alike congruence right query) :
    congruence.Related Eq (predicate.holds value left) (predicate.holds value right) := by
  unfold holds
  split
  · exact alike _ rfl _
  · exact alike _ rfl _
  · exact alike _ rfl _
  · apply (alike _ rfl _).map
    rintro evaluation _ rfl
    rfl
  · exact Congruence.related_ready rfl

end Predicate

namespace CompiledMatcher

theorem related_isMatch {compiled : CompiledMatcher}
    (values : compiled.matcher.value? left.key left.attributes =
      compiled.matcher.value? right.key right.attributes)
    (alike : ∀ query ∈ compiled.predicate.query?,
      left.surroundings.Alike congruence right.surroundings query) :
    congruence.Related Eq (compiled.isMatch left) (compiled.isMatch right) := by
  have related : congruence.Related Eq (compiled.holds left) (compiled.holds right) := by
    unfold holds
    rw [← values]
    rcases compiled.matcher.value? left.key left.attributes with _ | value
    · exact Congruence.related_ready rfl
    · apply (compiled.predicate.related_holds value alike).map
      rintro answer _ rfl
      rfl
  apply related.map
  rintro held _ rfl
  rfl

end CompiledMatcher

namespace CompiledGroup

/-- The queries that a group leads to. -/
def queries (group : CompiledGroup) : List Query :=
  group.matchers.filterMap (·.predicate.query?)

theorem related_isMatch {group : CompiledGroup}
    (matchers : ∀ compiled ∈ group.matchers,
      congruence.Related Eq (compiled.isMatch left) (compiled.isMatch right)) :
    congruence.Related Eq (group.isMatch left) (group.isMatch right) :=
  Congruence.related_conjunction matchers

theorem related_isMatch_of_queries {group : CompiledGroup}
    (alike : Context.Alike congruence group.queries left right) :
    congruence.Related Eq (group.isMatch left) (group.isMatch right) := by
  apply related_isMatch
  intro compiled member
  apply CompiledMatcher.related_isMatch
  · rw [alike.key, alike.attributes]
  · intro query asked
    exact alike.surroundings query (List.mem_filterMap.mpr ⟨compiled, member, asked⟩)

theorem related_anyIsMatch {groups : List CompiledGroup}
    (related : ∀ group ∈ groups,
      congruence.Related Eq (group.isMatch left) (group.isMatch right)) :
    congruence.Related Eq (anyIsMatch left groups) (anyIsMatch right groups) := by
  have found : congruence.Related Eq
      (firstDecision (fun group : CompiledGroup =>
        (group.isMatch left).map fun matched => if matched then some () else none) groups)
      (firstDecision (fun group : CompiledGroup =>
        (group.isMatch right).map fun matched => if matched then some () else none) groups) := by
    apply Congruence.related_firstDecision
    intro group member
    apply (related group member).map
    rintro matched _ rfl
    rfl
  apply found.map
  rintro decision _ rfl
  rfl

end CompiledGroup

namespace CompiledCondition

theorem outcome_congr {condition : CompiledCondition} {allocation : Allocation} {key key' : Key}
    (bucketing : key.bucketing = key'.bucketing) :
    condition.outcome allocation key = condition.outcome allocation key' := by
  rw [outcome, outcome, bucketing]

/-- A condition looks at the key beyond its group only through the bucketing part. -/
theorem related_decision {condition : CompiledCondition} {allocation : Allocation}
    (bucketing : left.key.bucketing = right.key.bucketing)
    (group : congruence.Related Eq (condition.group.isMatch left)
      (condition.group.isMatch right)) :
    congruence.Related Eq (condition.decision allocation left)
      (condition.decision allocation right) := by
  unfold decision
  rw [bucketing]
  split
  · exact Congruence.related_ready rfl
  · apply group.map
    rintro matched _ rfl
    rw [outcome_congr bucketing]

end CompiledCondition

namespace CompiledRules

/-- The queries that rules lead to. -/
def queries (rules : CompiledRules) : List Query :=
  rules.conditions.flatMap (·.group.queries)

theorem related_decision {rules : CompiledRules} {allocation : Allocation}
    (conditions : ∀ condition ∈ rules.conditions,
      congruence.Related Eq (condition.decision allocation left)
        (condition.decision allocation right)) :
    congruence.Related Eq (rules.decision allocation left) (rules.decision allocation right) :=
  Congruence.related_firstDecision conditions

theorem related_decision_of_queries {rules : CompiledRules} {allocation : Allocation}
    (alike : Context.Alike congruence rules.queries left right) :
    congruence.Related Eq (rules.decision allocation left) (rules.decision allocation right) := by
  apply related_decision
  intro condition member
  apply CompiledCondition.related_decision
  · rw [alike.key]
  · apply CompiledGroup.related_isMatch_of_queries
    exact alike.mono fun _ asked => List.mem_flatMap_of_mem member asked

end CompiledRules

namespace Rules

/-- The conditions that the rules evaluate. -/
def conditions : Rules → List CompiledCondition
  | compiled rules => rules.conditions
  | unsupported => []

/-- The queries that the rules lead to. -/
def queries (rules : Rules) : List Query :=
  rules.conditions.flatMap (·.group.queries)

theorem related_decision {rules : Rules} {allocation : Allocation}
    (conditions : ∀ condition ∈ rules.conditions,
      congruence.Related Eq (condition.decision allocation left)
        (condition.decision allocation right)) :
    congruence.Related Eq (rules.decision allocation left) (rules.decision allocation right) := by
  cases rules with
  | compiled rules => exact CompiledRules.related_decision conditions
  | unsupported => exact Congruence.related_ready rfl

end Rules

namespace Prerequisite

/-- A prerequisite looks at an evaluation only through its treatment. -/
theorem related_allMet {prerequisites : List Prerequisite}
    (evaluations : ∀ prerequisite ∈ prerequisites,
      congruence.Related (fun answer answer' => answer.treatment = answer'.treatment)
        (left.surroundings.evaluation prerequisite.flag left.key)
        (right.surroundings.evaluation prerequisite.flag right.key)) :
    congruence.Related Eq (allMet left prerequisites) (allMet right prerequisites) := by
  induction prerequisites with
  | nil => exact Congruence.related_ready rfl
  | cons prerequisite rest ih =>
      have first := evaluations prerequisite List.mem_cons_self
      have later := ih fun other member =>
        evaluations other (List.mem_cons_of_mem prerequisite member)
      unfold allMet
      apply first.bind
      intro same
      rw [acceptsEvaluation, acceptsEvaluation, same]
      split
      · exact later
      · exact Congruence.related_ready rfl

end Prerequisite

namespace CompiledFlag

/-- The queries that a flag leads to. -/
def queries (compiled : CompiledFlag) : List Query :=
  compiled.flag.prerequisites.map (fun prerequisite => .flag prerequisite.flag) ++
    compiled.rules.queries

theorem related_evaluateIn {compiled : CompiledFlag}
    (prerequisites : congruence.Related Eq
      (Prerequisite.allMet left compiled.flag.prerequisites)
      (Prerequisite.allMet right compiled.flag.prerequisites))
    (decisions : congruence.Related Eq
      (compiled.rules.decision compiled.flag.allocation left)
      (compiled.rules.decision compiled.flag.allocation right)) :
    congruence.Related Eq (compiled.evaluateIn left) (compiled.evaluateIn right) := by
  simp only [evaluateIn]
  split
  · exact Congruence.related_ready rfl
  · apply prerequisites.bind
    intro same
    rw [same]
    split
    · apply decisions.map
      rintro decision _ rfl
      rfl
    · exact Congruence.related_ready rfl

theorem related_evaluateIn_of_groups {compiled : CompiledFlag} (keys : left.key = right.key)
    (prerequisites : ∀ prerequisite ∈ compiled.flag.prerequisites,
      left.surroundings.Alike congruence right.surroundings (.flag prerequisite.flag))
    (groups : ∀ condition ∈ compiled.rules.conditions,
      congruence.Related Eq (condition.group.isMatch left) (condition.group.isMatch right)) :
    congruence.Related Eq (compiled.evaluateIn left) (compiled.evaluateIn right) := by
  apply related_evaluateIn
  · apply Prerequisite.related_allMet
    intro prerequisite member
    have related := prerequisites prerequisite member left.key
    rw [← keys]
    exact ⟨congrArg Evaluation.treatment related.1, related.2⟩
  · apply Rules.related_decision
    intro condition member
    apply CompiledCondition.related_decision
    · rw [keys]
    · exact groups condition member

theorem related_evaluateIn_of_queries {compiled : CompiledFlag}
    (alike : Context.Alike congruence compiled.queries left right) :
    congruence.Related Eq (compiled.evaluateIn left) (compiled.evaluateIn right) := by
  apply related_evaluateIn_of_groups alike.key
  · intro prerequisite member
    apply alike.surroundings
    exact List.mem_append_left _ (List.mem_map.mpr ⟨prerequisite, member, rfl⟩)
  · intro condition member
    apply CompiledGroup.related_isMatch_of_queries
    apply alike.mono
    intro query asked
    exact List.mem_append_right _ (List.mem_flatMap_of_mem member asked)

end CompiledFlag

namespace ExcludedSegment

/-- The query that an excluded segment leads to. -/
def query (segment : ExcludedSegment) : Query :=
  match segment.kind with
  | .standard => .segment segment.name
  | .large => .largeSegment segment.name
  | .ruleBased => .ruleBased segment.name

theorem related_hasKey {segment : ExcludedSegment} (keys : left.key = right.key)
    (alike : left.surroundings.Alike congruence right.surroundings segment.query) :
    congruence.Related Eq (segment.hasKey left) (segment.hasKey right) := by
  unfold hasKey
  rw [← keys]
  rcases segment with ⟨_ | _ | _, name⟩
  · exact alike left.key.matching
  · exact alike left.key
  · exact alike left.key.matching

theorem related_anyHasKey {segments : List ExcludedSegment}
    (related : ∀ segment ∈ segments,
      congruence.Related Eq (segment.hasKey left) (segment.hasKey right)) :
    congruence.Related Eq (anyHasKey left segments) (anyHasKey right segments) := by
  induction segments with
  | nil => exact Congruence.related_ready rfl
  | cons segment rest ih =>
      have first := related segment List.mem_cons_self
      have later := ih fun other member => related other (List.mem_cons_of_mem segment member)
      unfold anyHasKey
      apply first.bind
      intro same
      rw [same]
      split
      · exact later
      · exact Congruence.related_ready rfl

end ExcludedSegment

variable [PatternLanguage]

namespace RuleBasedSegment

/-- The queries that the membership in a compiled segment leads to. -/
def compiledQueries (segment : RuleBasedSegment) : List Query :=
  segment.excluded.segments.map ExcludedSegment.query ++
    match segment.compiledGroups with
    | .error _ => []
    | .ok groups => groups.flatMap CompiledGroup.queries

theorem related_hasKey {segment : RuleBasedSegment}
    (matching : left.key.matching = right.key.matching)
    (exclusions : ∀ excluded ∈ segment.excluded.segments,
      congruence.Related Eq (excluded.hasKey left) (excluded.hasKey right))
    (groups : ∀ compiled, segment.compiledGroups = .ok compiled → ∀ group ∈ compiled,
      congruence.Related Eq (group.isMatch left) (group.isMatch right)) :
    congruence.Related Eq (segment.hasKey left) (segment.hasKey right) := by
  unfold hasKey
  rw [matching]
  split
  · exact Congruence.related_ready rfl
  · rcases compiles : segment.compiledGroups with error | compiled
    · exact Congruence.related_ready rfl
    · apply (ExcludedSegment.related_anyHasKey exclusions).bind
      intro same
      rw [same]
      split
      · apply (CompiledGroup.related_anyIsMatch (groups compiled compiles)).map
        rintro matched _ rfl
        rfl
      · exact Congruence.related_ready rfl
      · exact Congruence.related_ready rfl

theorem related_hasKey_of_queries {segment : RuleBasedSegment}
    (alike : Context.Alike congruence segment.compiledQueries left right) :
    congruence.Related Eq (segment.hasKey left) (segment.hasKey right) := by
  apply related_hasKey
  · rw [alike.key]
  · intro excluded member
    apply ExcludedSegment.related_hasKey alike.key
    apply alike.surroundings
    exact List.mem_append_left _ (List.mem_map.mpr ⟨excluded, member, rfl⟩)
  · intro compiled compiles group member
    apply CompiledGroup.related_isMatch_of_queries
    apply alike.mono
    intro query asked
    apply List.mem_append_right
    rw [compiles]
    exact List.mem_flatMap_of_mem member asked

end RuleBasedSegment

end Targeting
