import Targeting.Pattern.Standard
import Targeting.Proofs.Compilation
import Targeting.Proofs.Partition

/-!
# Support of rules

Rules can fail to compile in two ways. A matcher that is unknown, lacks its payload or cannot be
prepared makes them unsupported, and they then always decide for control. Partitions that do not add
up to a hundred make them malformed, which is an error. Compiling stops at the first condition that
fails, and a condition's matchers are compiled before its partitions, so it is the order of the
conditions that decides between the two.
-/

namespace Targeting

namespace MatcherDefinition

/-- Whether a definition has the payload that a kind cannot do without. -/
def hasPayload (definition : MatcherDefinition) : MatcherKind → Bool
  | .allKeys => true
  | .inSegment | .inRuleBasedSegment => definition.segment.isSome
  | .inLargeSegment => definition.largeSegment.isSome
  | .equalTo | .greaterThanOrEqualTo | .lessThanOrEqualTo => definition.number.isSome
  | .between => definition.numberRange.isSome
  | .equalToSet | .containsAnyOfSet | .containsAllOfSet | .partOfSet | .whitelist | .startsWith
  | .endsWith | .containsString | .inListSemver => definition.whitelist.isSome
  | .inSplitTreatment => definition.dependency.isSome
  | .equalToBoolean => definition.boolean.isSome
  | .matchesString | .equalToSemver | .greaterThanOrEqualToSemver | .lessThanOrEqualToSemver =>
      definition.text.isSome
  | .betweenSemver => definition.textRange.isSome

/-- The texts that have to be versions. -/
def versions (definition : MatcherDefinition) : MatcherKind → List String
  | .equalToSemver | .greaterThanOrEqualToSemver | .lessThanOrEqualToSemver =>
      definition.text.toList
  | .betweenSemver =>
      definition.textRange.toList.flatMap fun payload => [payload.start, payload.finish]
  | .inListSemver => definition.whitelist.getD []
  | _ => []

end MatcherDefinition

namespace Matcher

theorem fails_payload_iff {definition : MatcherDefinition} {kind : MatcherKind} :
    Outcome.Fails (payload definition kind) ↔ definition.hasPayload kind = false := by
  cases kind <;> simp [payload, MatcherDefinition.hasPayload]

end Matcher

namespace Predicate

theorem fails_readVersion_iff {text : String} :
    Outcome.Fails (readVersion text) ↔ Outcome.Fails (Version.parse text) :=
  Outcome.fails_mapError_iff

theorem fails_ofVersionList_iff {texts : List String} :
    Outcome.Fails (ofVersionList texts) ↔
      texts = [] ∨ ∃ text ∈ texts, Outcome.Fails (Version.parse text) := by
  rcases texts with _ | ⟨text, texts⟩
  · simp [ofVersionList]
  · simp only [ofVersionList, Outcome.fails_map_iff, Outcome.fails_mapM_iff, fails_readVersion_iff,
      reduceCtorEq, false_or]

end Predicate

namespace Rules

/-- Compiling gives rules that are not supported, and that decide for control whatever they are
asked. -/
def FailsSafe (outcome : Except CompileError Rules) : Prop :=
  ∃ rules, outcome = .ok rules ∧ rules.isSupported = false ∧
    ∀ allocation context,
      rules.decision allocation context = .ready (some (.ofControl Label.unsupportedMatcher))

theorem failsSafe_iff {outcome : Except CompileError Rules} :
    FailsSafe outcome ↔ outcome = .ok unsupported := by
  constructor
  · rintro ⟨rules, compiles, unsupported, _⟩
    cases rules with
    | compiled rules => simp [isSupported] at unsupported
    | unsupported => exact compiles
  · intro compiles
    exact ⟨unsupported, compiles, rfl, fun _ _ => rfl⟩

end Rules

section

variable [PatternLanguage]

namespace MatcherDefinition

/-- Payloads that nothing can be prepared from. -/
inductive Malformed (definition : MatcherDefinition) : MatcherKind → Prop where
  | pattern {source : String} (given : definition.text = some source)
      (malformed : PatternLanguage.read? source = none) : Malformed definition .matchesString
  | version {kind : MatcherKind} {text : String} (given : text ∈ definition.versions kind)
      (malformed : Outcome.Fails (Version.parse text)) : Malformed definition kind
  | emptyVersionList (empty : definition.whitelist = some []) : Malformed definition .inListSemver

/-- Matchers that are unknown, lack their payload or cannot be prepared. -/
inductive Unsupported (definition : MatcherDefinition) : Prop where
  | unknownKind (unknown : MatcherKind.ofName? definition.kindName = none)
  | missingPayload {kind : MatcherKind}
      (named : MatcherKind.ofName? definition.kindName = some kind)
      (missing : definition.hasPayload kind = false)
  | malformedPayload {kind : MatcherKind}
      (named : MatcherKind.ofName? definition.kindName = some kind)
      (malformed : definition.Malformed kind)

theorem malformed_iff {definition : MatcherDefinition} {kind : MatcherKind} :
    definition.Malformed kind ↔
      (kind = .matchesString ∧
        ∃ source, definition.text = some source ∧ PatternLanguage.read? source = none) ∨
      (∃ text ∈ definition.versions kind, Outcome.Fails (Version.parse text)) ∨
      (kind = .inListSemver ∧ definition.whitelist = some []) := by
  constructor
  · rintro (⟨given, malformed⟩ | ⟨given, malformed⟩ | empty)
    · exact .inl ⟨rfl, _, given, malformed⟩
    · exact .inr (.inl ⟨_, given, malformed⟩)
    · exact .inr (.inr ⟨rfl, empty⟩)
  · rintro (⟨rfl, source, given, malformed⟩ | ⟨text, given, malformed⟩ | ⟨rfl, empty⟩)
    · exact .pattern given malformed
    · exact .version given malformed
    · exact .emptyVersionList empty

end MatcherDefinition

namespace Predicate

/-- A matcher that has its payload cannot be prepared exactly if the payload is malformed. -/
theorem fails_ofMatcher_iff {definition : MatcherDefinition} {matcher : Matcher}
    (payload : Matcher.payload definition matcher.kind =
      .ok (matcher.operand, matcher.valueType)) :
    Outcome.Fails (ofMatcher matcher) ↔ definition.Malformed matcher.kind := by
  rcases matcher with ⟨kind, operand, _, _, valueType⟩
  dsimp only at payload ⊢
  rw [MatcherDefinition.malformed_iff]
  cases kind
  case allKeys =>
    cases payload
    simp [ofMatcher, MatcherDefinition.versions]
  all_goals
    rcases Outcome.map_eq_ok_iff.mp payload with ⟨value, present, same⟩
    cases same
    have given := Matcher.need_eq_ok_iff.mp present
  case matchesString =>
    rcases read : PatternLanguage.read? value with _ | pattern
    · simp [ofMatcher, MatcherDefinition.versions, given, read]
    · simp [ofMatcher, MatcherDefinition.versions, given, read]
  case inListSemver =>
    simp [ofMatcher, MatcherDefinition.versions, given, fails_ofVersionList_iff, or_comm]
  case equalToSemver | greaterThanOrEqualToSemver | lessThanOrEqualToSemver | betweenSemver =>
    simp [ofMatcher, MatcherDefinition.versions, given, fails_readVersion_iff]
  all_goals simp [ofMatcher, MatcherDefinition.versions]

end Predicate

namespace CompiledMatcher

theorem fails_ofDefinition_iff {definition : MatcherDefinition} :
    Outcome.Fails (ofDefinition definition) ↔ definition.Unsupported := by
  rw [ofDefinition, Outcome.fails_bind_iff, Outcome.fails_mapError_iff]
  simp only [Outcome.mapError_eq_ok_iff, Outcome.fails_map_iff, Outcome.fails_mapError_iff]
  unfold Matcher.ofDefinition
  rcases named : MatcherKind.ofName? definition.kindName with _ | kind
  · simpa using MatcherDefinition.Unsupported.unknownKind named
  · have unsupported : definition.Unsupported ↔
        definition.hasPayload kind = false ∨ definition.Malformed kind := by
      constructor
      · rintro (unknown | ⟨same, missing⟩ | ⟨same, malformed⟩)
        · simp [named] at unknown
        · cases named.symm.trans same
          exact .inl missing
        · cases named.symm.trans same
          exact .inr malformed
      · rintro (missing | malformed)
        · exact .missingPayload named missing
        · exact .malformedPayload named malformed
    rw [unsupported, ← Matcher.fails_payload_iff]
    dsimp only
    rcases payload : Matcher.payload definition kind with error | ⟨operand, valueType⟩
    · simp [Except.map]
    · simp only [Except.map, Except.ok.injEq, Outcome.not_fails_ok, false_or, exists_eq_left']
      exact Predicate.fails_ofMatcher_iff payload

theorem isUnsupported_of_ofDefinition {definition : MatcherDefinition} {error : CompileError}
    (fails : ofDefinition definition = .error error) : error.isUnsupported = true := by
  rcases Outcome.bind_eq_error_iff.mp fails with unnamed | ⟨matcher, _, unprepared⟩
  · rcases Outcome.mapError_eq_error_iff.mp unnamed with ⟨failure, _, rfl⟩
    rfl
  · rcases Outcome.mapError_eq_error_iff.mp (Outcome.map_eq_error_iff.mp unprepared) with
      ⟨failure, _, rfl⟩
    rfl

end CompiledMatcher

namespace Condition

/-- Some matcher of the condition is not supported. -/
def Unsupported (condition : Condition) : Prop :=
  ∃ definition ∈ condition.matchers, definition.Unsupported

/-- The partitions of the condition do not add up to a hundred. -/
def Malformed (condition : Condition) : Prop := Partition.sum condition.partitions ≠ 100

end Condition

namespace CompiledGroup

theorem fails_ofDefinitions_iff {condition : Condition} :
    Outcome.Fails (ofDefinitions condition.matchers) ↔ condition.Unsupported := by
  simp only [ofDefinitions, Outcome.fails_map_iff, Outcome.fails_mapM_iff,
    CompiledMatcher.fails_ofDefinition_iff, Condition.Unsupported]

theorem isUnsupported_of_ofDefinitions {definitions : List MatcherDefinition}
    {error : CompileError} (fails : ofDefinitions definitions = .error error) :
    error.isUnsupported = true := by
  rcases Outcome.mapM_eq_error_iff.mp (Outcome.map_eq_error_iff.mp fails) with
    ⟨_, definition, _, _, first, _⟩
  exact CompiledMatcher.isUnsupported_of_ofDefinition first

end CompiledGroup

namespace CompiledCondition

theorem fails_ofCondition_iff {condition : Condition} :
    Outcome.Fails (ofCondition condition) ↔ condition.Unsupported ∨ condition.Malformed := by
  have malformed : Outcome.Fails (PartitionTable.ofPartitions condition.partitions) ↔
      condition.Malformed := by
    simp [Outcome.Fails, PartitionTable.ofPartitions_eq_error_iff, Condition.Malformed]
  rw [ofCondition, Outcome.fails_bind_map_iff, CompiledGroup.fails_ofDefinitions_iff,
    Outcome.fails_mapError_iff, malformed]

/-- A condition that is both is unsupported, not malformed. -/
theorem error_of_ofCondition {condition : Condition} {error : CompileError}
    (fails : ofCondition condition = .error error) :
    (condition.Unsupported ∧ error.isUnsupported = true) ∨
      (¬condition.Unsupported ∧ condition.Malformed ∧
        error = .invalidPartitions (.invalidTotal (Partition.total condition.partitions))) := by
  rcases Outcome.bind_eq_error_iff.mp fails with unsupported | ⟨group, supported, malformed⟩
  · left
    exact ⟨CompiledGroup.fails_ofDefinitions_iff.mp ⟨error, unsupported⟩,
      CompiledGroup.isUnsupported_of_ofDefinitions unsupported⟩
  · right
    rcases Outcome.mapError_eq_error_iff.mp (Outcome.map_eq_error_iff.mp malformed) with
      ⟨failure, table, rfl⟩
    rcases PartitionTable.ofPartitions_eq_error_iff.mp table with ⟨unequal, rfl⟩
    refine ⟨?_, unequal, rfl⟩
    rw [← CompiledGroup.fails_ofDefinitions_iff, Outcome.not_fails_iff]
    exact ⟨group, supported⟩

end CompiledCondition

/-- Compiling stops at the first condition that is unsupported or malformed. -/
theorem CompiledRules.ofConditions_eq_error_iff {conditions : List Condition}
    {error : CompileError} :
    ofConditions conditions = .error error ↔
      ∃ before condition after, conditions = before ++ condition :: after ∧
        CompiledCondition.ofCondition condition = .error error ∧
        ∀ earlier ∈ before, ¬earlier.Unsupported ∧ ¬earlier.Malformed := by
  simp only [ofConditions, Outcome.map_eq_error_iff, Outcome.mapM_eq_error_iff,
    ← Outcome.not_fails_iff, CompiledCondition.fails_ofCondition_iff, not_or]

namespace Rules

theorem ofConditions_eq_unsupported_iff {conditions : List Condition} :
    ofConditions conditions = .ok unsupported ↔
      ∃ error, CompiledRules.ofConditions conditions = .error error ∧
        error.isUnsupported = true := by
  unfold ofConditions
  rcases CompiledRules.ofConditions conditions with error | rules
  · by_cases absorbed : error.isUnsupported = true
    · simp [absorbed]
    · simp [absorbed]
  · simp

theorem ofConditions_eq_error_iff {conditions : List Condition} {error : CompileError} :
    ofConditions conditions = .error error ↔
      CompiledRules.ofConditions conditions = .error error ∧ error.isUnsupported = false := by
  unfold ofConditions
  rcases CompiledRules.ofConditions conditions with failure | rules
  · dsimp only
    rcases absorbed : failure.isUnsupported with _ | _
    · simp only [Bool.false_eq_true, if_false, Except.error.injEq, iff_self_and]
      rintro rfl
      exact absorbed
    · simp only [if_true, reduceCtorEq, Except.error.injEq, false_iff, not_and]
      rintro rfl
      simp [absorbed]
  · simp

theorem failsSafe_ofConditions_iff {conditions : List Condition} :
    FailsSafe (ofConditions conditions) ↔
      ∃ before condition after, conditions = before ++ condition :: after ∧
        condition.Unsupported ∧ ∀ earlier ∈ before, ¬earlier.Unsupported ∧ ¬earlier.Malformed := by
  simp only [failsSafe_iff, ofConditions_eq_unsupported_iff,
    CompiledRules.ofConditions_eq_error_iff]
  constructor
  · rintro ⟨error, ⟨before, condition, after, split, fails, earlier⟩, absorbed⟩
    rcases CompiledCondition.error_of_ofCondition fails with unsupported | ⟨_, _, rfl⟩
    · exact ⟨before, condition, after, split, unsupported.1, earlier⟩
    · simp [CompileError.isUnsupported] at absorbed
  · rintro ⟨before, condition, after, split, unsupported, earlier⟩
    rcases CompiledCondition.fails_ofCondition_iff.mpr (.inl unsupported) with ⟨error, fails⟩
    refine ⟨error, ⟨before, condition, after, split, fails, earlier⟩, ?_⟩
    rcases CompiledCondition.error_of_ofCondition fails with absorbed | ⟨supported, _, _⟩
    · exact absorbed.2
    · exact absurd unsupported supported

theorem ofConditions_eq_error_iff_malformed {conditions : List Condition} {error : CompileError} :
    ofConditions conditions = .error error ↔
      ∃ before condition after, conditions = before ++ condition :: after ∧
        ¬condition.Unsupported ∧ condition.Malformed ∧
        error = .invalidPartitions (.invalidTotal (Partition.total condition.partitions)) ∧
        ∀ earlier ∈ before, ¬earlier.Unsupported ∧ ¬earlier.Malformed := by
  rw [ofConditions_eq_error_iff, CompiledRules.ofConditions_eq_error_iff]
  constructor
  · rintro ⟨⟨before, condition, after, split, fails, earlier⟩, returned⟩
    rcases CompiledCondition.error_of_ofCondition fails with absorbed | ⟨supported, malformed, same⟩
    · simp [returned] at absorbed
    · exact ⟨before, condition, after, split, supported, malformed, same, earlier⟩
  · rintro ⟨before, condition, after, split, supported, malformed, rfl, earlier⟩
    refine ⟨⟨before, condition, after, split, ?_, earlier⟩, rfl⟩
    rcases CompiledCondition.fails_ofCondition_iff.mpr (.inr malformed) with ⟨error, fails⟩
    rcases CompiledCondition.error_of_ofCondition fails with absorbed | ⟨_, _, rfl⟩
    · exact absurd absorbed.1 supported
    · exact fails

/-- In every order, the rules are unsupported exactly if some condition is, and if no condition is
only malformed. -/
theorem failsSafe_perm_iff {conditions : List Condition} :
    (∀ order : List Condition, order.Perm conditions → FailsSafe (ofConditions order)) ↔
      (∃ condition ∈ conditions, condition.Unsupported) ∧
        ∀ condition ∈ conditions, condition.Malformed → condition.Unsupported := by
  constructor
  · intro failsSafe
    constructor
    · rcases failsSafe_ofConditions_iff.mp (failsSafe conditions (.refl _)) with
        ⟨before, condition, after, rfl, unsupported, _⟩
      exact ⟨condition, by simp, unsupported⟩
    · intro condition member malformed
      by_contra supported
      -- With this condition in front, compiling stops right there.
      have first := failsSafe _ (List.perm_cons_erase member).symm
      have fails := ofConditions_eq_error_iff_malformed.mpr
        ⟨[], condition, conditions.erase condition, rfl, supported, malformed, rfl, by simp⟩
      cases (failsSafe_iff.mp first).symm.trans fails
  · rintro ⟨⟨condition, member, unsupported⟩, absorbs⟩ order perm
    have failing : Outcome.Fails (CompiledRules.ofConditions order) := by
      rw [CompiledRules.ofConditions, Outcome.fails_map_iff, Outcome.fails_mapM_iff]
      refine ⟨condition, perm.mem_iff.mpr member, ?_⟩
      exact CompiledCondition.fails_ofCondition_iff.mpr (.inl unsupported)
    rcases failing with ⟨error, fails⟩
    rcases CompiledRules.ofConditions_eq_error_iff.mp fails with
      ⟨before, first, after, split, fails, earlier⟩
    refine failsSafe_ofConditions_iff.mpr ⟨before, first, after, split, ?_, earlier⟩
    rcases CompiledCondition.fails_ofCondition_iff.mp ⟨error, fails⟩ with unsupported | malformed
    · exact unsupported
    · apply absorbs first _ malformed
      rw [← perm.mem_iff, split]
      simp

/-- Rules with an unsupported matcher decide for control whatever they are asked, unless compiling
comes to a condition first that is only malformed, and fails there. Conditions after the first one
with such a matcher make no difference. The order makes none exactly if every malformed condition
has an unsupported matcher too. -/
theorem first_defect_decides (conditions : List Condition) :
    (FailsSafe (ofConditions conditions) ↔
      ∃ before condition after, conditions = before ++ condition :: after ∧
        condition.Unsupported ∧ ∀ earlier ∈ before, ¬earlier.Unsupported ∧ ¬earlier.Malformed) ∧
    (∀ error, ofConditions conditions = .error error ↔
      ∃ before condition after, conditions = before ++ condition :: after ∧
        ¬condition.Unsupported ∧ condition.Malformed ∧
        error = .invalidPartitions (.invalidTotal (Partition.total condition.partitions)) ∧
        ∀ earlier ∈ before, ¬earlier.Unsupported ∧ ¬earlier.Malformed) ∧
    ((∀ order : List Condition, order.Perm conditions → FailsSafe (ofConditions order)) ↔
      (∃ condition ∈ conditions, condition.Unsupported) ∧
        ∀ condition ∈ conditions, condition.Malformed → condition.Unsupported) :=
  ⟨failsSafe_ofConditions_iff, fun _ => ofConditions_eq_error_iff_malformed, failsSafe_perm_iff⟩

end Rules

end

namespace Rules

/-- Every key, half of the buckets. -/
def halfShared : Condition where
  kind := .rollout
  matchers := [{ kindName := "ALL_KEYS" }]
  partitions := [⟨"on", 50⟩]
  label := ""

/-- A matcher of an unknown kind. -/
def geofenced : Condition where
  kind := .rollout
  matchers := [{ kindName := "IN_GEOFENCE" }]
  partitions := [⟨"off", 100⟩]
  label := ""

theorem unsupported_not_enough :
    ¬∀ conditions : List Condition, (∃ condition ∈ conditions, condition.Unsupported) →
      FailsSafe (ofConditions conditions) := by
  intro failsSafe
  have unsupported : geofenced.Unsupported :=
    ⟨_, List.mem_singleton_self _, .unknownKind (by decide)⟩
  have safe := failsSafe [halfShared, geofenced] ⟨geofenced, by simp, unsupported⟩
  have fails : ofConditions [halfShared, geofenced] =
      .error (.invalidPartitions (.invalidTotal 50)) := rfl
  cases (failsSafe_iff.mp safe).symm.trans fails

end Rules

end Targeting
