import Mathlib.Data.List.Forall2
import Targeting.Flag.Compiled
import Targeting.Segment.Membership

/-!
# Outcomes of compiling

Definitions are compiled part by part, and the first part that fails decides the error. The first
section inverts the ways in which outcomes are put together; the second reads off what the parts of
a compiled definition were compiled from.
-/

namespace Targeting

namespace Outcome

variable {ε ε' α β : Type}

theorem map_eq_ok_iff {transform : α → β} {outcome : Except ε α} {result : β} :
    outcome.map transform = .ok result ↔
      ∃ value, outcome = .ok value ∧ transform value = result := by
  rcases outcome with error | value
  · simp [Except.map]
  · simp [Except.map]

theorem map_eq_error_iff {transform : α → β} {outcome : Except ε α} {error : ε} :
    outcome.map transform = .error error ↔ outcome = .error error := by
  rcases outcome with failure | value
  · simp [Except.map]
  · simp [Except.map]

theorem mapError_eq_ok_iff {transform : ε → ε'} {outcome : Except ε α} {value : α} :
    outcome.mapError transform = .ok value ↔ outcome = .ok value := by
  rcases outcome with error | result
  · simp [Except.mapError]
  · simp [Except.mapError]

theorem mapError_eq_error_iff {transform : ε → ε'} {outcome : Except ε α} {error : ε'} :
    outcome.mapError transform = .error error ↔
      ∃ failure, outcome = .error failure ∧ transform failure = error := by
  rcases outcome with failure | value
  · simp [Except.mapError]
  · simp [Except.mapError]

theorem bind_eq_ok_iff {next : α → Except ε β} {outcome : Except ε α} {result : β} :
    outcome.bind next = .ok result ↔ ∃ value, outcome = .ok value ∧ next value = .ok result := by
  rcases outcome with error | value
  · simp [Except.bind]
  · simp [Except.bind]

theorem bind_eq_error_iff {next : α → Except ε β} {outcome : Except ε α} {error : ε} :
    outcome.bind next = .error error ↔
      outcome = .error error ∨ ∃ value, outcome = .ok value ∧ next value = .error error := by
  rcases outcome with failure | value
  · simp [Except.bind]
  · simp [Except.bind]

theorem mapM_cons_eq (compile : α → Except ε β) (part : α) (rest : List α) :
    (part :: rest).mapM compile =
      (compile part).bind fun result => (rest.mapM compile).map (result :: ·) := by
  rw [List.mapM_cons]
  rcases compile part with error | result
  · rfl
  · rcases rest.mapM compile with error | results
    · rfl
    · rfl

theorem mapM_eq_ok_iff {compile : α → Except ε β} {parts : List α} {results : List β} :
    parts.mapM compile = .ok results ↔
      List.Forall₂ (fun part result => compile part = .ok result) parts results := by
  induction parts generalizing results with
  | nil =>
      constructor
      · intro compiles
        cases compiles
        exact .nil
      · rintro ⟨⟩
        rfl
  | cons part rest ih =>
      simp only [mapM_cons_eq, bind_eq_ok_iff, map_eq_ok_iff, ih]
      constructor
      · rintro ⟨result, first, later, compiled, rfl⟩
        exact .cons first compiled
      · rintro ⟨⟩
        next result later first compiled => exact ⟨result, first, later, compiled, rfl⟩

/-- The first part that fails decides the error. -/
theorem mapM_eq_error_iff {compile : α → Except ε β} {parts : List α} {error : ε} :
    parts.mapM compile = .error error ↔
      ∃ before part after, parts = before ++ part :: after ∧ compile part = .error error ∧
        ∀ earlier ∈ before, ∃ result, compile earlier = .ok result := by
  induction parts with
  | nil => simp [pure, Except.pure]
  | cons first rest ih =>
      simp only [mapM_cons_eq, bind_eq_error_iff, map_eq_error_iff, ih]
      constructor
      · rintro (fails | ⟨result, compiled, before, part, after, rfl, fails, earlier⟩)
        · exact ⟨[], first, rest, rfl, fails, by simp⟩
        · refine ⟨first :: before, part, after, rfl, fails, ?_⟩
          intro other member
          rcases List.mem_cons.mp member with rfl | inBefore
          · exact ⟨result, compiled⟩
          · exact earlier other inBefore
      · rintro ⟨before, part, after, split, fails, earlier⟩
        rcases before with _ | ⟨head, before⟩
        · simp only [List.nil_append, List.cons.injEq] at split
          exact .inl (split.1 ▸ fails)
        · simp only [List.cons_append, List.cons.injEq] at split
          rcases split with ⟨rfl, rfl⟩
          rcases earlier first List.mem_cons_self with ⟨result, compiled⟩
          refine .inr ⟨result, compiled, before, part, after, rfl, fails, ?_⟩
          intro other member
          exact earlier other (List.mem_cons_of_mem first member)

/-- Every result comes from a part. -/
theorem exists_mem_of_mapM_eq_ok {compile : α → Except ε β} {parts : List α} {results : List β}
    (compiles : parts.mapM compile = .ok results) {result : β} (member : result ∈ results) :
    ∃ part ∈ parts, compile part = .ok result := by
  have pairs := mapM_eq_ok_iff.mp compiles
  induction pairs with
  | nil => simp at member
  | cons first later ih =>
      rcases List.mem_cons.mp member with rfl | inside
      · exact ⟨_, List.mem_cons_self, first⟩
      · rcases ih (mapM_eq_ok_iff.mpr later) inside with ⟨part, found, compiled⟩
        exact ⟨part, List.mem_cons_of_mem _ found, compiled⟩

theorem mem_iff_of_mapM_eq_ok {compile : α → Except ε β} {parts : List α} {results : List β}
    (compiles : parts.mapM compile = .ok results) {result : β} :
    result ∈ results ↔ ∃ part ∈ parts, compile part = .ok result := by
  constructor
  · exact exists_mem_of_mapM_eq_ok compiles
  · rintro ⟨part, found, compiled⟩
    have pairs := mapM_eq_ok_iff.mp compiles
    clear compiles
    induction pairs with
    | nil => cases found
    | cons first later ih =>
        rcases List.mem_cons.mp found with rfl | inside
        · cases first.symm.trans compiled
          exact List.mem_cons_self
        · exact List.mem_cons_of_mem _ (ih inside)

/-- An outcome without a result. -/
def Fails (outcome : Except ε α) : Prop := ∃ error, outcome = .error error

theorem not_fails_iff {outcome : Except ε α} :
    ¬Fails outcome ↔ ∃ result, outcome = .ok result := by
  rcases outcome with error | result
  · simp [Fails]
  · simp [Fails]

@[simp]
theorem fails_error (error : ε) : Fails (.error error : Except ε α) := ⟨error, rfl⟩

@[simp]
theorem not_fails_ok (value : α) : ¬Fails (.ok value : Except ε α) := by
  simp [Fails]

@[simp]
theorem fails_map_iff {transform : α → β} {outcome : Except ε α} :
    Fails (outcome.map transform) ↔ Fails outcome := by
  simp only [Fails, map_eq_error_iff]

@[simp]
theorem fails_mapError_iff {transform : ε → ε'} {outcome : Except ε α} :
    Fails (outcome.mapError transform) ↔ Fails outcome := by
  rcases outcome with error | value
  · simp [Except.mapError]
  · simp [Except.mapError]

theorem fails_bind_iff {next : α → Except ε β} {outcome : Except ε α} :
    Fails (outcome.bind next) ↔
      Fails outcome ∨ ∃ value, outcome = .ok value ∧ Fails (next value) := by
  rcases outcome with error | value
  · simp [Except.bind]
  · simp [Except.bind]

/-- Two outcomes that do not depend on each other. -/
@[simp]
theorem fails_bind_map_iff {γ : Type} {first : Except ε α} {second : Except ε β}
    {combine : α → β → γ} :
    Fails (first.bind fun value => second.map (combine value)) ↔ Fails first ∨ Fails second := by
  rcases first with error | value
  · simp [Except.bind]
  · simp [Except.bind]

theorem fails_mapM_iff {compile : α → Except ε β} {parts : List α} :
    Fails (parts.mapM compile) ↔ ∃ part ∈ parts, Fails (compile part) := by
  induction parts with
  | nil => simp [pure, Except.pure]
  | cons part rest ih =>
      simp only [mapM_cons_eq, fails_bind_map_iff, ih, List.exists_mem_cons_iff]

end Outcome

namespace Matcher

variable {α : Type} {kind : MatcherKind} {field : String} {payload : Option α}

theorem need_eq_ok_iff {value : α} :
    need kind field payload = .ok value ↔ payload = some value := by
  rcases payload with _ | found
  · simp [need]
  · simp [need]

@[simp]
theorem fails_need_iff :
    Outcome.Fails (need kind field payload) ↔ payload.isSome = false := by
  rcases payload with _ | found
  · simp [need]
  · simp [need]

end Matcher

theorem Matcher.ofDefinition_eq_ok_iff {definition : MatcherDefinition} {matcher : Matcher} :
    Matcher.ofDefinition definition = .ok matcher ↔
      MatcherKind.ofName? definition.kindName = some matcher.kind ∧
        Matcher.payload definition matcher.kind = .ok (matcher.operand, matcher.valueType) ∧
        matcher.attribute? = definition.keySelector.bind (·.attribute?) ∧
        matcher.negate = definition.negate := by
  unfold Matcher.ofDefinition
  rcases MatcherKind.ofName? definition.kindName with _ | kind
  · simp
  · simp only [Outcome.map_eq_ok_iff, Option.some.injEq]
    constructor
    · rintro ⟨payload, found, rfl⟩
      exact ⟨rfl, found, rfl, rfl⟩
    · rintro ⟨rfl, found, selected, negated⟩
      refine ⟨_, found, ?_⟩
      rw [← selected, ← negated]

variable [PatternLanguage]

namespace Predicate

/-- The kind of matchers that a predicate is prepared for. -/
def kind : Predicate → MatcherKind
  | allKeys => .allKeys
  | inSegment _ => .inSegment
  | inLargeSegment _ => .inLargeSegment
  | inRuleBasedSegment _ => .inRuleBasedSegment
  | whitelist _ => .whitelist
  | equalTo _ => .equalTo
  | greaterThanOrEqualTo _ => .greaterThanOrEqualTo
  | lessThanOrEqualTo _ => .lessThanOrEqualTo
  | between _ _ => .between
  | equalToSet _ => .equalToSet
  | containsAnyOfSet _ => .containsAnyOfSet
  | containsAllOfSet _ => .containsAllOfSet
  | partOfSet _ => .partOfSet
  | startsWith _ => .startsWith
  | endsWith _ => .endsWith
  | containsString _ => .containsString
  | inSplitTreatment _ _ => .inSplitTreatment
  | equalToBoolean _ => .equalToBoolean
  | matchesString _ => .matchesString
  | equalToSemver _ => .equalToSemver
  | greaterThanOrEqualToSemver _ => .greaterThanOrEqualToSemver
  | lessThanOrEqualToSemver _ => .lessThanOrEqualToSemver
  | betweenSemver _ _ => .betweenSemver
  | inListSemver _ => .inListSemver

theorem kind_of_ofMatcher {matcher : Matcher} {predicate : Predicate}
    (prepares : ofMatcher matcher = .ok predicate) : predicate.kind = matcher.kind := by
  rcases matcher with ⟨kind, operand, _, _, _⟩
  unfold ofMatcher at prepares
  dsimp only at prepares
  split at prepares
  case h_19 =>
    split at prepares
    · cases prepares
      rfl
    · cases prepares
  case h_20 | h_21 | h_22 =>
    rcases Outcome.map_eq_ok_iff.mp prepares with ⟨version, _, rfl⟩
    rfl
  case h_23 =>
    rcases Outcome.bind_eq_ok_iff.mp prepares with ⟨first, _, rest⟩
    rcases Outcome.map_eq_ok_iff.mp rest with ⟨last, _, rfl⟩
    rfl
  case h_24 texts =>
    rcases texts with _ | ⟨text, texts⟩
    · cases prepares
    · rcases Outcome.map_eq_ok_iff.mp prepares with ⟨versions, _, rfl⟩
      rfl
  case h_25 => cases prepares
  all_goals
    cases prepares
    rfl

end Predicate

theorem CompiledMatcher.ofDefinition_eq_ok_iff {definition : MatcherDefinition}
    {compiled : CompiledMatcher} :
    CompiledMatcher.ofDefinition definition = .ok compiled ↔
      Matcher.ofDefinition definition = .ok compiled.matcher ∧
        Predicate.ofMatcher compiled.matcher = .ok compiled.predicate := by
  rw [CompiledMatcher.ofDefinition, Outcome.bind_eq_ok_iff]
  simp only [Outcome.mapError_eq_ok_iff, Outcome.map_eq_ok_iff]
  constructor
  · rintro ⟨matcher, normalizes, predicate, prepares, rfl⟩
    exact ⟨normalizes, prepares⟩
  · rintro ⟨normalizes, prepares⟩
    exact ⟨_, normalizes, _, prepares, rfl⟩

theorem CompiledGroup.ofDefinitions_eq_ok_iff {definitions : List MatcherDefinition}
    {group : CompiledGroup} :
    CompiledGroup.ofDefinitions definitions = .ok group ↔
      List.Forall₂
        (fun definition compiled => CompiledMatcher.ofDefinition definition = .ok compiled)
        definitions group.matchers := by
  simp only [CompiledGroup.ofDefinitions, Outcome.map_eq_ok_iff, Outcome.mapM_eq_ok_iff]
  constructor
  · rintro ⟨matchers, pairs, rfl⟩
    exact pairs
  · intro pairs
    exact ⟨group.matchers, pairs, rfl⟩

theorem CompiledGroup.exists_definition {definitions : List MatcherDefinition}
    {group : CompiledGroup} (compiles : CompiledGroup.ofDefinitions definitions = .ok group)
    {compiled : CompiledMatcher} (member : compiled ∈ group.matchers) :
    ∃ definition ∈ definitions, CompiledMatcher.ofDefinition definition = .ok compiled := by
  rcases Outcome.map_eq_ok_iff.mp compiles with ⟨matchers, parts, rfl⟩
  exact Outcome.exists_mem_of_mapM_eq_ok parts member

theorem CompiledCondition.ofCondition_eq_ok_iff {condition : Condition}
    {compiled : CompiledCondition} :
    CompiledCondition.ofCondition condition = .ok compiled ↔
      CompiledGroup.ofDefinitions condition.matchers = .ok compiled.group ∧
        PartitionTable.ofPartitions condition.partitions = .ok compiled.table ∧
        compiled.kind = condition.kind ∧ compiled.label = condition.label := by
  rw [CompiledCondition.ofCondition, Outcome.bind_eq_ok_iff]
  simp only [Outcome.mapError_eq_ok_iff, Outcome.map_eq_ok_iff]
  constructor
  · rintro ⟨group, groupCompiles, table, tableCompiles, rfl⟩
    exact ⟨groupCompiles, tableCompiles, rfl, rfl⟩
  · rintro ⟨groupCompiles, tableCompiles, kind, label⟩
    refine ⟨_, groupCompiles, _, tableCompiles, ?_⟩
    rw [← kind, ← label]

theorem CompiledRules.ofConditions_eq_ok_iff {conditions : List Condition}
    {rules : CompiledRules} :
    CompiledRules.ofConditions conditions = .ok rules ↔
      List.Forall₂
        (fun condition compiled => CompiledCondition.ofCondition condition = .ok compiled)
        conditions rules.conditions := by
  simp only [CompiledRules.ofConditions, Outcome.map_eq_ok_iff, Outcome.mapM_eq_ok_iff]
  constructor
  · rintro ⟨compiled, pairs, rfl⟩
    exact pairs
  · intro pairs
    exact ⟨rules.conditions, pairs, rfl⟩

theorem CompiledRules.exists_condition {conditions : List Condition} {rules : CompiledRules}
    (compiles : CompiledRules.ofConditions conditions = .ok rules) {compiled : CompiledCondition}
    (member : compiled ∈ rules.conditions) :
    ∃ condition ∈ conditions, CompiledCondition.ofCondition condition = .ok compiled := by
  rcases Outcome.map_eq_ok_iff.mp compiles with ⟨results, parts, rfl⟩
  exact Outcome.exists_mem_of_mapM_eq_ok parts member

theorem CompiledRules.exists_compiled {conditions : List Condition} {rules : CompiledRules}
    (compiles : CompiledRules.ofConditions conditions = .ok rules) {condition : Condition}
    (member : condition ∈ conditions) :
    ∃ compiled, CompiledCondition.ofCondition condition = .ok compiled := by
  rcases Outcome.map_eq_ok_iff.mp compiles with ⟨results, parts, _⟩
  rw [← Outcome.not_fails_iff]
  intro fails
  exact Outcome.not_fails_iff.mpr ⟨results, parts⟩ (Outcome.fails_mapM_iff.mpr ⟨_, member, fails⟩)

theorem Rules.ofConditions_eq_compiled_iff {conditions : List Condition} {rules : CompiledRules} :
    Rules.ofConditions conditions = .ok (.compiled rules) ↔
      CompiledRules.ofConditions conditions = .ok rules := by
  unfold Rules.ofConditions
  rcases CompiledRules.ofConditions conditions with error | found
  · simp only [reduceCtorEq, iff_false]
    split
    · simp
    · simp
  · simp

theorem RuleBasedSegment.exists_condition {segment : RuleBasedSegment}
    {groups : List CompiledGroup} (compiles : segment.compiledGroups = .ok groups)
    {group : CompiledGroup} (member : group ∈ groups) :
    ∃ condition ∈ segment.conditions,
      CompiledGroup.ofDefinitions condition.matchers = .ok group :=
  Outcome.exists_mem_of_mapM_eq_ok compiles member

namespace CompiledFlag

theorem flag_of_ofFlag {flag : Flag} {compiled : CompiledFlag}
    (compiles : CompiledFlag.ofFlag flag = .ok compiled) : compiled.flag = flag := by
  rcases Outcome.map_eq_ok_iff.mp compiles with ⟨rules, _, rfl⟩
  rfl

theorem rules_of_ofFlag {flag : Flag} {compiled : CompiledFlag}
    (compiles : CompiledFlag.ofFlag flag = .ok compiled) :
    Rules.ofConditions flag.conditions = .ok compiled.rules := by
  rcases Outcome.map_eq_ok_iff.mp compiles with ⟨rules, rulesCompile, rfl⟩
  exact rulesCompile

end CompiledFlag

end Targeting
