import Mathlib.Logic.Relation
import Targeting.Proofs.Compilation
import Targeting.Proofs.Congruence

/-!
# Queries of definitions

Which queries a definition leads to can be read off the definition: a segment matcher leads to its
segment, a dependency matcher and a prerequisite to another flag, an exclusion to the excluded
segment. So can the attributes that it compares. Compiling adds nothing to either, and contexts that
agree on both give a definition the same result. `Storage.Leads` is the graph that the stored
definitions form, and may have cycles.
-/

namespace Targeting

variable {congruence : Lookup.Congruence Call} {left right : Context}

namespace MatcherDefinition

/-- The attribute that a matcher compares, if it does not compare the key. -/
def attribute? (definition : MatcherDefinition) : Option String :=
  definition.keySelector.bind (·.attribute?)

/-- The query that a matcher leads to, apart from the key. -/
def query? (definition : MatcherDefinition) : Option Query :=
  match MatcherKind.ofName? definition.kindName with
  | some .inSegment => definition.segment.map .segment
  | some .inLargeSegment => definition.largeSegment.map .largeSegment
  | some .inRuleBasedSegment => definition.segment.map .ruleBased
  | some .inSplitTreatment => definition.dependency.map fun payload => .flag payload.flag
  | _ => none

end MatcherDefinition

namespace Matcher

/-- A matcher looks at no attribute but its own. -/
theorem value?_congr {matcher : Matcher} {key : Key} {attributes attributes' : Attributes}
    (agree : ∀ name ∈ matcher.attribute?, attributes.lookup name = attributes'.lookup name) :
    matcher.value? key attributes = matcher.value? key attributes' := by
  unfold value?
  rcases selected : matcher.attribute? with _ | name
  · rfl
  · simp only [agree name selected]

/-- The query that a matcher in normal form leads to. -/
def query? (matcher : Matcher) : Option Query :=
  match matcher.kind, matcher.operand with
  | .inSegment, .segment name => some (.segment name)
  | .inLargeSegment, .segment name => some (.largeSegment name)
  | .inRuleBasedSegment, .segment name => some (.ruleBased name)
  | .inSplitTreatment, .dependency flag _ => some (.flag flag)
  | _, _ => none

theorem query?_of_ofDefinition {definition : MatcherDefinition} {matcher : Matcher}
    (normalizes : Matcher.ofDefinition definition = .ok matcher) :
    matcher.query? = definition.query? := by
  rcases ofDefinition_eq_ok_iff.mp normalizes with ⟨named, found, _, _⟩
  rcases matcher with ⟨kind, operand, _, _, _⟩
  unfold MatcherDefinition.query?
  rw [named]
  -- The payload of a kind without a query is of no interest.
  cases kind
  case inSegment | inLargeSegment | inRuleBasedSegment | inSplitTreatment =>
    rcases Outcome.map_eq_ok_iff.mp found with ⟨value, present, same⟩
    cases same
    simp [query?, need_eq_ok_iff.mp present]
  all_goals simp [query?]

end Matcher

/-- Two contexts of one key that are alike in some queries and in some attributes. -/
structure Context.AlikeIn (congruence : Lookup.Congruence Call) (queries : List Query)
    (attributes : List String) (left right : Context) : Prop where
  key : left.key = right.key
  attributes : ∀ name ∈ attributes, left.attributes.lookup name = right.attributes.lookup name
  surroundings : ∀ query ∈ queries, left.surroundings.Alike congruence right.surroundings query

theorem Context.AlikeIn.mono {queries fewer : List Query} {attributes fewer' : List String}
    (alike : Context.AlikeIn congruence queries attributes left right) (subset : fewer ⊆ queries)
    (subset' : fewer' ⊆ attributes) : Context.AlikeIn congruence fewer fewer' left right where
  key := alike.key
  attributes name compared := alike.attributes name (subset' compared)
  surroundings query asked := alike.surroundings query (subset asked)

section

variable [PatternLanguage]

namespace Predicate

theorem query?_of_ofMatcher {matcher : Matcher} {predicate : Predicate}
    (builds : Predicate.ofMatcher matcher = .ok predicate) :
    predicate.query? = matcher.query? := by
  rcases matcher with ⟨kind, operand, _, _, _⟩
  unfold ofMatcher at builds
  dsimp only at builds
  split at builds
  case h_19 =>
    split at builds
    · cases builds
      rfl
    · cases builds
  case h_20 | h_21 | h_22 =>
    rcases Outcome.map_eq_ok_iff.mp builds with ⟨version, _, rfl⟩
    rfl
  case h_23 =>
    rcases Outcome.bind_eq_ok_iff.mp builds with ⟨first, _, rest⟩
    rcases Outcome.map_eq_ok_iff.mp rest with ⟨last, _, rfl⟩
    rfl
  case h_24 texts =>
    rcases texts with _ | ⟨text, texts⟩
    · cases builds
    · rcases Outcome.map_eq_ok_iff.mp builds with ⟨versions, _, rfl⟩
      rfl
  case h_25 => cases builds
  all_goals
    cases builds
    rfl

end Predicate

theorem CompiledMatcher.query?_of_ofDefinition {definition : MatcherDefinition}
    {compiled : CompiledMatcher}
    (compiles : CompiledMatcher.ofDefinition definition = .ok compiled) :
    compiled.predicate.query? = definition.query? := by
  rcases CompiledMatcher.ofDefinition_eq_ok_iff.mp compiles with ⟨normalizes, prepares⟩
  have normal := Matcher.query?_of_ofDefinition normalizes
  have prepared := Predicate.query?_of_ofMatcher prepares
  exact prepared.trans normal

namespace Condition

/-- The queries that a condition leads to. -/
def queries (condition : Condition) : List Query :=
  condition.matchers.filterMap MatcherDefinition.query?

/-- The attributes that a condition compares. -/
def attributes (condition : Condition) : List String :=
  condition.matchers.filterMap MatcherDefinition.attribute?

end Condition

theorem CompiledGroup.queries_subset {condition : Condition} {group : CompiledGroup}
    (compiles : CompiledGroup.ofDefinitions condition.matchers = .ok group) :
    group.queries ⊆ condition.queries := by
  intro query asked
  rcases List.mem_filterMap.mp asked with ⟨compiled, member, asked⟩
  rcases CompiledGroup.exists_definition compiles member with ⟨definition, defined, built⟩
  rw [CompiledMatcher.query?_of_ofDefinition built] at asked
  exact List.mem_filterMap.mpr ⟨definition, defined, asked⟩

theorem CompiledGroup.related_isMatch_of_condition {condition : Condition} {group : CompiledGroup}
    (compiles : CompiledGroup.ofDefinitions condition.matchers = .ok group)
    (alike : Context.AlikeIn congruence condition.queries condition.attributes left right) :
    congruence.Related Eq (group.isMatch left) (group.isMatch right) := by
  apply related_isMatch
  intro compiled member
  rcases exists_definition compiles member with ⟨definition, defined, built⟩
  have normalizes := (CompiledMatcher.ofDefinition_eq_ok_iff.mp built).1
  have selected := (Matcher.ofDefinition_eq_ok_iff.mp normalizes).2.2.1
  apply CompiledMatcher.related_isMatch
  · rw [alike.key]
    apply Matcher.value?_congr
    intro name compared
    rw [selected] at compared
    exact alike.attributes name (List.mem_filterMap.mpr ⟨definition, defined, compared⟩)
  · intro query asked
    exact alike.surroundings query (queries_subset compiles
      (List.mem_filterMap.mpr ⟨compiled, member, asked⟩))

namespace Flag

/-- The queries that a flag leads to. -/
def queries (flag : Flag) : List Query :=
  flag.prerequisites.map (fun prerequisite => .flag prerequisite.flag) ++
    flag.conditions.flatMap Condition.queries

/-- The attributes that a flag compares. -/
def attributes (flag : Flag) : List String :=
  flag.conditions.flatMap Condition.attributes

end Flag

/-- Every condition that a compiled flag evaluates is compiled from one of the flag. -/
theorem CompiledFlag.exists_condition {flag : Flag} {compiled : CompiledFlag}
    (compiles : CompiledFlag.ofFlag flag = .ok compiled) {condition : CompiledCondition}
    (member : condition ∈ compiled.rules.conditions) :
    ∃ source ∈ flag.conditions, CompiledCondition.ofCondition source = .ok condition := by
  have rulesCompile := CompiledFlag.rules_of_ofFlag compiles
  rcases found : compiled.rules with rules | _
  · rw [found] at rulesCompile member
    exact CompiledRules.exists_condition (Rules.ofConditions_eq_compiled_iff.mp rulesCompile) member
  · rw [found] at member
    simp [Rules.conditions] at member

theorem CompiledFlag.related_evaluateIn_of_flag {flag : Flag} {compiled : CompiledFlag}
    (compiles : CompiledFlag.ofFlag flag = .ok compiled)
    (alike : Context.AlikeIn congruence flag.queries flag.attributes left right) :
    congruence.Related Eq (compiled.evaluateIn left) (compiled.evaluateIn right) := by
  apply related_evaluateIn_of_groups alike.key
  · intro prerequisite member
    rw [CompiledFlag.flag_of_ofFlag compiles] at member
    apply alike.surroundings
    exact List.mem_append_left _ (List.mem_map.mpr ⟨prerequisite, member, rfl⟩)
  · intro condition member
    rcases exists_condition compiles member with ⟨source, stored, built⟩
    apply CompiledGroup.related_isMatch_of_condition
      (CompiledCondition.ofCondition_eq_ok_iff.mp built).1
    apply alike.mono
    · intro query asked
      exact List.mem_append_right _ (List.mem_flatMap_of_mem stored asked)
    · intro name compared
      exact List.mem_flatMap_of_mem stored compared

namespace RuleBasedSegment

/-- The queries that a rule-based segment leads to. -/
def queries (segment : RuleBasedSegment) : List Query :=
  segment.excluded.segments.map ExcludedSegment.query ++
    segment.conditions.flatMap Condition.queries

/-- The attributes that a rule-based segment compares. -/
def attributes (segment : RuleBasedSegment) : List String :=
  segment.conditions.flatMap Condition.attributes

theorem compiledQueries_subset (segment : RuleBasedSegment) :
    segment.compiledQueries ⊆ segment.queries := by
  intro query asked
  rcases List.mem_append.mp asked with excluded | matched
  · exact List.mem_append_left _ excluded
  · apply List.mem_append_right
    rcases compiles : segment.compiledGroups with error | groups
    · simp [compiles] at matched
    · simp only [compiles] at matched
      rcases List.mem_flatMap.mp matched with ⟨group, member, asked⟩
      rcases RuleBasedSegment.exists_condition compiles member with ⟨condition, stored, built⟩
      exact List.mem_flatMap_of_mem stored (CompiledGroup.queries_subset built asked)

theorem related_hasKey_of_segment {segment : RuleBasedSegment}
    (alike : Context.AlikeIn congruence segment.queries segment.attributes left right) :
    congruence.Related Eq (segment.hasKey left) (segment.hasKey right) := by
  apply related_hasKey
  · rw [alike.key]
  · intro excluded member
    apply ExcludedSegment.related_hasKey alike.key
    apply alike.surroundings
    exact List.mem_append_left _ (List.mem_map.mpr ⟨excluded, member, rfl⟩)
  · intro groups compiles group member
    rcases RuleBasedSegment.exists_condition compiles member with ⟨condition, stored, built⟩
    apply CompiledGroup.related_isMatch_of_condition built
    apply alike.mono
    · intro query asked
      exact List.mem_append_right _ (List.mem_flatMap_of_mem stored asked)
    · intro name compared
      exact List.mem_flatMap_of_mem stored compared

end RuleBasedSegment

end

namespace Storage

/-- One query leads to another if the definition that answers it does. -/
inductive Leads (storage : Storage) : Query → Query → Prop where
  | flag {name : String} {flag : Flag} {query : Query}
      (found : (storage.flag name).value = .ok (some flag)) (asked : query ∈ flag.queries) :
      Leads storage (.flag name) query
  | ruleBased {name : String} {segment : RuleBasedSegment} {query : Query}
      (found : (storage.ruleBased name).value = .ok (some segment))
      (asked : query ∈ segment.queries) : Leads storage (.ruleBased name) query

/-- One query leads to another in any number of steps. -/
def Reaches (storage : Storage) : Query → Query → Prop :=
  Relation.ReflTransGen storage.Leads

/-- An attribute is compared by a definition that answers a known query. -/
inductive Compares (storage : Storage) (known : Query → Prop) : String → Prop where
  | flag {name compared : String} {flag : Flag} (queried : known (.flag name))
      (found : (storage.flag name).value = .ok (some flag))
      (compares : compared ∈ flag.attributes) : Compares storage known compared
  | ruleBased {name compared : String} {segment : RuleBasedSegment}
      (queried : known (.ruleBased name))
      (found : (storage.ruleBased name).value = .ok (some segment))
      (compares : compared ∈ segment.attributes) : Compares storage known compared

/-- Two storages give the same answer to a query, whatever the key. -/
def Agrees (left right : Storage) : Query → Prop
  | .flag name => left.flag name = right.flag name
  | .segment name => ∀ key, left.segment name key = right.segment name key
  | .largeSegment name => ∀ key, left.largeSegment name key = right.largeSegment name key
  | .ruleBased name => left.ruleBased name = right.ruleBased name

/-- No query leads back to itself. -/
def Acyclic (storage : Storage) : Prop :=
  ∀ query, ¬Relation.TransGen storage.Leads query query

/-- Every definition is stored under its own name. -/
structure OwnNames (storage : Storage) : Prop where
  flag : ∀ {name flag}, (storage.flag name).value = .ok (some flag) → flag.name = name
  ruleBased : ∀ {name segment},
    (storage.ruleBased name).value = .ok (some segment) → segment.name = name

end Storage

theorem Memory.ownNames (memory : Memory) (availability : Availability) :
    (memory.toStorage availability).OwnNames where
  flag found := Memory.name_of_flag? (Availability.eq_of_answer_ok found)
  ruleBased found := Memory.name_of_ruleBased? (Availability.eq_of_answer_ok found)

end Targeting
