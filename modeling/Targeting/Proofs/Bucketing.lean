import Targeting.Pattern.Standard
import Targeting.Proofs.Locality

/-!
# What the bucketing part of a key has no influence on

Targeting compares the matching part of a key, and percentages look at the bucketing part. A key is
handed on as a whole all the same, from a matcher to a rule-based segment and from there to excluded
segments, at any depth. The only place on the way where its bucketing part can be looked at is a
flag that a matcher depends on.

Two evaluations are compared that have the same surroundings, and keys that share their matching
part. The comparison follows the rules upwards, from a matcher to a segment, and assumes of the
surroundings what `Surroundings.IgnoresBucketing` says. That they are so is an induction on the
names that have not been entered.
-/

namespace Targeting

open Lookup.Congruence

variable {key key' : Key} {attributes : Attributes} {surroundings : Surroundings}

/-- Whether the answer to a query is the same for all keys with the same matching part. Segments and
large segments are asked for nothing but that part. -/
def Surroundings.IgnoresBucketing (surroundings : Surroundings) : Query → Prop
  | .flag name => ∀ key key', key.matching = key'.matching →
      surroundings.evaluation name key = surroundings.evaluation name key'
  | .segment _ => True
  | .largeSegment _ => True
  | .ruleBased name => ∀ key key', key.matching = key'.matching →
      surroundings.inRuleBased name key = surroundings.inRuleBased name key'

/-- A matcher compares a key as a whole or not beyond its matching part. -/
theorem Matcher.value?_of_matching (matcher : Matcher) (attributes : Attributes)
    (matching : key.matching = key'.matching) :
    matcher.value? key attributes = matcher.value? key' attributes ∨
      matcher.value? key attributes = some (.key key) ∧
        matcher.value? key' attributes = some (.key key') := by
  rcases matcher with ⟨kind, operand, _ | name, negate, valueType⟩
  · cases valueType
    case notSpecified => exact .inr ⟨rfl, rfl⟩
    all_goals
      left
      simp only [value?, MatchValue.ofKey?, matching]
  · exact .inl rfl

/-- A predicate hands a key on to its query, or does not look at it. -/
theorem Predicate.holds_key_of_matching {predicate : Predicate}
    (ignores : ∀ query ∈ predicate.query?, surroundings.IgnoresBucketing query)
    (matching : key.matching = key'.matching) :
    predicate.holds (.key key) surroundings = predicate.holds (.key key') surroundings := by
  cases predicate
  case inRuleBasedSegment name => exact ignores (.ruleBased name) rfl key key' matching
  case inSplitTreatment flag treatments =>
    simp only [holds]
    rw [ignores (.flag flag) rfl key key' matching]
  all_goals rfl

theorem CompiledMatcher.isMatch_of_matching {compiled : CompiledMatcher}
    (ignores : ∀ query ∈ compiled.predicate.query?, surroundings.IgnoresBucketing query)
    (matching : key.matching = key'.matching) :
    compiled.isMatch ⟨key, attributes, surroundings⟩ =
      compiled.isMatch ⟨key', attributes, surroundings⟩ := by
  have held : compiled.holds ⟨key, attributes, surroundings⟩ =
      compiled.holds ⟨key', attributes, surroundings⟩ := by
    unfold holds
    dsimp only
    rcases compiled.matcher.value?_of_matching attributes matching with same | ⟨whole, whole'⟩
    · rw [same]
    · rw [whole, whole']
      dsimp only
      rw [Predicate.holds_key_of_matching ignores matching]
  rw [isMatch, isMatch, held]

theorem CompiledGroup.isMatch_of_matching {group : CompiledGroup}
    (ignores : ∀ query ∈ group.queries, surroundings.IgnoresBucketing query)
    (matching : key.matching = key'.matching) :
    group.isMatch ⟨key, attributes, surroundings⟩ =
      group.isMatch ⟨key', attributes, surroundings⟩ := by
  apply related_identical_iff.mp
  apply related_isMatch
  intro compiled member
  rw [related_identical_iff]
  apply CompiledMatcher.isMatch_of_matching _ matching
  intro query asked
  exact ignores query (List.mem_filterMap.mpr ⟨compiled, member, asked⟩)

theorem ExcludedSegment.hasKey_of_matching {segment : ExcludedSegment}
    (ignores : surroundings.IgnoresBucketing segment.query)
    (matching : key.matching = key'.matching) :
    segment.hasKey ⟨key, attributes, surroundings⟩ =
      segment.hasKey ⟨key', attributes, surroundings⟩ := by
  rcases segment with ⟨_ | _ | _, name⟩
  · simp only [hasKey, matching]
  · exact ignores key key' matching
  · simp only [hasKey, matching]

theorem RuleBasedSegment.hasKey_of_matching [PatternLanguage] {segment : RuleBasedSegment}
    (ignores : ∀ query ∈ segment.queries, surroundings.IgnoresBucketing query)
    (matching : key.matching = key'.matching) :
    segment.hasKey ⟨key, attributes, surroundings⟩ =
      segment.hasKey ⟨key', attributes, surroundings⟩ := by
  apply related_identical_iff.mp
  apply related_hasKey
  · exact matching
  · intro excluded member
    rw [related_identical_iff]
    apply ExcludedSegment.hasKey_of_matching _ matching
    exact ignores _ (List.mem_append_left _ (List.mem_map.mpr ⟨excluded, member, rfl⟩))
  · intro groups compiles group member
    rw [related_identical_iff]
    apply CompiledGroup.isMatch_of_matching _ matching
    intro query asked
    rcases RuleBasedSegment.exists_condition compiles member with ⟨condition, stored, built⟩
    have leads := CompiledGroup.queries_subset built asked
    exact ignores query (List.mem_append_right _ (List.mem_flatMap_of_mem stored leads))

/-- A flag can be reached from one of several queries. Other than by a matcher that depends on a
flag there is no way from a segment to a flag. -/
def Storage.ReachesFlag (storage : Storage) (queries : List Query) : Prop :=
  ∃ query ∈ queries, ∃ name, storage.Reaches query (.flag name)

namespace Backend

section

variable [PatternLanguage] {backend : Backend}

/-- Within known queries that nothing leads out of, and without a flag among them, only matching
parts of keys have a meaning. -/
theorem surroundings_ignoreBucketing_of_closed {known entered : Query → Prop}
    (closed : backend.storage.Closed known entered) (noFlag : ∀ name, ¬known (.flag name))
    (stack : Stack) {query : Query} (queried : known query) :
    (backend.surroundings stack).IgnoresBucketing query := by
  cases query with
  | flag name => exact absurd queried (noFlag name)
  | segment name => trivial
  | largeSegment name => trivial
  | ruleBased name =>
      intro key key' matching
      rw [surroundings_eq_layer]
      simp only [layer, Storage.hasKey_eq]
      split
      · rfl
      · next fresh =>
          simp only [Lookup.bind, Lookup.value_ask]
          congr 1
          rcases found : (backend.storage.ruleBased name).value with error | _ | segment
          · rfl
          · rfl
          · have deeper :=
              backend.storage.depth_enterSegment_lt (backend.storage.ruleBased_mem found) fresh
            apply RuleBasedSegment.hasKey_of_matching _ matching
            intro next asked
            exact surroundings_ignoreBucketing_of_closed closed noFlag (stack.enterSegment name)
              (closed.ruleBased queried found next asked)
termination_by backend.storage.depth stack

/-- The surroundings of an evaluation hand the bucketing part of a key on to flags alone. -/
theorem surroundings_ignoreBucketing (backend : Backend) (stack : Stack) {query : Query}
    (noFlag : ∀ name, ¬backend.storage.Reaches query (.flag name)) :
    (backend.surroundings stack).IgnoresBucketing query :=
  surroundings_ignoreBucketing_of_closed (backend.storage.closed_reaches_of_any_name query) noFlag
    stack .refl

theorem ignoreBucketing_of_not_reachesFlag (backend : Backend) (stack : Stack)
    {queries : List Query} (noFlag : ¬backend.storage.ReachesFlag queries) :
    ∀ query ∈ queries, (backend.surroundings stack).IgnoresBucketing query := by
  intro query asked
  apply backend.surroundings_ignoreBucketing stack
  intro name reached
  exact noFlag ⟨query, asked, name, reached⟩

/-- The bucketing part of a key has no influence on targeting. Where no flag can be reached that a
matcher depends on, two keys with the same matching part have the same result, pending or at hand,
after the same calls in the same order: whether a group of matchers matches and whether a rule-based
segment has the key, inside of any evaluations over finitely many definitions. -/
theorem bucketing_has_no_influence (backend : Backend) (stack : Stack)
    (matching : key.matching = key'.matching) :
    (∀ group : CompiledGroup, ¬backend.storage.ReachesFlag group.queries →
      group.isMatch (backend.context stack key) = group.isMatch (backend.context stack key')) ∧
      ∀ segment : RuleBasedSegment, ¬backend.storage.ReachesFlag segment.queries →
        segment.hasKey (backend.context stack key) =
          segment.hasKey (backend.context stack key') := by
  constructor
  · intro group noFlag
    exact CompiledGroup.isMatch_of_matching
      (backend.ignoreBucketing_of_not_reachesFlag stack noFlag) matching
  · intro segment noFlag
    exact RuleBasedSegment.hasKey_of_matching
      (backend.ignoreBucketing_of_not_reachesFlag stack noFlag) matching

end

/-- Tenants of a house, except for those who have moved out. -/
def residents : RuleBasedSegment where
  name := "residents"
  excluded := { segments := [⟨.ruleBased, "moved out"⟩] }
  conditions :=
    [⟨.whitelist, [{ kindName := "IN_SEGMENT", segment := some "tenants" }], [], ""⟩]

/-- Former tenants. -/
def movedOut : RuleBasedSegment where
  name := "moved out"
  conditions :=
    [⟨.whitelist, [{ kindName := "IN_LARGE_SEGMENT", largeSegment := some "archive" }], [], ""⟩]

/-- A house that has to look up its tenants. -/
def house : Backend where
  storage :=
    Memory.toStorage
      { flags := [{ name := "lift" }], ruleBased := [residents, movedOut]
        segments := [("tenants", ["alice", "bob"])] }
      { isPending := fun query => query = .segment "tenants" }

/-- A group of one matcher, for the residents. -/
def mayEnter : CompiledGroup where
  matchers :=
    [{ matcher := ⟨.inRuleBasedSegment, .segment "residents", none, false, .notSpecified⟩
       predicate := .inRuleBasedSegment "residents" }]

/-- What the residents reach. -/
def aroundResidents : List Query :=
  [.ruleBased "residents", .segment "tenants", .ruleBased "moved out", .largeSegment "archive"]

theorem ruleBased_house {name : String} {segment : RuleBasedSegment}
    (queried : .ruleBased name ∈ aroundResidents)
    (found : (house.storage.ruleBased name).value = .ok (some segment)) :
    segment = residents ∨ segment = movedOut := by
  simp only [aroundResidents, List.mem_cons, Query.ruleBased.injEq, reduceCtorEq, List.not_mem_nil,
    or_false, false_or] at queried
  rcases queried with rfl | rfl
  · cases Except.ok.inj found
    exact .inl rfl
  · cases Except.ok.inj found
    exact .inr rfl

theorem closed_house : house.storage.Closed (· ∈ aroundResidents) (fun _ => True) where
  flag queried _ := by simp [aroundResidents] at queried
  segment _ := trivial
  ruleBased queried found := by
    rcases ruleBased_house queried found with rfl | rfl
    · decide
    · decide

theorem not_reachesFlag_house {queries : List Query} (subset : queries ⊆ aroundResidents) :
    ¬house.storage.ReachesFlag queries := by
  rintro ⟨query, asked, name, reached⟩
  have near : .flag name ∈ aroundResidents := closed_house.reaches reached (subset asked)
  simp [aroundResidents] at near

theorem bucketing_has_no_influence_house :
    ¬house.storage.ReachesFlag mayEnter.queries ∧ ¬house.storage.ReachesFlag residents.queries ∧
      mayEnter.isMatch (house.context {} ⟨"alice", some "attic"⟩) =
        mayEnter.isMatch (house.context {} ⟨"alice", some "basement"⟩) ∧
      residents.hasKey (house.context {} ⟨"alice", some "attic"⟩) =
        residents.hasKey (house.context {} ⟨"alice", some "basement"⟩) ∧
      (mayEnter.isMatch (house.context {} ⟨"alice", some "attic"⟩)).value = true ∧
      (mayEnter.isMatch (house.context {} ⟨"alice", some "attic"⟩)).isReady = false := by
  have matching : (⟨"alice", some "attic"⟩ : Key).matching =
      (⟨"alice", some "basement"⟩ : Key).matching := rfl
  have noFlag : ¬house.storage.ReachesFlag mayEnter.queries := not_reachesFlag_house (by decide)
  have noFlag' : ¬house.storage.ReachesFlag residents.queries := not_reachesFlag_house (by decide)
  rcases bucketing_has_no_influence house {} matching with ⟨groups, segments⟩
  refine ⟨noFlag, noFlag', groups mayEnter noFlag, segments residents noFlag', ?_, ?_⟩
  · decide +kernel
  · decide +kernel

end Backend

end Targeting
