import Targeting.Proofs.Decision

/-!
# Conditions for every key

The predicate for all keys holds for whatever it is asked, but it is only asked about a value. The
value that it compares is the matching part of the key as a text, and an empty text is none. So a
condition with this matcher alone takes in every key but one: a key with an empty matching part
counts as not matching, and is taken in when the matcher is negated.
-/

namespace Targeting

/-- The condition has one matcher, which is for all keys and looks at no attribute. -/
structure Condition.ForAllKeys (condition : Condition) (definition : MatcherDefinition) : Prop where
  only : condition.matchers = [definition]
  kind : definition.kindName = MatcherKind.allKeys.name
  noAttribute : definition.keySelector.bind (·.attribute?) = none

theorem Attribute.toText?_string (text : String) :
    (Attribute.string text).toText? = if text = "" then none else some text := by
  by_cases empty : text = ""
  · simp [toText?, Attribute.text, Option.filter, empty]
  · simp [toText?, Attribute.text, Option.filter, empty]

namespace CompiledMatcher

/-- What a matcher for all keys is compiled to. -/
def allKeys (negate : Bool) : CompiledMatcher where
  matcher :=
    { kind := .allKeys, operand := .none, attribute? := none, negate, valueType := .string }
  predicate := .allKeys

theorem ofDefinition_allKeys [PatternLanguage] {definition : MatcherDefinition}
    (kind : definition.kindName = MatcherKind.allKeys.name)
    (noAttribute : definition.keySelector.bind (·.attribute?) = none) :
    ofDefinition definition = .ok (allKeys definition.negate) := by
  refine ofDefinition_eq_ok_iff.mpr ⟨Matcher.ofDefinition_eq_ok_iff.mpr ⟨?_, rfl, ?_, rfl⟩, rfl⟩
  · rw [kind]
    exact MatcherKind.ofName?_name .allKeys
  · exact noAttribute.symm

theorem holds_allKeys (negate : Bool) (context : Context) :
    (allKeys negate).holds context = .ready (decide (context.key.matching ≠ "")) := by
  have compared : (allKeys negate).matcher.value? context.key context.attributes =
      (Attribute.string context.key.matching).toText?.map .string := by
    simp only [allKeys, Matcher.value?, MatchValue.ofKey?, MatchValue.ofAttribute?, Option.map_map]
    rfl
  unfold holds
  rw [compared, Attribute.toText?_string]
  by_cases empty : context.key.matching = ""
  · simp [empty]
  · rw [if_neg empty]
    simp only [Option.map_some, ne_eq, empty, not_false_eq_true, decide_true]
    rfl

end CompiledMatcher

namespace CompiledCondition

section

variable [PatternLanguage] {condition : Condition} {definition : MatcherDefinition}

theorem exists_of_forAllKeys (forAll : condition.ForAllKeys definition)
    (full : Partition.sum condition.partitions = 100) :
    ∃ compiled, ofCondition condition = .ok compiled := by
  rw [← Outcome.not_fails_iff, fails_ofCondition_iff, not_or]
  constructor
  · rintro ⟨other, member, unsupported⟩
    rw [forAll.only] at member
    cases List.mem_singleton.mp member
    rcases CompiledMatcher.fails_ofDefinition_iff.mpr unsupported with ⟨error, fails⟩
    cases (CompiledMatcher.ofDefinition_allKeys forAll.kind forAll.noAttribute).symm.trans fails
  · exact fun malformed => malformed full

theorem group_of_forAllKeys (forAll : condition.ForAllKeys definition)
    {compiled : CompiledCondition} (compiles : ofCondition condition = .ok compiled) :
    compiled.group = ⟨[.allKeys definition.negate]⟩ := by
  have pairs := CompiledGroup.ofDefinitions_eq_ok_iff.mp (ofCondition_eq_ok_iff.mp compiles).1
  rw [forAll.only] at pairs
  generalize compiled.group = group at pairs ⊢
  rcases group with ⟨matchers⟩
  rcases pairs with _ | ⟨first, _ | _⟩
  have built := CompiledMatcher.ofDefinition_allKeys forAll.kind forAll.noAttribute
  cases built.symm.trans first
  rfl

theorem decision_of_forAllKeys (forAll : condition.ForAllKeys definition)
    {compiled : CompiledCondition} (compiles : ofCondition condition = .ok compiled)
    {allocation : Allocation} {context : Context}
    (inside : ¬condition.LeavesOut allocation context.key) :
    compiled.decision allocation context =
      .ready (if decide (context.key.matching ≠ "") != definition.negate then
        some (compiled.outcome allocation context.key) else none) := by
  have reached : ¬(compiled.kind = .rollout ∧ ¬allocation.allocates context.key.bucketing) := by
    rw [(ofCondition_eq_ok_iff.mp compiles).2.2.1]
    exact mt Condition.leavesOut_iff.mpr inside
  unfold decision
  rw [if_neg reached, group_of_forAllKeys forAll compiles, CompiledGroup.isMatch]
  simp only [List.map_cons, List.map_nil, CompiledMatcher.isMatch, CompiledMatcher.holds_allKeys]
  apply Lookup.ext_of
  · simp [CompiledMatcher.allKeys]
  · simp
  · simp

/-- A condition with nothing but a matcher for all keys gives every key with a matching part a
treatment of its partitions, or none if the matcher is negated. A key with an empty matching part is
the exception: there it is the other way round. -/
theorem allKeys_takes_in_all_but_empty (forAll : condition.ForAllKeys definition)
    (full : Partition.sum condition.partitions = 100) :
    ∃ compiled, ofCondition condition = .ok compiled ∧
      ∀ allocation context, ¬condition.LeavesOut allocation context.key →
        (context.key.matching ≠ "" →
          (definition.negate = false → ∃ evaluation,
            condition.GivesShare (bucket context.key.bucketing allocation.seed) evaluation ∧
              compiled.decision allocation context = .ready (some evaluation)) ∧
          (definition.negate = true → compiled.decision allocation context = .ready none)) ∧
        (context.key.matching = "" →
          (definition.negate = false → compiled.decision allocation context = .ready none) ∧
          (definition.negate = true → ∃ evaluation,
            condition.GivesShare (bucket context.key.bucketing allocation.seed) evaluation ∧
              compiled.decision allocation context = .ready (some evaluation))) := by
  rcases exists_of_forAllKeys forAll full with ⟨compiled, compiles⟩
  refine ⟨compiled, compiles, ?_⟩
  intro allocation context inside
  rw [decision_of_forAllKeys forAll compiles inside]
  have share : condition.GivesShare (bucket context.key.bucketing allocation.seed)
      (compiled.outcome allocation context.key) := (outcome_eq_iff_givesShare compiles).mp rfl
  constructor
  · intro given
    constructor
    · intro plain
      exact ⟨_, share, by simp [given, plain]⟩
    · intro negated
      simp [given, negated]
  · intro empty
    constructor
    · intro plain
      simp [empty, plain]
    · intro negated
      exact ⟨_, share, by simp [empty, negated]⟩

end

/-- Half of the keys get each treatment. -/
def everyone (negate : Bool) : Condition where
  kind := .rollout
  matchers := [{ kindName := "ALL_KEYS", negate }]
  partitions := [⟨"on", 50⟩, ⟨"off", 50⟩]
  label := "in segment all"

theorem forAllKeys_everyone (negate : Bool) :
    (everyone negate).ForAllKeys { kindName := "ALL_KEYS", negate } :=
  ⟨rfl, rfl, rfl⟩

theorem allKeys_takes_in_all_but_empty_everyone :
    (everyone false).ForAllKeys { kindName := "ALL_KEYS" } ∧
      Partition.sum (everyone false).partitions = 100 ∧
      ∃ compiled, ofCondition (everyone false) = .ok compiled ∧
        ∃ evaluation, (everyone false).GivesShare (bucket "alice" 3) evaluation ∧
          compiled.decision ⟨3, none, none⟩ ⟨.ofMatching "alice", [], .unavailable⟩ =
            .ready (some evaluation) := by
  have forAll := forAllKeys_everyone false
  refine ⟨forAll, rfl, ?_⟩
  rcases allKeys_takes_in_all_but_empty forAll rfl with ⟨compiled, compiles, decides⟩
  have inside : ¬(everyone false).LeavesOut ⟨3, none, none⟩ (.ofMatching "alice") := by
    simp [Condition.leavesOut_iff, Allocation.allocates]
  have taken := decides ⟨3, none, none⟩ ⟨.ofMatching "alice", [], .unavailable⟩ inside
  exact ⟨compiled, compiles, (taken.1 (by decide)).1 rfl⟩

theorem empty_key_not_taken_in :
    ¬∀ (condition : Condition) (definition : MatcherDefinition) (compiled : CompiledCondition)
      (allocation : Allocation) (context : Context),
      condition.ForAllKeys definition → Partition.sum condition.partitions = 100 →
      ofCondition condition = .ok compiled → ¬condition.LeavesOut allocation context.key →
        (definition.negate = false → ∃ evaluation,
          condition.GivesShare (bucket context.key.bucketing allocation.seed) evaluation ∧
            (compiled.decision allocation context).value = some evaluation) ∧
        (definition.negate = true → (compiled.decision allocation context).value = none) := by
  intro takesIn
  have inside : ¬(everyone false).LeavesOut ⟨0, none, none⟩ (.ofMatching "") := by
    simp [Condition.leavesOut_iff, Allocation.allocates]
  have taken := takesIn (everyone false) { kindName := "ALL_KEYS" } _ ⟨0, none, none⟩
    ⟨.ofMatching "", [], .unavailable⟩ (forAllKeys_everyone false) rfl rfl inside
  rcases taken.1 rfl with ⟨evaluation, _, decides⟩
  cases decides

end CompiledCondition

end Targeting
