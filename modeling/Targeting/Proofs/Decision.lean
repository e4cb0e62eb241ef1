import Mathlib.Logic.Basic
import Targeting.Proofs.Congruence
import Targeting.Proofs.Support

/-!
# What rules decide

The meaning of rules, read off the conditions as they are defined. Conditions are gone through in
order, and the first that decides does so for all of them. A rollout condition decides at once about
a key outside the traffic allocation; beyond that, a condition decides if all of its matchers match,
and then gives the treatment of the partition that has the key's bucket.

Compiled rules look at compiled conditions, may have to wait for answers, and go on past a pending
condition. None of this makes a difference to the value that they settle to: it is the one that
`Condition.FirstDecides` describes.
-/

namespace Targeting

/-- Surroundings in which every question stays pending and fails in the end. -/
def Surroundings.unavailable : Surroundings where
  inSegment name key :=
    .ask (.segment name key) (.pending (.error (.storage (.backend "unavailable"))))
  inLargeSegment name key :=
    .ask (.largeSegment name key) (.pending (.error (.storage (.backend "unavailable"))))
  inRuleBased name _ :=
    .ask (.ruleBased name) (.pending (.error (.storage (.backend "unavailable"))))
  evaluation name _ := .ask (.flag name) (.pending (.ofControl Label.exception))

namespace CompiledMatcher

theorem value_holds_iff {compiled : CompiledMatcher} {context : Context} :
    (compiled.holds context).value = true ↔
      ∃ value, compiled.matcher.value? context.key context.attributes = some value ∧
        (compiled.predicate.holds value context.surroundings).value = .ok true := by
  unfold holds
  rcases compiled.matcher.value? context.key context.attributes with _ | value
  · simp
  · rcases answer : (compiled.predicate.holds value context.surroundings).value with error | held
    · simp [answer, Except.toOption]
    · simp [answer, Except.toOption]

end CompiledMatcher

namespace Condition

/-- A rollout condition leaves out the keys whose bucket, under the seed for traffic, is beyond the
part of the traffic that is taken in. -/
def LeavesOut (condition : Condition) (allocation : Allocation) (key : Key) : Prop :=
  condition.kind = .rollout ∧
    (allocation.traffic?.getD 100).toNat < bucket key.bucketing (allocation.trafficSeed?.getD 0)

theorem leavesOut_iff {condition : Condition} {allocation : Allocation} {key : Key} :
    condition.LeavesOut allocation key ↔
      condition.kind = .rollout ∧ ¬allocation.allocates key.bucketing := by
  -- No bucket is beyond all of the traffic.
  have within := bucket_le key.bucketing (allocation.trafficSeed?.getD 0)
  refine and_congr_right fun _ => ?_
  simp only [Allocation.allocates, Bool.or_eq_true, decide_eq_true_eq]
  omega

/-- An evaluation has the treatment of the partition that a bucket belongs to, and the label of the
condition. -/
def GivesShare (condition : Condition) (bucket : Nat) (evaluation : Evaluation) : Prop :=
  ∃ index partition, Partition.Owns condition.partitions index bucket ∧
    condition.partitions[index]? = some partition ∧
    evaluation = .ofTreatment partition.treatment condition.label

end Condition

section

variable [PatternLanguage]

namespace MatcherDefinition

/-- The predicate of a definition holds for the value that the definition compares. There may be no
such value, and asking the predicate may fail. -/
def Holds (definition : MatcherDefinition) (context : Context) : Prop :=
  ∃ matcher predicate value,
    Matcher.ofDefinition definition = .ok matcher ∧
      Predicate.ofMatcher matcher = .ok predicate ∧
      matcher.value? context.key context.attributes = some value ∧
      (predicate.holds value context.surroundings).value = .ok true

/-- Negation is applied last, also to a value that is missing and to a failure. -/
def Matches (definition : MatcherDefinition) (context : Context) : Prop :=
  Xor (definition.Holds context) (definition.negate = true)

end MatcherDefinition

namespace CompiledMatcher

theorem value_isMatch_iff {definition : MatcherDefinition} {compiled : CompiledMatcher}
    (compiles : ofDefinition definition = .ok compiled) {context : Context} :
    (compiled.isMatch context).value = true ↔ definition.Matches context := by
  rcases ofDefinition_eq_ok_iff.mp compiles with ⟨normalizes, prepares⟩
  have negated := (Matcher.ofDefinition_eq_ok_iff.mp normalizes).2.2.2
  have holds : (compiled.holds context).value = true ↔ definition.Holds context := by
    rw [value_holds_iff]
    constructor
    · rintro ⟨value, compared, held⟩
      exact ⟨_, _, value, normalizes, prepares, compared, held⟩
    · rintro ⟨matcher, predicate, value, normal, prepared, compared, held⟩
      cases normalizes.symm.trans normal
      cases prepares.symm.trans prepared
      exact ⟨value, compared, held⟩
  rw [MatcherDefinition.Matches, ← holds, ← negated, isMatch, Lookup.value_map, bne_iff_ne, ne_eq,
    Bool.eq_iff_iff, xor_iff_not_iff]

end CompiledMatcher

theorem CompiledGroup.value_isMatch_iff {definitions : List MatcherDefinition}
    {group : CompiledGroup} (compiles : CompiledGroup.ofDefinitions definitions = .ok group)
    {context : Context} :
    (group.isMatch context).value = true ↔
      ∀ definition ∈ definitions, definition.Matches context := by
  have pairs := ofDefinitions_eq_ok_iff.mp compiles
  rcases group with ⟨matchers⟩
  clear compiles
  rw [isMatch, Lookup.value_conjunction, List.all_map]
  dsimp only at pairs ⊢
  induction pairs with
  | nil => simp
  | cons first later ih =>
      simp only [List.all_cons, Function.comp_apply, Bool.and_eq_true, List.forall_mem_cons, ih,
        CompiledMatcher.value_isMatch_iff first]

namespace Condition

/-- What a condition decides. -/
inductive Decides (allocation : Allocation) (context : Context) (condition : Condition) :
    Evaluation → Prop where
  | leftOut (outside : condition.LeavesOut allocation context.key) :
      Decides allocation context condition .notInSplit
  | share {evaluation : Evaluation} (inside : ¬condition.LeavesOut allocation context.key)
      (allMatch : ∀ definition ∈ condition.matchers, definition.Matches context)
      (share : condition.GivesShare (bucket context.key.bucketing allocation.seed) evaluation) :
      Decides allocation context condition evaluation

/-- What the first of several conditions decides that decides at all. -/
inductive FirstDecides (allocation : Allocation) (context : Context) :
    List Condition → Option Evaluation → Prop where
  | exhausted : FirstDecides allocation context [] none
  | decides {condition : Condition} {rest : List Condition} {evaluation : Evaluation}
      (decides : condition.Decides allocation context evaluation) :
      FirstDecides allocation context (condition :: rest) (some evaluation)
  | abstains {condition : Condition} {rest : List Condition} {decision : Option Evaluation}
      (abstains : ∀ evaluation, ¬condition.Decides allocation context evaluation)
      (later : FirstDecides allocation context rest decision) :
      FirstDecides allocation context (condition :: rest) decision

end Condition

namespace CompiledCondition

variable {condition : Condition} {compiled : CompiledCondition}

theorem exists_treatment (compiles : ofCondition condition = .ok compiled)
    (allocation : Allocation) (key : Key) :
    ∃ partition,
      Partition.Owns condition.partitions (compiled.table.position
        (bucket key.bucketing allocation.seed)) (bucket key.bucketing allocation.seed) ∧
      condition.partitions[compiled.table.position (bucket key.bucketing allocation.seed)]? =
        some partition ∧
      compiled.table.treatment (bucket key.bucketing allocation.seed) =
        .ok partition.treatment := by
  have table := (ofCondition_eq_ok_iff.mp compiles).2.1
  have within := bucket_le key.bucketing allocation.seed
  rcases PartitionTable.exists_treatment table within with ⟨partition, found, given⟩
  have positive := bucket_pos key.bucketing allocation.seed
  exact ⟨partition, PartitionTable.owns_position table positive within, found, given⟩

theorem outcome_eq_iff_givesShare (compiles : ofCondition condition = .ok compiled)
    {allocation : Allocation} {key : Key} {evaluation : Evaluation} :
    compiled.outcome allocation key = evaluation ↔
      condition.GivesShare (bucket key.bucketing allocation.seed) evaluation := by
  rcases exists_treatment compiles allocation key with ⟨partition, owns, found, given⟩
  have label := (ofCondition_eq_ok_iff.mp compiles).2.2.2
  rw [outcome, Allocation.bucketOf, given, evaluationOf, label]
  constructor
  · rintro rfl
    exact ⟨_, partition, owns, found, rfl⟩
  · rintro ⟨index, other, otherOwns, otherFound, rfl⟩
    cases owns.unique otherOwns
    cases found.symm.trans otherFound
    rfl

theorem value_decision_iff_decides (compiles : ofCondition condition = .ok compiled)
    {allocation : Allocation} {context : Context} {evaluation : Evaluation} :
    (compiled.decision allocation context).value = some evaluation ↔
      condition.Decides allocation context evaluation := by
  rcases ofCondition_eq_ok_iff.mp compiles with ⟨group, _, kind, _⟩
  unfold decision
  rw [kind]
  split
  · next outside =>
      have leftOut := Condition.leavesOut_iff.mpr outside
      simp only [Lookup.value_ready, Option.some.injEq]
      constructor
      · rintro rfl
        exact .leftOut leftOut
      · rintro (_ | ⟨inside, _, _⟩)
        · rfl
        · exact absurd leftOut inside
  · next notOutside =>
      have inside := mt Condition.leavesOut_iff.mp notOutside
      simp only [Lookup.value_map, Option.ite_none_right_eq_some, Option.some.injEq,
        CompiledGroup.value_isMatch_iff group, outcome_eq_iff_givesShare compiles]
      constructor
      · rintro ⟨allMatch, share⟩
        exact .share inside allMatch share
      · rintro (leftOut | ⟨_, allMatch, share⟩)
        · exact absurd leftOut inside
        · exact ⟨allMatch, share⟩

end CompiledCondition

namespace CompiledRules

theorem value_decision_iff {conditions : List Condition} {rules : CompiledRules}
    (compiles : ofConditions conditions = .ok rules) {allocation : Allocation} {context : Context}
    {decision : Option Evaluation} :
    (rules.decision allocation context).value = decision ↔
      Condition.FirstDecides allocation context conditions decision := by
  have pairs := ofConditions_eq_ok_iff.mp compiles
  rcases rules with ⟨results⟩
  clear compiles
  unfold CompiledRules.decision
  dsimp only at pairs ⊢
  -- Conditions and what they are compiled to are gone through side by side.
  induction pairs with
  | nil =>
      constructor
      · rintro rfl
        exact .exhausted
      · rintro ⟨⟩
        rfl
  | @cons condition compiled rest results first later ih =>
      have step := @CompiledCondition.value_decision_iff_decides _ _ _ first allocation context
      rw [Lookup.firstDecision_cons, Lookup.value_orElse]
      rcases decided : (compiled.decision allocation context).value with _ | evaluation
      · have abstains : ∀ evaluation, ¬condition.Decides allocation context evaluation := by
          intro evaluation decides
          cases decided.symm.trans (step.mpr decides)
        rw [Option.none_or]
        refine Iff.trans ih ⟨?_, ?_⟩
        · exact .abstains abstains
        · rintro (_ | decides | ⟨_, following⟩)
          · exact absurd decides (abstains _)
          · exact following
      · have decides := step.mp decided
        rw [Option.some_or]
        constructor
        · rintro rfl
          exact .decides decides
        · rintro (_ | other | ⟨abstains, _⟩)
          · exact decided.symm.trans (step.mpr other)
          · exact absurd decides (abstains evaluation)

/-- Rules settle to what the first condition decides that decides at all. The partition that gives
its treatment is the only one with the bucket of the key, so that a treatment is always found. -/
theorem settles_to_first_decision {conditions : List Condition} {rules : CompiledRules}
    (compiles : ofConditions conditions = .ok rules) (allocation : Allocation)
    (context : Context) :
    (∀ decision, (rules.decision allocation context).value = decision ↔
      Condition.FirstDecides allocation context conditions decision) ∧
    (∀ condition ∈ conditions, ∃! index,
      Partition.Owns condition.partitions index (bucket context.key.bucketing allocation.seed)) ∧
    ∀ compiled ∈ rules.conditions, ∃ treatment,
      compiled.table.treatment (bucket context.key.bucketing allocation.seed) = .ok treatment := by
  refine ⟨fun _ => value_decision_iff compiles, ?_, ?_⟩
  · intro condition member
    rcases exists_compiled compiles member with ⟨compiled, built⟩
    rcases CompiledCondition.exists_treatment built allocation context.key with ⟨_, owns, _, _⟩
    exact ⟨_, owns, fun _ otherOwns => otherOwns.unique owns⟩
  · intro compiled member
    rcases exists_condition compiles member with ⟨condition, _, built⟩
    rcases CompiledCondition.exists_treatment built allocation context.key with
      ⟨partition, _, _, given⟩
    exact ⟨partition.treatment, given⟩

end CompiledRules

end

namespace CompiledRules

/-- A condition for the members of a segment, and one that shares out the keys without a plan. -/
def planless : List Condition :=
  [{ kind := .whitelist
     matchers := [{ kindName := "IN_SEGMENT", segment := some "employees" }]
     partitions := [⟨"v1", 100⟩]
     label := "employees" },
   { kind := .rollout
     matchers :=
       [{ kindName := "WHITELIST", negate := true, whitelist := some ["gold"]
          keySelector := some ⟨none, some "plan"⟩ }]
     partitions := [⟨"off", 50⟩, ⟨"on", 50⟩]
     label := "no plan" }]

/-- Of three keys, the first is left out, and the others are on either side of the partitions. -/
theorem settles_to_first_decision_planless :
    ∃ rules, ofConditions planless = .ok rules ∧
      Condition.FirstDecides ⟨7, some 60, some 11⟩ ⟨.ofMatching "alice", [], .unavailable⟩ planless
        (some .notInSplit) ∧
      Condition.FirstDecides ⟨7, some 60, some 11⟩ ⟨.ofMatching "carol", [], .unavailable⟩ planless
        (some (.ofTreatment "on" "no plan")) ∧
      Condition.FirstDecides ⟨7, some 60, some 11⟩ ⟨.ofMatching "dave", [], .unavailable⟩ planless
        (some (.ofTreatment "off" "no plan")) ∧
      (∃! index, Partition.Owns [⟨"off", 50⟩, ⟨"on", 50⟩] index (bucket "carol" 7)) := by
  have compiles : ofConditions planless = .ok _ := rfl
  have settles := fun key => settles_to_first_decision compiles ⟨7, some 60, some 11⟩
    ⟨.ofMatching key, [], .unavailable⟩
  refine ⟨_, compiles, ?_, ?_, ?_, ?_⟩
  · exact ((settles "alice").1 _).mp (by decide +kernel)
  · exact ((settles "carol").1 _).mp (by decide +kernel)
  · exact ((settles "dave").1 _).mp (by decide +kernel)
  · exact (settles "carol").2.1 _ (List.mem_cons_of_mem _ (List.mem_singleton_self _))

end CompiledRules

end Targeting
