import Targeting.Pattern.Standard
import Targeting.Proofs.Nested

/-!
# Outages

What becomes of an evaluation when a storage cannot answer some of its questions. It is compared
with the evaluation that the storage would give if it knew nothing of what these questions are
about. The two make the same calls and come to the same treatment.

The reason is that failures are taken notice of in two places only. A matcher takes a failure for a
no, before it negates, and looks at the flags that it depends on through their treatments; a failed
flag has the treatment of a missing one. An excluded segment does take notice: its failure is the
failure of the membership. So it matters that the failing segments are not excluded by others, and
then all memberships but their own are the same as well.
-/

namespace Targeting

open Lookup.Congruence

variable {congruence : Lookup.Congruence Call}

/-- An answer that may fail where the other one says that nothing is there. -/
def Answer.FailsFor {α : Type} (absence : α)
    (failing absent : Answer (Except StorageError α)) : Prop :=
  failing = absent ∨
    failing.isReady = absent.isReady ∧ Outcome.Fails failing.value ∧ absent.value = .ok absence

/-- A storage that fails at some queries, beside one where the queried definitions are absent. No
segment that cannot be asked is excluded by another one. -/
structure Storage.Outage (failing absent : Storage) : Prop where
  flag : ∀ name, (failing.flag name).FailsFor none (absent.flag name)
  segment : ∀ name key, (failing.segment name key).FailsFor false (absent.segment name key)
  largeSegment : ∀ name key,
    (failing.largeSegment name key).FailsFor false (absent.largeSegment name key)
  ruleBased : ∀ name, (failing.ruleBased name).FailsFor none (absent.ruleBased name)
  excluded : ∀ {name segment}, (failing.ruleBased name).value = .ok (some segment) →
    ∀ excluded ∈ segment.excluded.segments, failing.Agrees absent excluded.query

/-- Two answers about membership that count as the same match. -/
def CountsAlike (left right : Except EvaluationError Bool) : Prop :=
  left.toOption.getD false = right.toOption.getD false

/-- Two evaluations that differ in nothing but their labels. -/
structure Evaluation.SameButLabel (left right : Evaluation) : Prop where
  treatment : left.treatment? = right.treatment?
  changeNumber : left.changeNumber? = right.changeNumber?
  config : left.config? = right.config?

theorem Evaluation.sameButLabel_refl (evaluation : Evaluation) :
    evaluation.SameButLabel evaluation :=
  ⟨rfl, rfl, rfl⟩

/-- No matcher can tell two surroundings apart by a query. -/
def Surroundings.Indistinct (congruence : Lookup.Congruence Call) (left right : Surroundings) :
    Query → Prop
  | .flag name => ∀ key,
      congruence.Related Evaluation.SameButLabel (left.evaluation name key)
        (right.evaluation name key)
  | .segment name => ∀ key,
      congruence.Related CountsAlike (left.inSegment name key) (right.inSegment name key)
  | .largeSegment name => ∀ key,
      congruence.Related CountsAlike (left.inLargeSegment name key) (right.inLargeSegment name key)
  | .ruleBased name => ∀ key,
      congruence.Related CountsAlike (left.inRuleBased name key) (right.inRuleBased name key)

/-- Two surroundings that answer alike where two storages agree, and that no matcher can tell apart
elsewhere. -/
structure Surroundings.Isolates (failing absent : Storage) (left right : Surroundings) : Prop where
  indistinct : ∀ query, left.Indistinct (identical Call) right query
  alike : ∀ query, failing.Agrees absent query → left.Alike (identical Call) right query

section Matchers

variable {left right : Surroundings} {key : Key} {attributes : Attributes}

theorem Predicate.related_holds_of_indistinct
    (indistinct : ∀ query, left.Indistinct congruence right query) (predicate : Predicate)
    (value : MatchValue) :
    congruence.Related CountsAlike (predicate.holds value left) (predicate.holds value right) := by
  unfold holds
  split
  · next name key => exact indistinct (.segment name) key
  · next name key => exact indistinct (.largeSegment name) key
  · next name key => exact indistinct (.ruleBased name) key
  · next flag treatments key =>
      apply Related.map (indistinct (.flag flag) key)
      intro evaluation evaluation' same
      rw [CountsAlike, hasTreatment, hasTreatment, same.treatment]
  · exact related_ready rfl

theorem CompiledMatcher.related_isMatch_of_indistinct
    (indistinct : ∀ query, left.Indistinct congruence right query) (compiled : CompiledMatcher) :
    congruence.Related Eq (compiled.isMatch ⟨key, attributes, left⟩)
      (compiled.isMatch ⟨key, attributes, right⟩) := by
  have held : congruence.Related Eq (compiled.holds ⟨key, attributes, left⟩)
      (compiled.holds ⟨key, attributes, right⟩) := by
    unfold holds
    dsimp only
    rcases compiled.matcher.value? key attributes with _ | value
    · exact related_ready rfl
    · apply Related.map (compiled.predicate.related_holds_of_indistinct indistinct value)
      intro answer answer' counted
      exact counted
  apply held.map
  rintro matched _ rfl
  rfl

theorem CompiledGroup.related_isMatch_of_indistinct
    (indistinct : ∀ query, left.Indistinct congruence right query) (group : CompiledGroup) :
    congruence.Related Eq (group.isMatch ⟨key, attributes, left⟩)
      (group.isMatch ⟨key, attributes, right⟩) := by
  apply related_isMatch
  intro compiled _
  exact compiled.related_isMatch_of_indistinct indistinct

theorem CompiledFlag.related_evaluateIn_of_indistinct
    (indistinct : ∀ query, left.Indistinct congruence right query) (compiled : CompiledFlag) :
    congruence.Related Eq (compiled.evaluateIn ⟨key, attributes, left⟩)
      (compiled.evaluateIn ⟨key, attributes, right⟩) := by
  apply related_evaluateIn
  · apply Prerequisite.related_allMet
    intro prerequisite _
    have evaluations := indistinct (.flag prerequisite.flag) key
    refine ⟨?_, evaluations.2⟩
    exact congrArg (·.getD control) evaluations.1.treatment
  · apply Rules.related_decision
    intro condition _
    apply CompiledCondition.related_decision
    · rfl
    · exact condition.group.related_isMatch_of_indistinct indistinct

variable [PatternLanguage]

/-- Exclusions are the exception: a membership takes over the failure of an excluded segment. -/
theorem RuleBasedSegment.related_hasKey_of_indistinct
    (indistinct : ∀ query, left.Indistinct congruence right query) (segment : RuleBasedSegment)
    (exclusions : ∀ excluded ∈ segment.excluded.segments,
      left.Alike congruence right excluded.query) :
    congruence.Related Eq (segment.hasKey ⟨key, attributes, left⟩)
      (segment.hasKey ⟨key, attributes, right⟩) := by
  apply related_hasKey
  · rfl
  · intro excluded member
    exact ExcludedSegment.related_hasKey rfl (exclusions excluded member)
  · intro groups _ group _
    exact group.related_isMatch_of_indistinct indistinct

end Matchers

namespace Storage.Outage

variable {failing absent : Storage} {inside inside' : Stack → Surroundings}

theorem related_asked {call : Call} {answer answer' : Answer (Except StorageError Bool)}
    (fails : answer.FailsFor false answer') :
    (identical Call).Related CountsAlike (Storage.asked call answer)
      (Storage.asked call answer') := by
  rcases fails with rfl | ⟨readiness, ⟨error, failure⟩, nothing⟩
  · exact ⟨rfl, rfl, rfl⟩
  · refine ⟨?_, ?_, rfl⟩
    · simp [Storage.asked, CountsAlike, failure, nothing, Except.mapError, Except.toOption]
    · simpa [Storage.asked] using readiness

/-- After answers that leave nothing to look up, the values decide. -/
theorem related_bind_of_settled {α β : Type} {relation : β → β → Prop} {call : Call}
    {answer answer' : Answer α} {next next' : α → Lookup Call β} {value value' : β}
    (readiness : answer.isReady = answer'.isReady) (settled : next answer.value = .ready value)
    (settled' : next' answer'.value = .ready value') (related : relation value value') :
    (identical Call).Related relation ((Lookup.ask call answer).bind next)
      ((Lookup.ask call answer').bind next') := by
  simp only [Lookup.bind, Lookup.value_ask, settled, settled']
  refine ⟨?_, ?_, rfl⟩
  · simpa using related
  · simpa using readiness

variable [PatternLanguage]

theorem evaluateFlag_eq_of_agrees {attributes : Attributes} {stack : Stack} {name : String}
    (agrees : failing.flag name = absent.flag name)
    (deeper : ∀ flag, (failing.flag name).value = .ok (some flag) → flag.name ∉ stack.flags →
      ∀ query, (inside (stack.enterFlag flag.name)).Indistinct (identical Call)
        (inside' (stack.enterFlag flag.name)) query) (key : Key) :
    failing.evaluateFlag attributes stack (fun name _ _ => inside (stack.enterFlag name)) name
        key =
      absent.evaluateFlag attributes stack (fun name _ _ => inside' (stack.enterFlag name)) name
        key := by
  apply related_identical_iff.mp
  rw [Storage.evaluateFlag_eq, Storage.evaluateFlag_eq, ← agrees]
  apply Related.bind (related_identical_iff.mpr rfl)
  intro _
  apply Storage.related_foundFlag
  · intro flag _
    exact Iff.rfl
  · intro flag compiled found _ fresh
    exact compiled.related_evaluateIn_of_indistinct (deeper flag found fresh)

/-- A flag that cannot be read has the treatment of one that is not there. -/
theorem related_evaluateFlag (outage : failing.Outage absent) {attributes : Attributes}
    {stack : Stack} {name : String}
    (deeper : ∀ flag, (failing.flag name).value = .ok (some flag) → flag.name ∉ stack.flags →
      ∀ query, (inside (stack.enterFlag flag.name)).Indistinct (identical Call)
        (inside' (stack.enterFlag flag.name)) query) (key : Key) :
    (identical Call).Related Evaluation.SameButLabel
      (failing.evaluateFlag attributes stack (fun name _ _ => inside (stack.enterFlag name)) name
        key)
      (absent.evaluateFlag attributes stack (fun name _ _ => inside' (stack.enterFlag name)) name
        key) := by
  rcases outage.flag name with agrees | ⟨readiness, ⟨error, failure⟩, nothing⟩
  · rw [evaluateFlag_eq_of_agrees agrees deeper]
    exact ⟨Evaluation.sameButLabel_refl _, rfl, rfl⟩
  · rw [Storage.evaluateFlag_eq, Storage.evaluateFlag_eq]
    apply related_bind_of_settled readiness
    · rw [failure, Storage.foundFlag]
    · rw [nothing, Storage.foundFlag]
    · exact ⟨rfl, rfl, rfl⟩

theorem hasKey_eq_of_agrees (outage : failing.Outage absent) {attributes : Attributes}
    {stack : Stack} {name : String} (agrees : failing.ruleBased name = absent.ruleBased name)
    (deeper : ∀ segment, (failing.ruleBased name).value = .ok (some segment) →
      name ∉ stack.segments →
        (inside (stack.enterSegment name)).Isolates failing absent
          (inside' (stack.enterSegment name))) (key : Key) :
    failing.hasKey attributes stack (fun name _ _ => inside (stack.enterSegment name)) name key =
      absent.hasKey attributes stack (fun name _ _ => inside' (stack.enterSegment name)) name
        key := by
  apply related_identical_iff.mp
  rw [Storage.hasKey_eq, Storage.hasKey_eq, ← agrees]
  split
  · exact related_ready rfl
  · next fresh =>
      apply Related.bind (related_identical_iff.mpr rfl)
      intro _
      apply Storage.related_foundRuleBased
      intro segment found
      have further := deeper segment found fresh
      apply segment.related_hasKey_of_indistinct further.indistinct
      intro excluded member
      exact further.alike _ (outage.excluded found excluded member)

theorem related_hasKey (outage : failing.Outage absent) {attributes : Attributes}
    {stack : Stack} {name : String}
    (deeper : ∀ segment, (failing.ruleBased name).value = .ok (some segment) →
      name ∉ stack.segments →
        (inside (stack.enterSegment name)).Isolates failing absent
          (inside' (stack.enterSegment name))) (key : Key) :
    (identical Call).Related CountsAlike
      (failing.hasKey attributes stack (fun name _ _ => inside (stack.enterSegment name)) name key)
      (absent.hasKey attributes stack (fun name _ _ => inside' (stack.enterSegment name)) name
        key) := by
  rcases outage.ruleBased name with agrees | ⟨readiness, ⟨error, failure⟩, nothing⟩
  · rw [outage.hasKey_eq_of_agrees agrees deeper]
    exact ⟨rfl, rfl, rfl⟩
  · rw [Storage.hasKey_eq, Storage.hasKey_eq]
    split
    · exact related_ready rfl
    · apply related_bind_of_settled readiness
      · rw [failure, Storage.foundRuleBased]
      · rw [nothing, Storage.foundRuleBased]
      · rfl

theorem surroundings_isolate (outage : failing.Outage absent) (attributes : Attributes)
    (stack : Stack) :
    (Backend.surroundings { storage := failing, attributes } stack).Isolates failing absent
      (Backend.surroundings { storage := absent, attributes } stack) := by
  -- The induction is on the names that can still be entered, as for all comparisons of levels.
  have flags : ∀ name flag, (failing.flag name).value = .ok (some flag) →
      flag.name ∉ stack.flags → ∀ query,
        (Backend.surroundings { storage := failing, attributes }
          (stack.enterFlag flag.name)).Indistinct (identical Call)
          (Backend.surroundings { storage := absent, attributes } (stack.enterFlag flag.name))
          query := by
    intro name flag found fresh
    have deeper := failing.depth_enterFlag_lt (failing.flag_mem found) fresh
    exact (outage.surroundings_isolate attributes (stack.enterFlag flag.name)).indistinct
  have segments : ∀ name segment, (failing.ruleBased name).value = .ok (some segment) →
      name ∉ stack.segments →
        (Backend.surroundings { storage := failing, attributes }
          (stack.enterSegment name)).Isolates failing absent
          (Backend.surroundings { storage := absent, attributes } (stack.enterSegment name)) := by
    intro name segment found fresh
    have deeper := failing.depth_enterSegment_lt (failing.ruleBased_mem found) fresh
    exact outage.surroundings_isolate attributes (stack.enterSegment name)
  rw [Backend.surroundings_eq_layer, Backend.surroundings_eq_layer]
  constructor
  · intro query
    cases query with
    | flag name => exact outage.related_evaluateFlag (flags name)
    | segment name => exact fun key => related_asked (outage.segment name key)
    | largeSegment name => exact fun key => related_asked (outage.largeSegment name key)
    | ruleBased name => exact outage.related_hasKey (segments name)
  · intro query agrees
    cases query with
    | flag name =>
        intro key
        exact related_identical_iff.mpr (evaluateFlag_eq_of_agrees agrees (flags name) key)
    | segment name =>
        intro key
        simp [Backend.layer, agrees key]
    | largeSegment name =>
        intro key
        simp [Backend.layer, agrees key]
    | ruleBased name =>
        intro key
        exact related_identical_iff.mpr (outage.hasKey_eq_of_agrees agrees (segments name) key)
termination_by failing.depth stack

end Storage.Outage

namespace Memory

/-- There is nothing in memory for a query. -/
def Lacks (memory : Memory) : Query → Prop
  | .flag name => memory.flag? name = none
  | .segment name => ∀ key, hasKey memory.segments name key = false
  | .largeSegment name => ∀ key, hasKey memory.largeSegments name key = false
  | .ruleBased name => memory.ruleBased? name = none

variable {memory : Memory} {availability : Availability}

theorem failsFor_answer {α : Type} {query : Query} {value absence : α}
    (missing : availability.failure? query ≠ none → value = absence) :
    (availability.answer query value).FailsFor absence
      ({ availability with failure? := fun _ => none }.answer query value) := by
  rcases failure : availability.failure? query with _ | message
  · left
    simp [Availability.answer, failure]
  · right
    have absent := missing (by simp [failure])
    cases pending : availability.isPending query with
    | false =>
        simp only [Availability.answer, failure, pending]
        exact ⟨rfl, ⟨_, rfl⟩, congrArg Except.ok absent⟩
    | true =>
        simp only [Availability.answer, failure, pending]
        exact ⟨rfl, ⟨_, rfl⟩, congrArg Except.ok absent⟩

theorem agrees_of_no_failure {query : Query} (answered : availability.failure? query = none) :
    (memory.toStorage availability).Agrees
      (memory.toStorage { availability with failure? := fun _ => none }) query := by
  cases query <;> simp [Storage.Agrees, toStorage, Availability.answer, answered]

/-- Questions about what is not in memory may as well fail, unless they are about exclusions. -/
theorem outage (missing : ∀ query, availability.failure? query ≠ none → memory.Lacks query)
    (excluded : ∀ segment ∈ memory.ruleBased, ∀ excluded ∈ segment.excluded.segments,
      availability.failure? excluded.query = none) :
    (memory.toStorage availability).Outage
      (memory.toStorage { availability with failure? := fun _ => none }) where
  flag name := failsFor_answer (missing (.flag name))
  segment name key := failsFor_answer fun failure => missing (.segment name) failure key
  largeSegment name key := failsFor_answer fun failure => missing (.largeSegment name) failure key
  ruleBased name := failsFor_answer (missing (.ruleBased name))
  excluded found entry member := by
    have stored := List.mem_of_find?_eq_some (Availability.eq_of_answer_ok found)
    exact agrees_of_no_failure (excluded _ stored entry member)

end Memory

namespace Backend

/-- An evaluation over a storage that fails at some queries takes the same calls, is at hand as
well, and comes to the same treatment, change number and configuration as over one where what is
queried is absent. Only a failed reading of the flag itself can be told by the label. Either storage
has finitely many definitions. -/
theorem outage_isolated [PatternLanguage] {failing absent : Storage}
    (outage : failing.Outage absent) (attributes : Attributes) (stack : Stack) (name : String)
    (key : Key) :
    (evaluate { storage := failing, attributes } stack name key).isReady =
        (evaluate { storage := absent, attributes } stack name key).isReady ∧
      (evaluate { storage := failing, attributes } stack name key).calls =
        (evaluate { storage := absent, attributes } stack name key).calls ∧
      (evaluate { storage := failing, attributes } stack name key).value.SameButLabel
        (evaluate { storage := absent, attributes } stack name key).value ∧
      (failing.flag name = absent.flag name →
        (evaluate { storage := failing, attributes } stack name key).value.label =
          (evaluate { storage := absent, attributes } stack name key).value.label) := by
  have deeper : ∀ flag, (failing.flag name).value = .ok (some flag) → flag.name ∉ stack.flags →
      ∀ query, (surroundings { storage := failing, attributes }
        (stack.enterFlag flag.name)).Indistinct (identical Call)
        (surroundings { storage := absent, attributes } (stack.enterFlag flag.name)) query := by
    intro flag _ _
    exact (outage.surroundings_isolate attributes (stack.enterFlag flag.name)).indistinct
  have evaluations : (identical Call).Related Evaluation.SameButLabel
      (evaluate { storage := failing, attributes } stack name key)
      (evaluate { storage := absent, attributes } stack name key) :=
    outage.related_evaluateFlag deeper key
  refine ⟨evaluations.2.1, evaluations.2.2, evaluations.1, ?_⟩
  intro agrees
  have same : evaluate { storage := failing, attributes } stack name key =
      evaluate { storage := absent, attributes } stack name key :=
    Storage.Outage.evaluateFlag_eq_of_agrees agrees deeper key
  rw [same]

/-- A flag for visitors as long as the portal is out of order. Visitors are all but the banned who
are not known as partners. -/
def intranet : Memory where
  flags :=
    [{ name := "wiki"
       prerequisites := [⟨"portal", [control]⟩]
       conditions :=
        [⟨.rollout,
          [{ kindName := "IN_SEGMENT", segment := some "employees", negate := true },
            { kindName := "IN_RULE_BASED_SEGMENT", segment := some "staff", negate := true },
            { kindName := "IN_RULE_BASED_SEGMENT", segment := some "visitors" }],
          [⟨"on", 100⟩], "visitors"⟩] }]
  ruleBased :=
    [{ name := "visitors"
       excluded := { segments := [⟨.standard, "banned"⟩] }
       conditions :=
        [⟨.rollout,
          [{ kindName := "IN_LARGE_SEGMENT", largeSegment := some "partners", negate := true }],
          [], ""⟩] }]

/-- What the flag depends on and is not in memory cannot be asked about. -/
def unreachable : Availability where
  failure? query :=
    if query ∈ [.flag "portal", .segment "employees", .largeSegment "partners", .ruleBased "staff"]
    then some "timeout" else none

theorem outage_isolated_intranet :
    (intranet.toStorage unreachable).Outage (intranet.toStorage {}) ∧
      (evaluate { storage := intranet.toStorage {} } {} "wiki" (.ofMatching "alice")).value =
        { treatment? := some "on", label := "visitors", changeNumber? := some 0 } ∧
      (evaluate { storage := intranet.toStorage unreachable } {} "wiki"
        (.ofMatching "alice")).value.treatment? = some "on" ∧
      (evaluate { storage := intranet.toStorage unreachable } {} "wiki"
        (.ofMatching "alice")).value.label = "visitors" ∧
      (evaluate { storage := intranet.toStorage unreachable } {} "wiki"
        (.ofMatching "alice")).calls =
        [.flag "wiki", .flag "portal", .segment "employees" "alice", .ruleBased "staff",
          .ruleBased "visitors", .segment "banned" "alice", .largeSegment "partners" "alice"] := by
  have missing : ∀ query, unreachable.failure? query ≠ none → intranet.Lacks query := by
    intro query failure
    have failing : query ∈
        [.flag "portal", .segment "employees", .largeSegment "partners", .ruleBased "staff"] := by
      by_contra other
      exact failure (if_neg other)
    simp only [List.mem_cons, List.not_mem_nil, or_false] at failing
    rcases failing with rfl | rfl | rfl | rfl
    · rfl
    · exact fun _ => rfl
    · exact fun _ => rfl
    · rfl
  have outage : (intranet.toStorage unreachable).Outage (intranet.toStorage {}) :=
    Memory.outage missing (by decide)
  have isolated := outage_isolated outage [] {} "wiki" (.ofMatching "alice")
  have absent : (evaluate { storage := intranet.toStorage {} } {} "wiki"
      (.ofMatching "alice")).value =
        { treatment? := some "on", label := "visitors", changeNumber? := some 0 } := by
    decide +kernel
  refine ⟨outage, absent, ?_, ?_, ?_⟩
  · rw [isolated.2.2.1.treatment, absent]
  · rw [isolated.2.2.2 rfl, absent]
  · rw [isolated.2.1]
    decide +kernel

end Backend

end Targeting
