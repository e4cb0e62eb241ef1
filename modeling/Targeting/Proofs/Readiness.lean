import Targeting.Proofs.Nested

/-!
# Readiness of answers

An evaluation waits for pending answers, and on the way evaluates conditions that it would not have
come to otherwise. What it settles to does not depend on that: readiness decides how far an
evaluation looks ahead, values decide what it finds.

An assignment of readiness is a predicate on calls. `Backend.withPending` gives the answers of a
backend the readiness of an assignment and leaves their values alone.
-/

namespace Targeting

/-- The same value, pending or at hand. -/
def Answer.marked {α : Type} (answer : Answer α) (isPending : Bool) : Answer α :=
  if isPending then .pending answer.value else .ready answer.value

@[simp]
theorem Answer.value_marked {α : Type} (answer : Answer α) (isPending : Bool) :
    (answer.marked isPending).value = answer.value := by
  cases isPending <;> rfl

@[simp]
theorem Answer.isReady_marked {α : Type} (answer : Answer α) (isPending : Bool) :
    (answer.marked isPending).isReady = !isPending := by
  cases isPending <;> rfl

/-- The answers of a storage under an assignment of readiness. -/
def Storage.withPending (storage : Storage) (isPending : Call → Bool) : Storage where
  flag name := (storage.flag name).marked (isPending (.flag name))
  segment name key := (storage.segment name key).marked (isPending (.segment name key))
  largeSegment name key :=
    (storage.largeSegment name key).marked (isPending (.largeSegment name key))
  ruleBased name := (storage.ruleBased name).marked (isPending (.ruleBased name))
  flagNames := storage.flagNames
  ruleBasedNames := storage.ruleBasedNames
  flag_mem found := storage.flag_mem (by rwa [Answer.value_marked] at found)
  ruleBased_mem found := storage.ruleBased_mem (by rwa [Answer.value_marked] at found)

/-- The answers of a custom evaluator under an assignment of readiness. -/
def FlagEvaluator.withPending (evaluator : FlagEvaluator) (isPending : Call → Bool) :
    FlagEvaluator where
  answer? name key :=
    (evaluator.answer? name key).map (·.marked (isPending (.evaluator name key)))

/-- The answers of a backend under an assignment of readiness. -/
def Backend.withPending (backend : Backend) (isPending : Call → Bool) : Backend where
  storage := backend.storage.withPending isPending
  attributes := backend.attributes
  evaluator? := backend.evaluator?.map (·.withPending isPending)

namespace Lookup.Congruence

variable {ε α : Type}

/-- The second of two lookups is at hand. -/
def settling (ε : Type) : Congruence ε where
  Alike _ right := right.isReady
  ready _ _ := rfl
  andThen {_ _ _ _ _ _ first' second'} firstReady secondReady := by
    simp [firstReady, secondReady]
  orElse {_ _ _ first' second'} _ firstReady secondReady := by
    simp [isReady_orElse, firstReady, secondReady]

theorem answer_of_settling {left right : Lookup ε α}
    (related : (settling ε).Related Eq left right) : right.answer = .ready left.value := by
  rcases related with ⟨values, atHand⟩
  apply Answer.ext
  · exact values.symm
  · exact atHand

end Lookup.Congruence

namespace Backend

open Lookup.Congruence

/-- Two assignments of readiness are compared call by call. -/
theorem alike_of_marked (backend : Backend) {congruence : Lookup.Congruence Call}
    {isPending isPending' : Call → Bool}
    (marked : ∀ {α : Type} (call : Call) (answer : Answer α),
      congruence.Related Eq (Lookup.ask call (answer.marked (isPending call)))
        (Lookup.ask call (answer.marked (isPending' call))))
    (atHand : ∀ {α : Type} (call : Call) (value : α),
      congruence.Related Eq (Lookup.ask call (.ready value)) (Lookup.ask call (.ready value))) :
    (backend.withPending isPending).Alike congruence (fun _ => True)
      (backend.withPending isPending') := by
  have asked : ∀ (call : Call) (answer : Answer (Except StorageError Bool)),
      congruence.Related Eq (Storage.asked call (answer.marked (isPending call)))
        (Storage.asked call (answer.marked (isPending' call))) := by
    intro call answer
    apply (marked call answer).map
    rintro result _ rfl
    rfl
  refine ⟨?_, rfl⟩
  constructor
  · exact fun _ => marked _ _
  · exact fun _ key => asked _ _
  · exact fun _ key => asked _ _
  · exact fun _ => marked _ _
  · rcases evaluated : backend.evaluator? with _ | evaluator
    · simp only [withPending, evaluated]
      exact .none
    · simp only [withPending, evaluated]
      apply Option.Rel.some
      constructor
      · intro name key
        simp only [FlagEvaluator.withPending]
        rcases evaluator.answer? name key with _ | answer
        · exact .none
        · exact .some (marked _ answer)
      · intro name key _
        exact atHand _ ()
      · intro name evaluation
        exact atHand _ evaluation

theorem alike_withPending (backend : Backend) (isPending : Call → Bool) :
    (backend.withPending isPending).Alike (settling Call) (fun _ => True)
      (backend.withPending fun _ => false) := by
  apply alike_of_marked
  · intro _ call answer
    simp [Related, settling]
  · intro _ call value
    exact ⟨rfl, rfl⟩

variable [PatternLanguage]

theorem context_settle (backend : Backend) (isPending : Call → Bool) (stack : Stack) (key : Key)
    (queries : List Query) :
    Context.Alike (settling Call) queries ((backend.withPending isPending).context stack key)
      ((backend.withPending fun _ => false).context stack key) :=
  context_alike (backend.alike_withPending isPending) stack key queries

/-- Whatever is pending, an evaluation settles to the result that is at hand when every answer is.
This holds of flags by name and compiled, of rules, of groups of matchers and of memberships in
rule-based segments, over any storage of finitely many definitions. -/
theorem settles_to_result_atHand (backend : Backend) (isPending : Call → Bool) (stack : Stack)
    (key : Key) :
    (∀ name, ((backend.withPending fun _ => false).evaluate stack name key).answer =
      .ready ((backend.withPending isPending).evaluate stack name key).value) ∧
    (∀ compiled, ((backend.withPending fun _ => false).evaluateCompiled stack compiled key).answer =
      .ready ((backend.withPending isPending).evaluateCompiled stack compiled key).value) ∧
    (∀ (rules : CompiledRules) (allocation : Allocation),
      (rules.decision allocation ((backend.withPending fun _ => false).context stack key)).answer =
        .ready (rules.decision allocation
          ((backend.withPending isPending).context stack key)).value) ∧
    (∀ group : CompiledGroup,
      (group.isMatch ((backend.withPending fun _ => false).context stack key)).answer =
        .ready (group.isMatch ((backend.withPending isPending).context stack key)).value) ∧
    (∀ segment : RuleBasedSegment,
      (segment.hasKey ((backend.withPending fun _ => false).context stack key)).answer =
        .ready (segment.hasKey ((backend.withPending isPending).context stack key)).value) := by
  refine ⟨?_, ?_, ?_, ?_, ?_⟩
  · intro name
    apply answer_of_settling
    exact evaluate_alike (closed_everything _) (backend.alike_withPending isPending)
      (.refl _ stack) trivial key
  · intro compiled
    apply answer_of_settling
    unfold evaluateCompiled
    split
    · exact related_ready rfl
    · apply CompiledFlag.related_evaluateIn_of_queries
      exact backend.context_settle isPending _ key _
  · intro rules allocation
    apply answer_of_settling
    apply CompiledRules.related_decision_of_queries
    exact backend.context_settle isPending stack key _
  · intro group
    apply answer_of_settling
    apply CompiledGroup.related_isMatch_of_queries
    exact backend.context_settle isPending stack key _
  · intro segment
    apply answer_of_settling
    apply RuleBasedSegment.related_hasKey_of_queries
    exact backend.context_settle isPending stack key _

end Backend

end Targeting
