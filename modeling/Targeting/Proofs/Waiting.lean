import Mathlib.Data.List.Perm.Subperm
import Targeting.Pattern.Standard
import Targeting.Proofs.Readiness

/-!
# Calls and waiting

What the readiness of answers has to do with the calls that an evaluation makes. A result is at hand
exactly if every call made for it was answered at hand, so that nothing waits without need and
nothing is answered early. Waiting for more answers costs calls and never saves any: an evaluation
goes on past a pending condition, to conditions that it would not have come to otherwise.

Both are read off `Lookup.orElse`, the one place where the readiness of a first answer decides
whether a second one is asked for. Everything else is carried through by two congruences of lookups.
-/

namespace Targeting

namespace Lookup

variable {ε α : Type} {first second first' second' : Lookup ε (Option α)}

theorem subperm_calls_orElse (values : first.value = first'.value)
    (sooner : first'.isReady = true → first.isReady = true)
    (firstCalls : first.calls.Subperm first'.calls)
    (secondCalls : second.calls.Subperm second'.calls) :
    (first.orElse second).calls.Subperm (first'.orElse second').calls := by
  rw [calls_orElse, calls_orElse, ← values]
  by_cases decided' : (first'.isReady && first.value.isSome) = true
  · have decided : (first.isReady && first.value.isSome) = true := by
      rw [Bool.and_eq_true] at decided' ⊢
      exact ⟨sooner decided'.1, decided'.2⟩
    rw [if_pos decided, if_pos decided']
    exact firstCalls
  · rw [if_neg decided']
    split
    · exact firstCalls.trans (List.sublist_append_left _ _).subperm
    · exact firstCalls.append secondCalls

/-- A result at hand leaves no doubt how far the alternatives were asked. -/
theorem eq_orElse_of_isReady (values : first.value = first'.value)
    (firstSame : first'.isReady = true → first.isReady = true ∧ first.calls = first'.calls)
    (secondSame : second'.isReady = true → second.isReady = true ∧ second.calls = second'.calls)
    (atHand : (first'.orElse second').isReady = true) :
    (first.orElse second).isReady = true ∧
      (first.orElse second).calls = (first'.orElse second').calls := by
  rw [isReady_orElse, Bool.and_eq_true] at atHand
  have firstEqual := firstSame atHand.1
  simp only [isReady_orElse, calls_orElse, values, firstEqual.1, firstEqual.2, atHand.1,
    Bool.true_and]
  rcases decided : first'.value.isSome with _ | _
  · have secondEqual := secondSame (by simpa [decided] using atHand.2)
    simp [secondEqual.1, secondEqual.2]
  · simp

/-- The alternatives are at hand exactly if all answers to the calls for them are. -/
theorem isReady_orElse_eq_all {isAtHand : ε → Bool}
    (firstAtHand : first.isReady = first.calls.all isAtHand)
    (secondAtHand : second.isReady = second.calls.all isAtHand) :
    (first.orElse second).isReady = (first.orElse second).calls.all isAtHand := by
  rw [isReady_orElse, calls_orElse]
  rcases ready : first.isReady with _ | _
  · simp [← firstAtHand, ready]
  · rcases first.value.isSome with _ | _
    · simp [← firstAtHand, ← secondAtHand, ready]
    · simp [← firstAtHand, ready]

namespace Congruence

/-- The second of two lookups waits for more: it makes the calls of the first, and others only if it
is pending. -/
def waitingMore (ε : Type) : Congruence ε where
  Alike left right :=
    left.calls.Subperm right.calls ∧
      (right.isReady = true → left.isReady = true ∧ left.calls = right.calls)
  ready _ _ := ⟨.refl _, fun _ => ⟨rfl, rfl⟩⟩
  andThen {_ _ _ _ first second first' second'} firstMore secondMore := by
    refine ⟨firstMore.1.append secondMore.1, ?_⟩
    intro atHand
    rw [isReady_andThen, Bool.and_eq_true] at atHand
    have firstSame := firstMore.2 atHand.1
    have secondSame := secondMore.2 atHand.2
    simp [firstSame.1, firstSame.2, secondSame.1, secondSame.2]
  orElse values firstMore secondMore :=
    ⟨subperm_calls_orElse values (fun atHand => (firstMore.2 atHand).1) firstMore.1 secondMore.1,
      eq_orElse_of_isReady values firstMore.2 secondMore.2⟩

/-- The second of two lookups is at hand exactly if all answers to its calls are. -/
def accounting (isAtHand : ε → Bool) : Congruence ε where
  Alike _ right := right.isReady = right.calls.all isAtHand
  ready _ _ := by simp
  andThen firstAtHand secondAtHand := by
    simp [firstAtHand, secondAtHand]
  orElse _ firstAtHand secondAtHand := isReady_orElse_eq_all firstAtHand secondAtHand

theorem related_waitingMore_ask {call : ε} {left right : Answer α}
    (values : left.value = right.value) (sooner : right.isReady = true → left.isReady = true) :
    (waitingMore ε).Related Eq (ask call left) (ask call right) :=
  ⟨values, .refl _, fun atHand => ⟨sooner atHand, rfl⟩⟩

theorem related_accounting_ask {isAtHand : ε → Bool} {call : ε} {answer : Answer α}
    (known : isAtHand call = answer.isReady) :
    (accounting isAtHand).Related Eq (ask call answer) (ask call answer) := by
  refine ⟨rfl, ?_⟩
  simp [accounting, known]

end Congruence

end Lookup

namespace Backend

open Lookup.Congruence

/-- Whether the answer to a call is at hand. A flag that a custom evaluator hands back is answered
for by the calls of its evaluation. -/
def isAtHand (backend : Backend) : Call → Bool
  | .flag name => (backend.storage.flag name).isReady
  | .ruleBased name => (backend.storage.ruleBased name).isReady
  | .segment name key => (backend.storage.segment name key).isReady
  | .largeSegment name key => (backend.storage.largeSegment name key).isReady
  | .evaluator name key =>
      ((backend.evaluator?.bind (·.answer? name key)).map Answer.isReady).getD true
  | .handedBack _ _ => true

theorem alike_waitingMore (backend : Backend) {isPending isPending' : Call → Bool}
    (more : ∀ call, isPending call = true → isPending' call = true) :
    (backend.withPending isPending).Alike (waitingMore Call) (fun _ => True)
      (backend.withPending isPending') := by
  apply alike_of_marked
  · intro _ call answer
    apply related_waitingMore_ask
    · simp
    · simp only [Answer.isReady_marked, Bool.not_eq_true']
      intro atHand
      by_contra pending
      rw [more call (by simpa using pending)] at atHand
      cases atHand
  · intro _ call value
    exact related_waitingMore_ask rfl id

theorem alike_accounting (backend : Backend) :
    backend.Alike (accounting backend.isAtHand) (fun _ => True) backend where
  attributes := rfl
  flag _ := related_accounting_ask rfl
  segment _ _ := related_accounting_ask (by simp [isAtHand])
  largeSegment _ _ := related_accounting_ask (by simp [isAtHand])
  ruleBased _ := related_accounting_ask rfl
  evaluator := by
    rcases evaluated : backend.evaluator? with _ | evaluator
    · exact .none
    · apply Option.Rel.some
      constructor
      · intro name key
        rcases answered : evaluator.answer? name key with _ | answer
        · exact .none
        · apply Option.Rel.some
          exact related_accounting_ask (by simp [isAtHand, evaluated, answered])
      · intro name key answered
        exact related_accounting_ask (by simp [isAtHand, evaluated, answered])
      · intro name evaluation
        exact related_accounting_ask rfl

/-- Waiting for more answers never saves a call. An evaluation makes at least the calls, each as
often, that it makes when fewer answers are pending; and if its result is at hand all the same, it
makes the same calls in the same order. The evaluation is one over finitely many definitions. -/
theorem waiting_saves_no_call [PatternLanguage] (backend : Backend)
    {isPending isPending' : Call → Bool}
    (more : ∀ call, isPending call = true → isPending' call = true) (stack : Stack)
    (name : String) (key : Key) :
    ((backend.withPending isPending).evaluate stack name key).calls.Subperm
        ((backend.withPending isPending').evaluate stack name key).calls ∧
      (((backend.withPending isPending').evaluate stack name key).isReady = true →
        ((backend.withPending isPending).evaluate stack name key).isReady = true ∧
          ((backend.withPending isPending).evaluate stack name key).calls =
            ((backend.withPending isPending').evaluate stack name key).calls) :=
  (evaluate_alike (closed_everything _) (backend.alike_waitingMore more) (.refl _ stack) trivial
    key).2

/-- A condition for the members of a segment. -/
def memberCondition (segment : String) : Condition :=
  ⟨.whitelist, [{ kindName := "IN_SEGMENT", segment := some segment }], [⟨"on", 100⟩], segment⟩

/-- A flag that asks for employees first and for interns after them. -/
def onboarding : Backend where
  storage :=
    Memory.toStorage
      { flags := [{ name := "wiki", conditions := [memberCondition "employees",
          memberCondition "interns"] }]
        segments := [("employees", ["alice"])] } {}

theorem waiting_saves_no_call_onboarding :
    ((onboarding.withPending fun _ => false).evaluate {} "wiki" (.ofMatching "alice")).calls =
        [.flag "wiki", .segment "employees" "alice"] ∧
      ((onboarding.withPending (· = .segment "employees" "alice")).evaluate {} "wiki"
          (.ofMatching "alice")).calls =
        [.flag "wiki", .segment "employees" "alice", .segment "interns" "alice"] ∧
      ((onboarding.withPending fun _ => false).evaluate {} "wiki"
          (.ofMatching "alice")).calls.Subperm
        ((onboarding.withPending (· = .segment "employees" "alice")).evaluate {} "wiki"
          (.ofMatching "alice")).calls ∧
      ((onboarding.withPending fun _ => false).evaluate {} "wiki" (.ofMatching "alice")).calls =
        ((onboarding.withPending (· = .segment "interns" "alice")).evaluate {} "wiki"
          (.ofMatching "alice")).calls := by
  have more : ∀ segment : String, ∀ call : Call, false = true →
      decide (call = .segment segment "alice") = true := by
    simp
  have employees := waiting_saves_no_call onboarding (more "employees") {} "wiki"
    (.ofMatching "alice")
  have interns := waiting_saves_no_call onboarding (more "interns") {} "wiki" (.ofMatching "alice")
  exact ⟨by decide +kernel, by decide +kernel, employees.1, (interns.2 (by decide +kernel)).2⟩

/-- A result is at hand exactly if every call that was made for it was answered at hand. This holds
of flags, of rules and of memberships in rule-based segments, over any storage of finitely many
definitions, so that a backend with all answers at hand never keeps anyone waiting. -/
theorem atHand_iff_calls_atHand [PatternLanguage] (backend : Backend) (stack : Stack) (key : Key) :
    (∀ name, (backend.evaluate stack name key).isReady = true ↔
      ∀ call ∈ (backend.evaluate stack name key).calls, backend.isAtHand call = true) ∧
    (∀ (rules : CompiledRules) (allocation : Allocation),
      (rules.decision allocation (backend.context stack key)).isReady = true ↔
        ∀ call ∈ (rules.decision allocation (backend.context stack key)).calls,
          backend.isAtHand call = true) ∧
    (∀ segment : RuleBasedSegment,
      (segment.hasKey (backend.context stack key)).isReady = true ↔
        ∀ call ∈ (segment.hasKey (backend.context stack key)).calls,
          backend.isAtHand call = true) ∧
    ((∀ call, backend.isAtHand call = true) →
      ∀ name, (backend.evaluate stack name key).isReady = true) := by
  have context := context_alike backend.alike_accounting stack key
  have evaluation : ∀ name, (backend.evaluate stack name key).isReady = true ↔
      ∀ call ∈ (backend.evaluate stack name key).calls, backend.isAtHand call = true := by
    intro name
    have accounted : (accounting backend.isAtHand).Related Eq (backend.evaluate stack name key)
        (backend.evaluate stack name key) :=
      evaluate_alike (closed_everything _) backend.alike_accounting (.refl _ stack) trivial key
    rw [accounted.2, List.all_eq_true]
  refine ⟨evaluation, ?_, ?_, ?_⟩
  · intro rules allocation
    have accounted : (accounting backend.isAtHand).Related Eq
        (rules.decision allocation (backend.context stack key))
        (rules.decision allocation (backend.context stack key)) :=
      CompiledRules.related_decision_of_queries (context rules.queries)
    rw [accounted.2, List.all_eq_true]
  · intro segment
    have accounted := RuleBasedSegment.related_hasKey_of_queries (context segment.compiledQueries)
    rw [accounted.2, List.all_eq_true]
  · intro everything name
    exact (evaluation name).mpr fun call _ => everything call

theorem atHand_iff_calls_atHand_onboarding :
    (∀ call, onboarding.isAtHand call = true) ∧
      (onboarding.evaluate {} "wiki" (.ofMatching "alice")).isReady = true ∧
      ¬∀ call ∈ ((onboarding.withPending (· = .segment "employees" "alice")).evaluate {} "wiki"
          (.ofMatching "alice")).calls,
        (onboarding.withPending (· = .segment "employees" "alice")).isAtHand call = true := by
  have everything : ∀ call, onboarding.isAtHand call = true := by
    intro call
    cases call with
    | flag name => rfl
    | ruleBased name => rfl
    | segment name key => rfl
    | largeSegment name key => rfl
    | evaluator name key => rfl
    | handedBack name evaluation => rfl
  refine ⟨everything, ?_, ?_⟩
  · exact (atHand_iff_calls_atHand onboarding {} (.ofMatching "alice")).2.2.2 everything "wiki"
  · rw [← (atHand_iff_calls_atHand _ {} (.ofMatching "alice")).1 "wiki"]
    decide +kernel

end Backend

end Targeting
