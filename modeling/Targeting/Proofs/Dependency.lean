import Targeting.Proofs.Provenance

/-!
# Depending on other flags

A flag can depend on another one in two ways. It can require the other flag to have one of several
treatments, and it can have a matcher that asks whether the other flag has one of them. Both ask for
one evaluation of the other flag, for the same key, and both look at its treatment.

They differ in how they read an evaluation without a treatment: a prerequisite takes it for control,
and a matcher finds none of its treatments in it. Flags that are read from a storage always have a
treatment, so that only a custom evaluator can bring the difference to light.
-/

namespace Targeting

/-- The matcher asks for what a prerequisite requires: it is not negated, looks at no attribute, and
has the same flag and treatments. -/
structure MatcherDefinition.Mirrors (definition : MatcherDefinition)
    (prerequisite : Prerequisite) : Prop where
  kind : definition.kindName = MatcherKind.inSplitTreatment.name
  dependency : definition.dependency = some ⟨prerequisite.flag, prerequisite.treatments⟩
  plain : definition.negate = false
  noAttribute : definition.keySelector.bind (·.attribute?) = none

namespace CompiledMatcher

/-- What a plain matcher for treatments of another flag is compiled to. -/
def dependency (flag : String) (treatments : List String) : CompiledMatcher where
  matcher :=
    { kind := .inSplitTreatment, operand := .dependency flag treatments, attribute? := none
      negate := false, valueType := .notSpecified }
  predicate := .inSplitTreatment flag treatments

theorem ofDefinition_of_mirrors [PatternLanguage] {definition : MatcherDefinition}
    {prerequisite : Prerequisite} (mirrors : definition.Mirrors prerequisite) :
    ofDefinition definition = .ok (dependency prerequisite.flag prerequisite.treatments) := by
  refine ofDefinition_eq_ok_iff.mpr ⟨Matcher.ofDefinition_eq_ok_iff.mpr ⟨?_, ?_, ?_, ?_⟩, rfl⟩
  · rw [mirrors.kind]
    exact MatcherKind.ofName?_name .inSplitTreatment
  · simp only [dependency, Matcher.payload, mirrors.dependency]
    rfl
  · exact mirrors.noAttribute.symm
  · exact mirrors.plain.symm

theorem isMatch_dependency (flag : String) (treatments : List String) (context : Context) :
    (dependency flag treatments).isMatch context =
      (context.surroundings.evaluation flag context.key).map
        (Predicate.hasTreatment treatments) := by
  have compared : (dependency flag treatments).matcher.value? context.key context.attributes =
      some (.key context.key) := rfl
  have asked : (dependency flag treatments).predicate.holds (.key context.key)
        context.surroundings =
      (context.surroundings.evaluation flag context.key).map fun evaluation =>
        .ok (Predicate.hasTreatment treatments evaluation) := rfl
  have plain : (dependency flag treatments).matcher.negate = false := rfl
  unfold isMatch holds
  rw [compared, plain]
  dsimp only
  rw [asked]
  apply Lookup.ext_of
  · simp [Except.toOption]
  · simp
  · simp

end CompiledMatcher

namespace Prerequisite

variable {prerequisite : Prerequisite}

theorem allMet_singleton (prerequisite : Prerequisite) (context : Context) :
    allMet context [prerequisite] =
      (context.surroundings.evaluation prerequisite.flag context.key).map
        prerequisite.acceptsEvaluation := by
  simp only [allMet]
  apply Lookup.ext_of
  · rw [Lookup.value_bind, Lookup.value_map]
    split
    · next accepted => rw [accepted, Lookup.value_ready]
    · next refused => rw [Lookup.value_ready, Bool.eq_false_of_not_eq_true refused]
  · rw [Lookup.isReady_bind, Lookup.isReady_map]
    split
    · rw [Lookup.isReady_ready, Bool.and_true]
    · rw [Lookup.isReady_ready, Bool.and_true]
  · rw [Lookup.calls_bind, Lookup.calls_map]
    split
    · rw [Lookup.calls_ready, List.append_nil]
    · rw [Lookup.calls_ready, List.append_nil]

/-- The two readings of an evaluation only differ where there is no treatment to be read and control
would be accepted. -/
theorem hasTreatment_eq_acceptsEvaluation {evaluation : Evaluation}
    (unambiguous : evaluation.treatment? = none → control ∉ prerequisite.treatments) :
    Predicate.hasTreatment prerequisite.treatments evaluation =
      prerequisite.acceptsEvaluation evaluation := by
  unfold Predicate.hasTreatment acceptsEvaluation Evaluation.treatment
  rw [Bool.eq_iff_iff]
  rcases given : evaluation.treatment? with _ | treatment
  · simp [unambiguous given]
  · simp

/-- A prerequisite and a matcher for the same treatments of a flag come to the same answer, with the
same calls, unless the flag evaluates to no treatment and control would be accepted. In that case
the prerequisite is met and the matcher does not match. It cannot arise without a custom
evaluator. -/
theorem met_as_matcher_unless_missing [PatternLanguage] {definition : MatcherDefinition}
    (mirrors : definition.Mirrors prerequisite) :
    ∃ compiled, CompiledMatcher.ofDefinition definition = .ok compiled ∧
      (∀ context,
        ((context.surroundings.evaluation prerequisite.flag context.key).value.treatment? = none →
            control ∉ prerequisite.treatments) →
          allMet context [prerequisite] = compiled.isMatch context) ∧
      (∀ context,
        (context.surroundings.evaluation prerequisite.flag context.key).value.treatment? = none →
          control ∈ prerequisite.treatments →
            (allMet context [prerequisite]).value = true ∧
              (compiled.isMatch context).value = false) ∧
      ∀ (backend : Backend) (stack : Stack) (key : Key), backend.evaluator? = none →
        allMet (backend.context stack key) [prerequisite] =
          compiled.isMatch (backend.context stack key) := by
  have agree : ∀ context,
      ((context.surroundings.evaluation prerequisite.flag context.key).value.treatment? = none →
          control ∉ prerequisite.treatments) →
        allMet context [prerequisite] =
          (CompiledMatcher.dependency prerequisite.flag prerequisite.treatments).isMatch
            context := by
    intro context unambiguous
    rw [allMet_singleton, CompiledMatcher.isMatch_dependency]
    apply Lookup.ext_of
    · rw [Lookup.value_map, Lookup.value_map, hasTreatment_eq_acceptsEvaluation unambiguous]
    · rw [Lookup.isReady_map, Lookup.isReady_map]
    · rw [Lookup.calls_map, Lookup.calls_map]
  refine ⟨_, CompiledMatcher.ofDefinition_of_mirrors mirrors, agree, ?_, ?_⟩
  · intro context missing accepted
    rw [allMet_singleton, CompiledMatcher.isMatch_dependency, Lookup.value_map, Lookup.value_map]
    constructor
    · simpa [acceptsEvaluation, Evaluation.treatment, missing] using accepted
    · simp [Predicate.hasTreatment, missing]
  · intro backend stack key default
    apply agree
    intro missing
    have present := backend.isSome_treatment stack prerequisite.flag key
    simp only [Backend.context, Backend.evaluation_eq, default, Backend.dependency] at missing
    rw [missing] at present
    cases present

/-- Another flag is required to be off or not to be there. -/
def loggedOut : Prerequisite := ⟨"login", ["off", control]⟩

/-- The matcher for the same. -/
def loggedOutMatcher : MatcherDefinition where
  kindName := "IN_SPLIT_TREATMENT"
  dependency := some ⟨"login", ["off", control]⟩

theorem loggedOutMatcher_mirrors : loggedOutMatcher.Mirrors loggedOut where
  kind := rfl
  dependency := rfl
  plain := rfl
  noAttribute := rfl

/-- The context of a key with a custom evaluator that gives one evaluation for every flag. -/
def visitor (evaluation : Evaluation) : Context :=
  Backend.context
    { storage := Memory.toStorage {} {}, evaluator? := some ⟨fun _ _ => some (.ready evaluation)⟩ }
    {} (.ofMatching "alice")

theorem value_evaluation_visitor (evaluation : Evaluation) :
    ((visitor evaluation).surroundings.evaluation loggedOut.flag (visitor evaluation).key).value =
      evaluation := by
  simp only [visitor, Backend.context, Backend.evaluation_eq]
  rfl

theorem met_as_matcher_unless_missing_loggedOut :
    loggedOutMatcher.Mirrors loggedOut ∧
      ∃ compiled, CompiledMatcher.ofDefinition loggedOutMatcher = .ok compiled ∧
        allMet (visitor (.ofTreatment "off" "")) [loggedOut] =
          compiled.isMatch (visitor (.ofTreatment "off" "")) ∧
        (allMet (visitor .notInSplit) [loggedOut]).value = true ∧
        (compiled.isMatch (visitor .notInSplit)).value = false := by
  rcases met_as_matcher_unless_missing loggedOutMatcher_mirrors with
    ⟨compiled, compiles, agree, differ, _⟩
  refine ⟨loggedOutMatcher_mirrors, compiled, compiles, ?_, ?_⟩
  · apply agree
    rw [value_evaluation_visitor]
    intro missing
    cases missing
  · apply differ
    · rw [value_evaluation_visitor]
      rfl
    · decide

theorem missing_treatment_told_apart :
    ¬∀ (definition : MatcherDefinition) (prerequisite : Prerequisite),
      definition.Mirrors prerequisite → ∀ compiled,
        CompiledMatcher.ofDefinition definition = .ok compiled → ∀ context,
          ((allMet context [prerequisite]).value = true ↔
            (compiled.isMatch context).value = true) := by
  intro agree
  have same := agree loggedOutMatcher loggedOut loggedOutMatcher_mirrors _
    (CompiledMatcher.ofDefinition_of_mirrors loggedOutMatcher_mirrors) (visitor .notInSplit)
  rw [allMet_singleton, CompiledMatcher.isMatch_dependency, Lookup.value_map, Lookup.value_map,
    value_evaluation_visitor] at same
  exact absurd same (by decide)

end Prerequisite

end Targeting
