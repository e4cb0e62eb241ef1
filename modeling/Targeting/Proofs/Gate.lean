import Targeting.Pattern.Standard
import Targeting.Proofs.Nested

/-!
# What stands before the rules of a flag

A flag that is turned off evaluates to its default treatment at once. Otherwise the flags that it
depends on are evaluated inside of its own evaluation, one after the other, and the first of them
that does not have an accepted treatment ends the evaluation. Only if there is none do the rules
decide. Without a decision, or with one that has no treatment, the default treatment takes its
place, and the change number and the configuration always are those of the flag.

Nothing is assumed of the evaluations of other flags: they may come from a storage or from a custom
evaluator, may know of the evaluations that they are inside of, may be pending, and may take any
calls themselves.
-/

namespace Targeting

namespace Prerequisite

variable {context : Context} {prerequisite : Prerequisite}

/-- The evaluation that a prerequisite asks for. -/
def asked (context : Context) (prerequisite : Prerequisite) : Lookup Call Evaluation :=
  context.surroundings.evaluation prerequisite.flag context.key

/-- The other flag has an accepted treatment. -/
def IsMet (context : Context) (prerequisite : Prerequisite) : Prop :=
  (prerequisite.asked context).value.treatment ∈ prerequisite.treatments

instance : Decidable (prerequisite.IsMet context) :=
  inferInstanceAs (Decidable (_ ∈ prerequisite.treatments))

/-- The evaluations that several prerequisites ask for, one after the other. -/
def askAll (context : Context) (prerequisites : List Prerequisite) :
    Lookup Call (List Evaluation) :=
  Lookup.collect (prerequisites.map (asked context))

@[simp]
theorem calls_askAll (context : Context) (prerequisites : List Prerequisite) :
    (askAll context prerequisites).calls =
      prerequisites.flatMap fun prerequisite => (prerequisite.asked context).calls := by
  rw [askAll, Lookup.calls_collect, List.flatMap_map]

@[simp]
theorem isReady_askAll (context : Context) (prerequisites : List Prerequisite) :
    (askAll context prerequisites).isReady =
      prerequisites.all fun prerequisite => (prerequisite.asked context).isReady := by
  rw [askAll, Lookup.isReady_collect, List.all_map]
  rfl

theorem askAll_cons_andThen {α : Type} (prerequisite : Prerequisite) (rest : List Prerequisite)
    (next : Lookup Call α) :
    (askAll context (prerequisite :: rest)).andThen next =
      (prerequisite.asked context).andThen ((askAll context rest).andThen next) := by
  rw [askAll, List.map_cons, Lookup.collect_cons_andThen, ← askAll]

theorem acceptsEvaluation_iff :
    prerequisite.acceptsEvaluation (prerequisite.asked context).value = true ↔
      prerequisite.IsMet context :=
  List.contains_iff_mem

theorem allMet_cons_of_isMet (met : prerequisite.IsMet context) (rest : List Prerequisite) :
    allMet context (prerequisite :: rest) =
      (prerequisite.asked context).andThen (allMet context rest) := by
  rw [allMet, ← asked, Lookup.bind, if_pos (acceptsEvaluation_iff.mpr met)]

theorem allMet_cons_of_not_isMet (refused : ¬prerequisite.IsMet context)
    (rest : List Prerequisite) :
    allMet context (prerequisite :: rest) =
      (prerequisite.asked context).andThen (.ready false) := by
  rw [allMet, ← asked, Lookup.bind, if_neg (acceptsEvaluation_iff.not.mpr refused)]

/-- Prerequisites that are met are evaluated in order, and those after them are looked at next. -/
theorem allMet_append {before : List Prerequisite}
    (met : ∀ prerequisite ∈ before, prerequisite.IsMet context) (rest : List Prerequisite) :
    allMet context (before ++ rest) =
      (askAll context before).andThen (allMet context rest) := by
  induction before with
  | nil => rw [List.nil_append, askAll, List.map_nil, Lookup.collect, Lookup.ready_andThen]
  | cons prerequisite others ih =>
      rw [List.forall_mem_cons] at met
      rw [List.cons_append, allMet_cons_of_isMet met.1, ih met.2, askAll_cons_andThen]

theorem allMet_of_isMet {prerequisites : List Prerequisite}
    (met : ∀ prerequisite ∈ prerequisites, prerequisite.IsMet context) :
    allMet context prerequisites = (askAll context prerequisites).andThen (.ready true) := by
  have all := allMet_append met []
  rwa [List.append_nil] at all

/-- The first prerequisite that is not met is the last one that is evaluated. -/
theorem allMet_of_refused {before : List Prerequisite}
    (met : ∀ prerequisite ∈ before, prerequisite.IsMet context)
    (refused : ¬prerequisite.IsMet context) (after : List Prerequisite) :
    allMet context (before ++ prerequisite :: after) =
      (askAll context (before ++ [prerequisite])).andThen (.ready false) := by
  rw [allMet_append met, allMet_cons_of_not_isMet refused]
  apply Lookup.ext_of
  · simp
  · simp
  · simp

end Prerequisite

namespace Flag

/-- An evaluation to a treatment under a label, with the change number of the flag and the
configuration of that treatment. -/
structure Gives (flag : Flag) (treatment label : String) (evaluation : Evaluation) : Prop where
  treatment_eq : evaluation.treatment? = some treatment
  label_eq : evaluation.label = label
  changeNumber_eq : evaluation.changeNumber? = some flag.changeNumber
  config_eq : evaluation.config? = flag.configurations.bind (·.lookup treatment)

theorem gives_evaluationOf (flag : Flag) (treatment label : String) :
    flag.Gives treatment label (flag.evaluationOf treatment label) := ⟨rfl, rfl, rfl, rfl⟩

theorem gives_defaultEvaluation (flag : Flag) (label : String) :
    flag.Gives flag.defaultTreatment label (flag.defaultEvaluation label) :=
  flag.gives_evaluationOf flag.defaultTreatment label

end Flag

namespace CompiledFlag

/-- Evaluate a flag inside the given evaluations, when surroundings know what they are inside of. -/
def evaluate (compiled : CompiledFlag) (surroundings : Stack → Surroundings)
    (attributes : Attributes) (stack : Stack) (key : Key) : Lookup Call Evaluation :=
  if compiled.flag.name ∈ stack.flags then .ready compiled.flag.failedEvaluation
  else
    compiled.evaluateIn ⟨key, attributes, surroundings (stack.enterFlag compiled.flag.name)⟩

theorem evaluateCompiled_eq [PatternLanguage] (backend : Backend) (stack : Stack)
    (compiled : CompiledFlag) (key : Key) :
    backend.evaluateCompiled stack compiled key =
      compiled.evaluate backend.surroundings backend.attributes stack key := rfl

variable {compiled : CompiledFlag} {context : Context}

theorem evaluateIn_of_killed (killed : compiled.flag.killed = true) :
    compiled.evaluateIn context = .ready (compiled.flag.defaultEvaluation Label.killed) := by
  rw [evaluateIn, if_pos killed]

theorem evaluateIn_of_refused (alive : compiled.flag.killed = false)
    {before after : List Prerequisite} {prerequisite : Prerequisite}
    (split : compiled.flag.prerequisites = before ++ prerequisite :: after)
    (met : ∀ prerequisite ∈ before, prerequisite.IsMet context)
    (refused : ¬prerequisite.IsMet context) :
    compiled.evaluateIn context =
      (Prerequisite.askAll context (before ++ [prerequisite])).andThen
        (.ready (compiled.flag.defaultEvaluation Label.prerequisitesNotMet)) := by
  simp only [evaluateIn, alive, split, Prerequisite.allMet_of_refused met refused]
  apply Lookup.ext_of
  · simp
  · simp
  · simp

theorem evaluateIn_of_isMet (alive : compiled.flag.killed = false)
    (met : ∀ prerequisite ∈ compiled.flag.prerequisites, prerequisite.IsMet context) :
    compiled.evaluateIn context =
      (Prerequisite.askAll context compiled.flag.prerequisites).andThen
        ((compiled.rules.decision compiled.flag.allocation context).map
          (conclude compiled.flag)) := by
  simp only [evaluateIn, alive, Prerequisite.allMet_of_isMet met]
  apply Lookup.ext_of
  · simp
  · simp
  · simp

/-- How a flag that is not inside of its own evaluation is evaluated: the switch comes first, the
prerequisites up to the first that is not met come next, and the rules come last. -/
theorem evaluates_in_order [PatternLanguage] {flag : Flag} {compiled : CompiledFlag}
    (compiles : ofFlag flag = .ok compiled) {stack : Stack} (outside : flag.name ∉ stack.flags)
    (surroundings : Stack → Surroundings) (attributes : Attributes) (key : Key) :
    let evaluation := compiled.evaluate surroundings attributes stack key
    let context : Context := ⟨key, attributes, surroundings (stack.enterFlag flag.name)⟩
    let decision := compiled.rules.decision flag.allocation context
    (flag.killed = true →
      evaluation.calls = [] ∧ evaluation.isReady = true ∧
        flag.Gives flag.defaultTreatment "killed" evaluation.value) ∧
    (flag.killed = false →
      ∀ before refused after, flag.prerequisites = before ++ refused :: after →
        (∀ prerequisite ∈ before, prerequisite.IsMet context) → ¬refused.IsMet context →
          evaluation.calls = (before ++ [refused]).flatMap (fun prerequisite =>
            (prerequisite.asked context).calls) ∧
          evaluation.isReady = (before ++ [refused]).all (fun prerequisite =>
            (prerequisite.asked context).isReady) ∧
          flag.Gives flag.defaultTreatment "prerequisites not met" evaluation.value) ∧
    (flag.killed = false →
      (∀ prerequisite ∈ flag.prerequisites, prerequisite.IsMet context) →
        evaluation.calls = flag.prerequisites.flatMap (fun prerequisite =>
          (prerequisite.asked context).calls) ++ decision.calls ∧
        evaluation.isReady = (flag.prerequisites.all (fun prerequisite =>
          (prerequisite.asked context).isReady) && decision.isReady) ∧
        (decision.value = none →
          flag.Gives flag.defaultTreatment "default rule" evaluation.value) ∧
        (∀ decided, decision.value = some decided → decided.treatment? = none →
          flag.Gives flag.defaultTreatment decided.label evaluation.value) ∧
        ∀ decided treatment, decision.value = some decided →
          decided.treatment? = some treatment →
            flag.Gives treatment decided.label evaluation.value) := by
  cases flag_of_ofFlag compiles
  intro evaluation context decision
  have entered : evaluation = compiled.evaluateIn context := if_neg outside
  refine ⟨?_, ?_, ?_⟩
  · intro killed
    rw [entered, evaluateIn_of_killed killed]
    exact ⟨rfl, rfl, compiled.flag.gives_defaultEvaluation "killed"⟩
  · intro alive before refused after split met unmet
    rw [entered, evaluateIn_of_refused alive split met unmet]
    refine ⟨?_, ?_, ?_⟩
    · rw [Lookup.calls_andThen, Prerequisite.calls_askAll, Lookup.calls_ready, List.append_nil]
    · rw [Lookup.isReady_andThen, Prerequisite.isReady_askAll, Lookup.isReady_ready,
        Bool.and_true]
    · rw [Lookup.value_andThen]
      exact compiled.flag.gives_defaultEvaluation "prerequisites not met"
  · intro alive met
    have concluded : evaluation.value = conclude compiled.flag decision.value := by
      rw [entered, evaluateIn_of_isMet alive met, Lookup.value_andThen, Lookup.value_map]
    refine ⟨?_, ?_, ?_, ?_, ?_⟩
    · rw [entered, evaluateIn_of_isMet alive met, Lookup.calls_andThen,
        Prerequisite.calls_askAll, Lookup.calls_map]
    · rw [entered, evaluateIn_of_isMet alive met, Lookup.isReady_andThen,
        Prerequisite.isReady_askAll, Lookup.isReady_map]
    · intro undecided
      rw [concluded, undecided]
      exact compiled.flag.gives_defaultEvaluation "default rule"
    · intro decided chosen missing
      rw [concluded, chosen, conclude, missing]
      exact compiled.flag.gives_defaultEvaluation decided.label
    · intro decided treatment chosen given
      rw [concluded, chosen, conclude, given]
      exact compiled.flag.gives_evaluationOf treatment decided.label

/-- A flag that depends on another one twice, and on a third one. -/
def checkout : Flag where
  name := "checkout"
  defaultTreatment := "off"
  changeNumber := 7
  configurations := some [("off", "plain")]
  prerequisites := [⟨"login", ["on"]⟩, ⟨"login", ["on", "trial"]⟩, ⟨"beta", ["on"]⟩]

/-- Surroundings in which everybody is logged in and only one key is in the beta, as long as they
are asked from inside of the flag. -/
def accounts (stack : Stack) : Surroundings where
  inSegment name key := Storage.asked (.segment name key) (.ready (.ok false))
  inLargeSegment name key := Storage.asked (.largeSegment name key) (.ready (.ok false))
  inRuleBased name _ := Lookup.ask (.ruleBased name) (.ready (.ok false))
  evaluation name key :=
    let treatment := if name = "login" ∨ key.matching = "alice" then "on" else "off"
    Lookup.ask (.evaluator name key) <|
      if stack.flags = ["checkout"] then .pending (.ofTreatment treatment "")
      else .ready (.ofControl Label.exception)

theorem evaluates_in_order_checkout :
    ∃ compiled evaluation, ofFlag checkout = .ok compiled ∧
      checkout.name ∉ (Stack.mk [] []).flags ∧
      compiled.evaluate accounts [] {} (.ofMatching "bob") = evaluation ∧
      evaluation.calls =
        [.evaluator "login" (.ofMatching "bob"), .evaluator "login" (.ofMatching "bob"),
          .evaluator "beta" (.ofMatching "bob")] ∧
      evaluation.isReady = false ∧
      checkout.Gives "off" "prerequisites not met" evaluation.value ∧
      evaluation.value.config? = some "plain" ∧
      checkout.Gives "off" "default rule"
        (compiled.evaluate accounts [] {} (.ofMatching "alice")).value := by
  have compiles : ofFlag checkout = .ok ⟨checkout, .compiled ⟨[]⟩⟩ := rfl
  have outside : checkout.name ∉ (Stack.mk [] []).flags := List.not_mem_nil
  have ⟨_, refused, _⟩ :=
    evaluates_in_order compiles outside accounts [] (.ofMatching "bob")
  have ⟨_, _, decided⟩ :=
    evaluates_in_order compiles outside accounts [] (.ofMatching "alice")
  have ⟨calls, readiness, value⟩ := refused rfl
    [⟨"login", ["on"]⟩, ⟨"login", ["on", "trial"]⟩] ⟨"beta", ["on"]⟩ [] rfl
    (by decide +kernel) (by decide +kernel)
  have ⟨_, _, undecided, _⟩ := decided rfl (by decide +kernel)
  exact ⟨_, _, compiles, outside, rfl, calls, readiness, value, value.config_eq, undecided rfl⟩

end CompiledFlag

namespace Backend

/-- A custom evaluator that never hands a flag back is called once for each prerequisite, in order
and up to the first that is not met. -/
theorem evaluator_called_in_order [PatternLanguage] {backend : Backend}
    {evaluator : FlagEvaluator}
    (custom : backend.evaluator? = some evaluator)
    (answers : ∀ name key, (evaluator.answer? name key).isSome)
    {compiled : CompiledFlag} {stack : Stack} (outside : compiled.flag.name ∉ stack.flags)
    {key : Key} (alive : compiled.flag.killed = false)
    {before after : List Prerequisite} {refused : Prerequisite}
    (split : compiled.flag.prerequisites = before ++ refused :: after)
    (met : ∀ prerequisite ∈ before,
      prerequisite.IsMet (backend.context (stack.enterFlag compiled.flag.name) key))
    (unmet : ¬refused.IsMet (backend.context (stack.enterFlag compiled.flag.name) key)) :
    (backend.evaluateCompiled stack compiled key).calls =
      (before ++ [refused]).map fun prerequisite => .evaluator prerequisite.flag key := by
  have called : ∀ prerequisite : Prerequisite,
      (prerequisite.asked (backend.context (stack.enterFlag compiled.flag.name) key)).calls =
        [.evaluator prerequisite.flag key] := by
    intro prerequisite
    rcases Option.isSome_iff_exists.mp (answers prerequisite.flag key) with ⟨answer, given⟩
    simp only [Prerequisite.asked, context, evaluation_eq, dependency, custom, given]
    rfl
  rw [evaluateCompiled, if_neg outside, CompiledFlag.evaluateIn_of_refused alive split met unmet,
    Lookup.calls_andThen, Prerequisite.calls_askAll, Lookup.calls_ready, List.append_nil]
  simp only [called, List.map_eq_flatMap]

end Backend

end Targeting
