import Targeting.Proofs.Decision
import Targeting.Proofs.Nested

/-!
# Provenance of evaluations

Where the parts of an evaluation come from. An evaluation always has a treatment. Its change number
is there exactly if a flag was read, and is the one of that flag; its configuration is never that of
another treatment than its own.

There are many ways to come to an evaluation, but a flag that was read is left in only two forms:
as the evaluation of a failure, or as the evaluation to a treatment that the flag offers, with
everything that the flag adds to it. `Flag.EndsIn` has one constructor for each, and says when a
flag ends in a failure.
-/

namespace Targeting

namespace Flag

/-- A treatment that a flag can be evaluated to. A partition without buckets offers none. -/
inductive Offers (flag : Flag) : String → Prop where
  | control : Offers flag control
  | default : Offers flag flag.defaultTreatment
  | share {condition : Condition} {partition : Partition} (stated : condition ∈ flag.conditions)
      (shared : partition ∈ condition.partitions) (positive : 0 < partition.size) :
      Offers flag partition.treatment

/-- The evaluation takes its parts from the flag. -/
structure Accounts (flag : Flag) (evaluation : Evaluation) : Prop where
  treatment : flag.Offers evaluation.treatment
  changeNumber : evaluation.changeNumber? = some flag.changeNumber
  config : evaluation.config? = none ∨
    evaluation.config? = flag.config? evaluation.treatment

end Flag

section

variable [PatternLanguage]

namespace Flag

/-- What a flag that was read comes to: a failure, if its partitions are malformed or it is met
inside its own evaluation, and a treatment that it offers otherwise. -/
inductive EndsIn (flag : Flag) (stack : Stack) : Evaluation → Prop where
  | failure (fails : Outcome.Fails (Rules.ofConditions flag.conditions) ∨ flag.name ∈ stack.flags) :
      EndsIn flag stack flag.failedEvaluation
  | offer {treatment label : String} (offered : flag.Offers treatment) :
      EndsIn flag stack (flag.evaluationOf treatment label)

variable {flag : Flag} {stack : Stack} {evaluation : Evaluation}

theorem EndsIn.exists_treatment (ends : flag.EndsIn stack evaluation) :
    evaluation.treatment?.isSome = true := by
  cases ends with
  | failure fails => rfl
  | offer offered => rfl

theorem EndsIn.accounts (ends : flag.EndsIn stack evaluation) : flag.Accounts evaluation := by
  cases ends with
  | failure fails => exact ⟨.control, rfl, .inl rfl⟩
  | offer offered => exact ⟨offered, rfl, .inr rfl⟩

/-- The configuration is left out by failures only. -/
theorem EndsIn.config_eq (ends : flag.EndsIn stack evaluation)
    (wellFormed : ∃ rules, Rules.ofConditions flag.conditions = .ok rules)
    (fresh : flag.name ∉ stack.flags) :
    evaluation.config? = flag.config? evaluation.treatment := by
  cases ends with
  | failure fails =>
      rcases fails with malformed | entered
      · exact absurd malformed (Outcome.not_fails_iff.mpr wellFormed)
      · exact absurd entered fresh
  | offer offered => rfl

end Flag

theorem Condition.FirstDecides.exists_decides {allocation : Allocation} {context : Context}
    {conditions : List Condition} {decision : Option Evaluation} {evaluation : Evaluation}
    (first : FirstDecides allocation context conditions decision)
    (decided : decision = some evaluation) :
    ∃ condition ∈ conditions, condition.Decides allocation context evaluation := by
  induction first with
  | exhausted => cases decided
  | decides decides =>
      cases decided
      exact ⟨_, List.mem_cons_self, decides⟩
  | abstains abstains later ih =>
      rcases ih decided with ⟨condition, member, decides⟩
      exact ⟨condition, List.mem_cons_of_mem _ member, decides⟩

/-- A condition decides for one of its partitions, and never for one without buckets. -/
theorem Condition.Decides.exists_partition {allocation : Allocation} {context : Context}
    {condition : Condition} {evaluation : Evaluation} {treatment : String}
    (decides : condition.Decides allocation context evaluation)
    (given : evaluation.treatment? = some treatment) :
    ∃ partition ∈ condition.partitions, 0 < partition.size ∧ partition.treatment = treatment := by
  cases decides with
  | leftOut outside => cases given
  | share inside allMatch share =>
      rcases share with ⟨index, partition, owns, found, rfl⟩
      have positive := owns.size_pos found
      exact ⟨partition, List.mem_of_getElem? found, positive, Option.some.inj given⟩

namespace CompiledFlag

variable {flag : Flag} {compiled : CompiledFlag} {context : Context}

theorem offers_of_decision (compiles : ofFlag flag = .ok compiled) {decision : Evaluation}
    {treatment : String}
    (decided : (compiled.rules.decision flag.allocation context).value = some decision)
    (given : decision.treatment? = some treatment) : flag.Offers treatment := by
  have built := rules_of_ofFlag compiles
  rcases found : compiled.rules with rules | _
  · rw [found] at built decided
    have first := (CompiledRules.value_decision_iff
      (Rules.ofConditions_eq_compiled_iff.mp built)).mp decided
    rcases first.exists_decides rfl with ⟨condition, stated, decides⟩
    rcases decides.exists_partition given with ⟨partition, shared, positive, rfl⟩
    exact .share stated shared positive
  · rw [found] at decided
    cases Option.some.inj decided
    cases given
    exact .control

theorem exists_offer (compiles : ofFlag flag = .ok compiled) :
    ∃ treatment label, flag.Offers treatment ∧
      (compiled.evaluateIn context).value = flag.evaluationOf treatment label := by
  unfold evaluateIn
  rw [flag_of_ofFlag compiles]
  dsimp only
  split
  · exact ⟨_, Label.killed, .default, rfl⟩
  · rw [Lookup.value_bind]
    split
    · rw [Lookup.value_map]
      rcases decided : (compiled.rules.decision flag.allocation context).value with _ | decision
      · exact ⟨_, Label.defaultRule, .default, rfl⟩
      · rcases given : decision.treatment? with _ | treatment
        · exact ⟨_, decision.label, .default, by simp [conclude, given, Flag.defaultEvaluation]⟩
        · exact ⟨treatment, decision.label, offers_of_decision compiles decided given,
            by simp [conclude, given]⟩
    · exact ⟨_, Label.prerequisitesNotMet, .default, rfl⟩

end CompiledFlag

namespace Backend

variable (backend : Backend) (stack : Stack) (name : String) (key : Key)

theorem value_evaluate :
    (backend.evaluate stack name key).value =
      (Storage.foundFlag backend.attributes backend.surroundings stack key
        (backend.storage.flag name).value).value := by
  unfold evaluate
  rw [Storage.evaluateFlag_eq, Lookup.value_bind, Lookup.value_ask]

theorem endsIn_of_found {flag : Flag}
    (found : (backend.storage.flag name).value = .ok (some flag)) :
    flag.EndsIn stack (backend.evaluate stack name key).value := by
  rw [value_evaluate, found, Storage.foundFlag]
  rcases compiles : CompiledFlag.ofFlag flag with error | compiled
  · have malformed := Outcome.map_eq_error_iff.mp compiles
    exact .failure (.inl ⟨error, malformed⟩)
  · dsimp only
    split
    · next entered => exact .failure (.inr entered)
    · rcases CompiledFlag.exists_offer compiles with ⟨treatment, label, offered, same⟩
      rw [same]
      exact .offer offered

/-- Without a flag, nothing but control with a label is left. -/
theorem exists_ofControl_of_notFound
    (missing : ∀ flag, (backend.storage.flag name).value ≠ .ok (some flag)) :
    ∃ label, (backend.evaluate stack name key).value = .ofControl label := by
  rw [value_evaluate]
  rcases found : (backend.storage.flag name).value with error | _ | flag
  · exact ⟨Label.exception, rfl⟩
  · exact ⟨Label.notFound, rfl⟩
  · exact absurd found (missing flag)

theorem isSome_treatment :
    (backend.evaluate stack name key).value.treatment?.isSome = true := by
  by_cases stored : ∃ flag, (backend.storage.flag name).value = .ok (some flag)
  · rcases stored with ⟨flag, found⟩
    exact (backend.endsIn_of_found stack name key found).exists_treatment
  · rcases backend.exists_ofControl_of_notFound stack name key (not_exists.mp stored) with
      ⟨label, same⟩
    rw [same]
    rfl

end Backend

end

namespace Backend

end Backend

end Targeting
