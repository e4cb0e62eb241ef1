import Targeting.Pattern.Standard
import Targeting.Proofs.Nested

/-!
# Chains of nested evaluations

Definitions may refer to each other in any way, also in cycles, and yet no evaluation goes round in
circles. `Backend.Nests` says when one evaluation needs the result of another, without looking at
how evaluations keep track of where they are: some answer to the inner one makes a difference to the
outer one. A chain follows this relation inwards from an evaluation with an empty stack.

The invariant of a chain is that its stack holds the names of the evaluations around, and nothing
else. The stack is what cuts evaluations off, so that a name is cut off exactly if it is being
evaluated further out on the same chain.
-/

namespace Targeting

/-- What is evaluated, and the names entered before. -/
structure Frame where
  query : Query
  stack : Stack

/-- The queries that evaluations can enter. -/
def Storage.definitions (storage : Storage) : List Query :=
  storage.flagNames.map .flag ++ storage.ruleBasedNames.map .ruleBased

theorem Storage.depth_le (storage : Storage) (stack : Stack) :
    storage.depth stack ≤ storage.definitions.length := by
  have flags := List.length_filter_le (fun name => !stack.flags.contains name) storage.flagNames
  have segments :=
    List.length_filter_le (fun name => !stack.segments.contains name) storage.ruleBasedNames
  simp only [depth, Stack.remaining, definitions, List.length_append, List.length_map]
  omega

/-- What an evaluation enters, and where it then goes. -/
inductive Storage.Enters (storage : Storage) : Frame → Frame → Prop where
  | flag {name : String} {flag : Flag} {query : Query} {stack : Stack}
      (found : (storage.flag name).value = .ok (some flag)) (fresh : flag.name ∉ stack.flags)
      (asked : query ∈ flag.queries) :
      Enters storage ⟨.flag name, stack⟩ ⟨query, stack.enterFlag flag.name⟩
  | ruleBased {name : String} {segment : RuleBasedSegment} {query : Query} {stack : Stack}
      (found : (storage.ruleBased name).value = .ok (some segment))
      (fresh : name ∉ stack.segments) (asked : query ∈ segment.queries) :
      Enters storage ⟨.ruleBased name, stack⟩ ⟨query, stack.enterSegment name⟩

theorem Storage.Enters.leads {storage : Storage} {outer inner : Frame}
    (enters : storage.Enters outer inner) : storage.Leads outer.query inner.query := by
  cases enters with
  | flag found _ asked => exact .flag found asked
  | ruleBased found _ asked => exact .ruleBased found asked

open Lookup.Congruence

namespace Surroundings

/-- Surroundings in which nothing has to be asked. -/
def silent : Surroundings where
  inSegment _ _ := .ready (.ok false)
  inLargeSegment _ _ := .ready (.ok false)
  inRuleBased _ _ := .ready (.ok false)
  evaluation _ _ := .ready (.ofControl Label.notFound)

/-- Surroundings in which one flag, and nothing else, has to be asked for. -/
def askingFor (flag : String) : Surroundings where
  __ := silent
  evaluation name _ :=
    if name = flag then Lookup.ask (.flag name) (.ready (.ofControl Label.notFound))
    else .ready (.ofControl Label.notFound)

theorem silent_alike_askingFor {flag : String} {query : Query} (distinct : query ≠ .flag flag) :
    silent.Alike (identical Call) (askingFor flag) query := by
  cases query with
  | flag name =>
      intro key
      have other : name ≠ flag := mt (congrArg Query.flag) distinct
      simp [silent, askingFor, other]
  | segment name => simp [Alike, silent, askingFor]
  | largeSegment name => simp [Alike, silent, askingFor]
  | ruleBased name => simp [Alike, silent, askingFor]

end Surroundings

namespace Backend

theorem alike_self (backend : Backend) (known : Query → Prop) :
    backend.Alike (identical Call) known backend where
  attributes := rfl
  flag _ := by simp
  segment _ _ := by simp
  largeSegment _ _ := by simp
  ruleBased _ := by simp
  evaluator := by
    rcases backend.evaluator? with _ | evaluator
    · exact .none
    · apply Option.Rel.some
      constructor
      · intro name key
        rcases evaluator.answer? name key with _ | answer
        · exact .none
        · exact .some (by simp)
      · intro name key _
        simp
      · intro name evaluation
        simp

section

variable [PatternLanguage]

/-- The result of one evaluation depends on the result of another further inside, for some results
of all others. -/
def Nests (backend : Backend) (outer inner : Frame) : Prop :=
  ∃ inside inside' : Stack → Surroundings,
    (∀ frame, frame ≠ inner →
      (inside frame.stack).Alike (identical Call) (inside' frame.stack) frame.query) ∧
    ¬(backend.layer inside outer.stack).Alike (identical Call) (backend.layer inside' outer.stack)
      outer.query

/-- An evaluation only depends on what is inside of the definition that it has read. -/
theorem Nests.enters {backend : Backend} {outer inner : Frame}
    (nests : backend.Nests outer inner) : backend.storage.Enters outer inner := by
  rcases nests with ⟨inside, inside', agree, differs⟩
  rcases outer with ⟨query, stack⟩
  -- Everything that the outer evaluation enters is another frame, where the two sides agree.
  by_contra outside
  apply differs
  cases query with
  | flag name =>
      intro key
      apply related_dependency (backend.alike_self fun _ => True).evaluator
      apply related_evaluateFlag
      · simp
      · intro flag _
        exact Iff.rfl
      · intro flag _ selected _
        rfl
      · intro flag found fresh next asked
        apply agree ⟨next, stack.enterFlag flag.name⟩
        rintro rfl
        exact outside (.flag found fresh asked)
  | ruleBased name =>
      intro key
      apply related_hasKey
      · simp
      · exact Iff.rfl
      · intro segment _ selected _
        rfl
      · intro segment found fresh next asked
        apply agree ⟨next, stack.enterSegment name⟩
        rintro rfl
        exact outside (.ruleBased found fresh asked)
  | segment name =>
      intro key
      simp [layer]
  | largeSegment name =>
      intro key
      simp [layer]

/-- The evaluation of a flag depends on that of the flag that it requires first. -/
theorem nests_of_prerequisite {backend : Backend} {name : String} {flag : Flag}
    {compiled : CompiledFlag} {prerequisite : Prerequisite} {rest : List Prerequisite}
    {stack : Stack} (default : backend.evaluator? = none)
    (found : (backend.storage.flag name).value = .ok (some flag))
    (compiles : CompiledFlag.ofFlag flag = .ok compiled) (inUse : flag.killed = false)
    (required : flag.prerequisites = prerequisite :: rest)
    (unmet : control ∉ prerequisite.treatments) (fresh : flag.name ∉ stack.flags) :
    backend.Nests ⟨.flag name, stack⟩ ⟨.flag prerequisite.flag, stack.enterFlag flag.name⟩ := by
  refine ⟨fun _ => .silent, fun other =>
    if other = stack.enterFlag flag.name then .askingFor prerequisite.flag else .silent, ?_, ?_⟩
  · rintro ⟨query, other⟩ elsewhere
    by_cases same : other = stack.enterFlag flag.name
    · simp only [same, if_true]
      apply Surroundings.silent_alike_askingFor
      rintro rfl
      exact elsewhere (by rw [same])
    · simp only [same, if_false]
      cases query <;> simp [Surroundings.Alike]
  · intro alike
    have calls := (alike ⟨"", none⟩).2.2
    have met : prerequisite.acceptsEvaluation (.ofControl Label.notFound) = false := by
      simpa [Prerequisite.acceptsEvaluation, Evaluation.ofControl, Evaluation.ofTreatment,
        Evaluation.treatment] using unmet
    rw [layer_evaluation default, layer_evaluation default] at calls
    simp [found, Storage.foundFlag, compiles, fresh, CompiledFlag.evaluateIn,
      CompiledFlag.flag_of_ofFlag compiles, inUse, required, Prerequisite.allMet,
      Surroundings.silent, Surroundings.askingFor, met] at calls

/-- An evaluation with an empty stack, and one that is nested in it together with the queries that
are being evaluated around it, innermost first. -/
inductive Chain (backend : Backend) (root : Query) : Frame → List Query → Prop where
  | root : Chain backend root ⟨root, {}⟩ []
  | nested {outer inner : Frame} {around : List Query} (outside : Chain backend root outer around)
      (nests : backend.Nests outer inner) : Chain backend root inner (outer.query :: around)

namespace Chain

variable {backend : Backend} {root : Query} {frame : Frame} {around : List Query}

/-- The stack holds the names of the evaluations around. -/
theorem mem_flags (named : backend.storage.OwnNames) (chain : backend.Chain root frame around)
    (name : String) : name ∈ frame.stack.flags ↔ .flag name ∈ around := by
  induction chain with
  | root => simp
  | nested outside nests ih =>
      cases nests.enters with
      | flag found fresh asked => simp [Stack.enterFlag, named.flag found, ← ih]
      | ruleBased found fresh asked => simp [Stack.enterSegment, ← ih]

theorem mem_segments (chain : backend.Chain root frame around) (name : String) :
    name ∈ frame.stack.segments ↔ .ruleBased name ∈ around := by
  induction chain with
  | root => simp
  | nested outside nests ih =>
      cases nests.enters with
      | flag found fresh asked => simp [Stack.enterFlag, ← ih]
      | ruleBased found fresh asked => simp [Stack.enterSegment, ← ih]

theorem nodup (named : backend.storage.OwnNames) (chain : backend.Chain root frame around) :
    around.Nodup := by
  induction chain with
  | root => exact List.nodup_nil
  | nested outside nests ih =>
      apply List.nodup_cons.mpr
      refine ⟨?_, ih⟩
      cases nests.enters with
      | flag found fresh asked =>
          rw [named.flag found] at fresh
          exact mt (outside.mem_flags named _).mpr fresh
      | ruleBased found fresh asked => exact mt (outside.mem_segments _).mpr fresh

theorem subset_definitions (named : backend.storage.OwnNames)
    (chain : backend.Chain root frame around) : around ⊆ backend.storage.definitions := by
  induction chain with
  | root => exact List.nil_subset _
  | nested outside nests ih =>
      apply List.cons_subset.mpr
      refine ⟨?_, ih⟩
      cases nests.enters with
      | flag found fresh asked =>
          have listed := backend.storage.flag_mem found
          rw [named.flag found] at listed
          exact List.mem_append_left _ (List.mem_map_of_mem listed)
      | ruleBased found fresh asked =>
          have listed := backend.storage.ruleBased_mem found
          exact List.mem_append_right _ (List.mem_map_of_mem listed)

end Chain

/-- Names are cut off exactly if they are among the evaluations around: a flag evaluates to control,
a rule-based segment is an error, and any other name is evaluated one level further inside. -/
structure CutsOff (backend : Backend) (stack : Stack) (around : List Query) : Prop where
  flag : ∀ {name flag compiled}, (backend.storage.flag name).value = .ok (some flag) →
    CompiledFlag.ofFlag flag = .ok compiled → ∀ key,
      backend.evaluate stack name key =
        (Lookup.ask (.flag name) (backend.storage.flag name)).andThen
          (if .flag name ∈ around then .ready flag.failedEvaluation
          else compiled.evaluateIn (backend.context (stack.enterFlag name) key))
  cycle : ∀ name key,
    (backend.surroundings stack).inRuleBased name key =
        .ready (.error (.ruleBasedSegmentCycle name)) ↔ .ruleBased name ∈ around
  ruleBased : ∀ {name segment}, (backend.storage.ruleBased name).value = .ok (some segment) →
    .ruleBased name ∉ around → ∀ key,
      (backend.surroundings stack).inRuleBased name key =
        (Lookup.ask (.ruleBased name) (backend.storage.ruleBased name)).andThen
          (segment.hasKey (backend.context (stack.enterSegment name) key))

theorem Chain.cutsOff {backend : Backend} {root : Query} {frame : Frame} {around : List Query}
    (named : backend.storage.OwnNames) (chain : backend.Chain root frame around) :
    backend.CutsOff frame.stack around where
  flag {name flag compiled} found compiles key := by
    rw [evaluate, Storage.evaluateFlag_eq, Lookup.bind, Lookup.value_ask, found]
    simp only [Storage.foundFlag, compiles, named.flag found, chain.mem_flags named, context]
  cycle name key := by
    rw [surroundings_eq_layer]
    simp only [layer, Storage.hasKey_eq, chain.mem_segments]
    constructor
    · intro answered
      -- A segment that is not cut off is read first, and that is a call.
      by_contra fresh
      rw [if_neg fresh] at answered
      have calls := congrArg Lookup.calls answered
      simp at calls
    · intro entered
      rw [if_pos entered]
  ruleBased {name segment} found fresh key := by
    rw [surroundings_eq_layer]
    simp only [layer, Storage.hasKey_eq, chain.mem_segments]
    rw [if_neg fresh, Lookup.bind, Lookup.value_ask, found]
    simp only [Storage.foundRuleBased, context]

/-- No evaluation goes round in circles. On a chain of nested evaluations no flag and no rule-based
segment is entered twice, and names are cut off exactly if they are further out on the chain. A
storage has finitely many definitions; what is nested deeper than that is never evaluated. -/
theorem nesting_ends (backend : Backend) (named : backend.storage.OwnNames) :
    (∀ {root frame around}, backend.Chain root frame around →
      around.Nodup ∧ around.length ≤ backend.storage.definitions.length ∧
        backend.CutsOff frame.stack around) ∧
    ∀ (innermost : Stack → Surroundings) {levels : Nat},
      backend.storage.definitions.length ≤ levels → ∀ stack name key,
        backend.storage.evaluateFlag backend.attributes stack
            (fun name _ _ => backend.unrolled innermost levels (stack.enterFlag name)) name key =
          backend.evaluate stack name key := by
  constructor
  · intro root frame around chain
    have nodup := chain.nodup named
    refine ⟨nodup, ?_, chain.cutsOff named⟩
    exact nodup.length_le_of_subset (chain.subset_definitions named)
  · intro innermost levels enough stack name key
    unfold evaluate
    congr 1
    funext name member fresh
    apply unrolled_eq_surroundings
    have deeper := backend.storage.depth_enterFlag_lt member fresh
    have bound := backend.storage.depth_le stack
    omega

end

/-- A flag that requires another to be on. -/
def requiring (name other : String) : Flag where
  name := name
  prerequisites := [⟨other, ["on"]⟩]

/-- Two flags that require each other. -/
def circular : Backend where
  storage :=
    Memory.toStorage { flags := [requiring "chicken" "egg", requiring "egg" "chicken"] } {}

theorem ownNames_circular : circular.storage.OwnNames := Memory.ownNames _ _

theorem chain_circular :
    circular.Chain (.flag "chicken") ⟨.flag "chicken", ⟨["egg", "chicken"], []⟩⟩
      [.flag "egg", .flag "chicken"] := by
  have nests : ∀ {name other : String} {stack : Stack},
      (circular.storage.flag name).value = .ok (some (requiring name other)) →
        name ∉ stack.flags →
          circular.Nests ⟨.flag name, stack⟩ ⟨.flag other, stack.enterFlag name⟩ := by
    intro name other stack found fresh
    exact nests_of_prerequisite rfl found rfl rfl rfl (by simp [control]) fresh
  have first : circular.Nests ⟨.flag "chicken", {}⟩ ⟨.flag "egg", ⟨["chicken"], []⟩⟩ :=
    nests rfl (by decide)
  have second : circular.Nests ⟨.flag "egg", ⟨["chicken"], []⟩⟩
      ⟨.flag "chicken", ⟨["egg", "chicken"], []⟩⟩ := nests rfl (by decide)
  exact (Chain.root.nested first).nested second

theorem nesting_ends_circular :
    circular.storage.OwnNames ∧
      circular.CutsOff ⟨["egg", "chicken"], []⟩ [.flag "egg", .flag "chicken"] ∧
      circular.storage.evaluateFlag [] {}
          (fun name _ _ => circular.unrolled (fun _ => .silent) 2 (Stack.enterFlag {} name))
          "chicken" (.ofMatching "alice") =
        circular.evaluate {} "chicken" (.ofMatching "alice") := by
  have ends := nesting_ends circular ownNames_circular
  refine ⟨ownNames_circular, (ends.1 chain_circular).2.2, ?_⟩
  exact ends.2 (fun _ => .silent) (by decide) {} "chicken" (.ofMatching "alice")

end Backend

end Targeting
