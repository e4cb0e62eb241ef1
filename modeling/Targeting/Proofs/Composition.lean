import Targeting.Pattern.Standard
import Targeting.Proofs.Chain

/-!
# Composition of nested evaluations

An evaluation looks at the names that it is inside of only to compare them with names that it comes
to. Names that cannot be reached from where it starts make no difference, so that what is evaluated
inside of another evaluation has the same result as on its own. Without cycles this goes for every
nested evaluation.
-/

namespace Targeting

open Lookup.Congruence

/-- A stack that holds none of the known names. -/
structure Stack.Avoids (stack : Stack) (known : Query → Prop) : Prop where
  flags : ∀ {name}, name ∈ stack.flags → ¬known (.flag name)
  segments : ∀ {name}, name ∈ stack.segments → ¬known (.ruleBased name)

theorem Stack.Avoids.alike_empty {stack : Stack} {known : Query → Prop}
    (avoids : stack.Avoids known) : stack.Alike known {} := by
  constructor
  · intro name queried
    simpa using fun entered => avoids.flags entered queried
  · intro name queried
    simpa using fun entered => avoids.segments entered queried

namespace Storage

variable {storage : Storage}

/-- Nothing leads out of what can be reached. -/
theorem closed_reaches (named : storage.OwnNames) (start : Query) :
    storage.Closed (storage.Reaches start) (storage.Reaches start) where
  flag {name flag} reached found := by
    rw [named.flag found]
    exact ⟨reached, fun query asked => reached.tail (.flag found asked)⟩
  segment reached := reached
  ruleBased reached found query asked := reached.tail (.ruleBased found asked)

/-- The names that an evaluation is inside of lead to it. -/
theorem leads_of_enters (named : storage.OwnNames) {root : Query} {frame : Frame}
    (entered : Relation.ReflTransGen storage.Enters ⟨root, {}⟩ frame) :
    (∀ name ∈ frame.stack.flags, Relation.TransGen storage.Leads (.flag name) frame.query) ∧
      ∀ name ∈ frame.stack.segments,
        Relation.TransGen storage.Leads (.ruleBased name) frame.query := by
  induction entered with
  | refl => simp
  | tail _ enters ih =>
      have leads := enters.leads
      cases enters with
      | flag found fresh asked =>
          rw [named.flag found]
          constructor
          · intro name member
            rcases List.mem_cons.mp member with rfl | further
            · exact .single leads
            · exact (ih.1 name further).tail leads
          · intro name member
            exact (ih.2 name member).tail leads
      | ruleBased found fresh asked =>
          constructor
          · intro name member
            exact (ih.1 name member).tail leads
          · intro name member
            rcases List.mem_cons.mp member with rfl | further
            · exact .single leads
            · exact (ih.2 name further).tail leads

/-- Without cycles, no evaluation can come back to a name that it is inside of. -/
theorem avoids_of_acyclic (named : storage.OwnNames) (acyclic : storage.Acyclic) {root : Query}
    {frame : Frame} (entered : Relation.ReflTransGen storage.Enters ⟨root, {}⟩ frame) :
    frame.stack.Avoids (storage.Reaches frame.query) := by
  have leads := leads_of_enters named entered
  constructor
  · intro name member reached
    exact acyclic _ ((leads.1 name member).trans_left reached)
  · intro name member reached
    exact acyclic _ ((leads.2 name member).trans_left reached)

end Storage

section

variable [PatternLanguage]

namespace Backend

variable {backend : Backend} {stack : Stack}

theorem surroundings_eq_of_avoids (named : backend.storage.OwnNames) {query : Query}
    (avoids : stack.Avoids (backend.storage.Reaches query)) :
    (backend.surroundings stack).Alike (identical Call) (backend.surroundings {}) query :=
  surroundings_alike (Storage.closed_reaches named query) (backend.alike_self _)
    avoids.alike_empty .refl

/-- What is evaluated inside of other evaluations has the result that it has on its own, in its
value, its readiness and its calls, provided that it cannot come to one of the others. Without
cycles it never can, so that whatever a flag or a segment refers to is evaluated as on its own. As
everywhere, the definitions are finitely many. -/
theorem nested_eq_atTopLevel (backend : Backend) (named : backend.storage.OwnNames) :
    (∀ stack name, stack.Avoids (backend.storage.Reaches (.flag name)) → ∀ key,
      backend.evaluate stack name key = backend.evaluate {} name key) ∧
    (∀ stack name, stack.Avoids (backend.storage.Reaches (.ruleBased name)) → ∀ key,
      (backend.surroundings stack).inRuleBased name key =
        (backend.surroundings {}).inRuleBased name key) ∧
    (∀ stack (segment : RuleBasedSegment),
      (∀ query ∈ segment.queries, stack.Avoids (backend.storage.Reaches query)) → ∀ key,
        segment.hasKey (backend.context stack key) = segment.hasKey (backend.context {} key)) ∧
    (backend.storage.Acyclic → ∀ root frame,
      Relation.ReflTransGen backend.storage.Enters ⟨root, {}⟩ frame →
        (∀ name, frame.query = .flag name → ∀ key,
          (backend.surroundings frame.stack).evaluation name key =
            dependency backend.evaluator? (backend.evaluate {}) name key) ∧
        ∀ name, frame.query = .ruleBased name → ∀ key,
          (backend.surroundings frame.stack).inRuleBased name key =
            (backend.surroundings {}).inRuleBased name key) := by
  refine ⟨?_, ?_, ?_, ?_⟩
  · intro stack name avoids key
    apply related_identical_iff.mp
    exact evaluate_alike (Storage.closed_reaches named (.flag name))
      (backend.alike_self _) avoids.alike_empty .refl key
  · intro stack name avoids key
    exact related_identical_iff.mp (surroundings_eq_of_avoids named avoids key)
  · intro stack segment avoids key
    apply related_identical_iff.mp
    apply RuleBasedSegment.related_hasKey_of_queries
    refine ⟨rfl, rfl, ?_⟩
    intro query asked
    exact surroundings_eq_of_avoids named (avoids query (segment.compiledQueries_subset asked))
  · intro acyclic root frame entered
    have avoids := Storage.avoids_of_acyclic named acyclic entered
    have alike := surroundings_eq_of_avoids named avoids
    constructor
    · intro name queried key
      rw [queried] at alike
      rw [related_identical_iff.mp (alike key), evaluation_eq]
    · intro name queried key
      rw [queried] at alike
      exact related_identical_iff.mp (alike key)

end Backend

end

namespace Backend

/-- A flag that requires another one, which asks for the members of a segment. -/
def portal : Backend where
  storage :=
    Memory.toStorage
      { flags :=
          [requiring "wiki" "login",
            { name := "login"
              conditions :=
                [⟨.whitelist, [{ kindName := "IN_SEGMENT", segment := some "employees" }],
                  [⟨"on", 100⟩], "employees"⟩] }]
        segments := [("employees", ["alice"])] } {}

theorem leads_portal {query next : Query} (leads : portal.storage.Leads query next) :
    (query = .flag "wiki" ∧ next = .flag "login") ∨
      (query = .flag "login" ∧ next = .segment "employees") := by
  cases leads with
  | @flag name flag _ found asked =>
      have stored := Except.ok.inj found
      by_cases outer : name = "wiki"
      · subst outer
        cases Option.some.inj stored
        exact .inl ⟨rfl, List.mem_singleton.mp asked⟩
      · by_cases inner : name = "login"
        · subst inner
          cases Option.some.inj stored
          exact .inr ⟨rfl, List.mem_singleton.mp asked⟩
        · simp [Memory.flag?, requiring, Ne.symm outer, Ne.symm inner] at stored
  | ruleBased found asked => cases Except.ok.inj found

theorem acyclic_portal : portal.storage.Acyclic := by
  intro query cycle
  let rank (query : Query) : Nat :=
    if query = .flag "wiki" then 2 else if query = .flag "login" then 1 else 0
  have descends : ∀ {outer inner}, portal.storage.Leads outer inner → rank inner < rank outer := by
    intro outer inner leads
    rcases leads_portal leads with ⟨rfl, rfl⟩ | ⟨rfl, rfl⟩
    · decide
    · decide
  have lower : ∀ {next}, Relation.TransGen portal.storage.Leads query next →
      rank next < rank query := by
    intro next path
    induction path with
    | single leads => exact descends leads
    | tail _ leads above => exact Nat.lt_trans (descends leads) above
  exact Nat.lt_irrefl _ (lower cycle)

theorem avoids_portal :
    Stack.Avoids ⟨["intranet"], []⟩ (portal.storage.Reaches (.flag "wiki")) := by
  constructor
  · intro name member reached
    rw [List.mem_singleton.mp member] at reached
    rcases reached.cases_tail with same | ⟨_, _, last⟩
    · exact absurd same (by decide)
    · rcases leads_portal last with ⟨_, same⟩ | ⟨_, same⟩
      · exact absurd same (by decide)
      · exact absurd same (by decide)
  · intro name member
    simp at member

theorem nested_eq_atTopLevel_portal :
    portal.storage.OwnNames ∧ portal.storage.Acyclic ∧
      (∀ key, portal.evaluate ⟨["intranet"], []⟩ "wiki" key = portal.evaluate {} "wiki" key) ∧
      (∀ key, (portal.surroundings ⟨["wiki"], []⟩).evaluation "login" key =
        portal.evaluate {} "login" key) ∧
      (portal.evaluate {} "login" (.ofMatching "alice")).value.treatment? = some "on" ∧
      (portal.evaluate {} "login" (.ofMatching "alice")).calls =
        [.flag "login", .segment "employees" "alice"] := by
  have named : portal.storage.OwnNames := Memory.ownNames _ _
  have composes := nested_eq_atTopLevel portal named
  have found : (portal.storage.flag "wiki").value = .ok (some (requiring "wiki" "login")) := rfl
  have asked : .flag "login" ∈ (requiring "wiki" "login").queries := by decide
  have entered : portal.storage.Enters ⟨.flag "wiki", {}⟩ ⟨.flag "login", ⟨["wiki"], []⟩⟩ :=
    .flag found List.not_mem_nil asked
  refine ⟨named, acyclic_portal, composes.1 _ _ avoids_portal, ?_, by decide +kernel,
    by decide +kernel⟩
  exact (composes.2.2.2 acyclic_portal _ _ (.single entered)).1 "login" rfl

end Backend

end Targeting
