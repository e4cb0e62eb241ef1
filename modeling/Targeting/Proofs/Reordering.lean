import Mathlib.Data.List.Perm.Basic
import Targeting.Evaluate
import Targeting.Pattern.Standard
import Targeting.Proofs.Compilation
import Targeting.Storage.Memory

/-!
# The order of matchers

All matchers of a group have to match, and each of them is evaluated whatever the others come to.
Nothing that one of them meets gets to another: a failure counts as no match of that matcher alone,
and every matcher starts inside of the same evaluations. So the order of the matchers shows in
nothing but the order of the calls.
-/

namespace Targeting

theorem Lookup.conjunction_of_perm {ε : Type} {lookups lookups' : List (Lookup ε Bool)}
    (reordered : lookups'.Perm lookups) :
    (conjunction lookups').value = (conjunction lookups).value ∧
      (conjunction lookups').isReady = (conjunction lookups).isReady ∧
      (conjunction lookups').calls.Perm (conjunction lookups).calls := by
  simp only [value_conjunction, isReady_conjunction, calls_conjunction]
  exact ⟨reordered.all_eq, reordered.all_eq, reordered.flatMap_right calls⟩

namespace CompiledGroup

variable {definitions definitions' : List MatcherDefinition} {group group' : CompiledGroup}

/-- Whether a group compiles does not depend on the order of its matchers. -/
theorem exists_perm_of_perm [PatternLanguage]
    (compiles : ofDefinitions definitions = .ok group) (reordered : definitions'.Perm definitions) :
    ∃ group', ofDefinitions definitions' = .ok group' ∧
      group'.matchers.Perm group.matchers := by
  rcases List.perm_comp_forall₂ reordered (ofDefinitions_eq_ok_iff.mp compiles) with
    ⟨matchers, pairs, permuted⟩
  exact ⟨⟨matchers⟩, ofDefinitions_eq_ok_iff.mpr pairs, permuted⟩

theorem isMatch_of_perm (permuted : group'.matchers.Perm group.matchers) (context : Context) :
    (group'.isMatch context).value = (group.isMatch context).value ∧
      (group'.isMatch context).isReady = (group.isMatch context).isReady ∧
      (group'.isMatch context).calls.Perm (group.isMatch context).calls :=
  Lookup.conjunction_of_perm (permuted.map _)

/-- A group with its matchers in another order compiles as well. In every context, whatever its
surroundings answer, fail to answer, or leave pending, it comes to the same result, is at hand in
the same cases, and makes the same calls, each as often. -/
theorem order_of_matchers_irrelevant [PatternLanguage]
    (compiles : ofDefinitions definitions = .ok group) (reordered : definitions'.Perm definitions) :
    ∃ group', ofDefinitions definitions' = .ok group' ∧
      group'.matchers.Perm group.matchers ∧
      ∀ context,
        (group'.isMatch context).value = (group.isMatch context).value ∧
          (group'.isMatch context).isReady = (group.isMatch context).isReady ∧
          (group'.isMatch context).calls.Perm (group.isMatch context).calls := by
  rcases exists_perm_of_perm compiles reordered with ⟨group', compiles', permuted⟩
  exact ⟨group', compiles', permuted, isMatch_of_perm permuted⟩

/-- Everyone who is logged in and is not known to belong to the staff. -/
def guests : List MatcherDefinition :=
  [{ kindName := "IN_SEGMENT", negate := true, segment := some "staff" },
    { kindName := "IN_SPLIT_TREATMENT", dependency := some ⟨"login", ["on"]⟩ }]

/-- A guest at a time when nothing is known of the staff and the login takes a while. -/
def guest : Context :=
  Backend.context
    { storage :=
        Memory.toStorage
          { flags :=
              [{ name := "login"
                 conditions :=
                   [⟨.whitelist, [{ kindName := "ALL_KEYS" }], [⟨"on", 100⟩], "everyone"⟩] }] }
          { failure? := fun query => if query = .segment "staff" then some "down" else none
            isPending := fun query => query = .flag "login" } }
    {} (.ofMatching "alice")

theorem order_of_matchers_irrelevant_guests :
    ∃ group, ofDefinitions guests = .ok group ∧ guests.reverse.Perm guests ∧
      (group.isMatch guest).calls = [.segment "staff" "alice", .flag "login"] ∧
      ∃ group', ofDefinitions guests.reverse = .ok group' ∧
        (group'.isMatch guest).value = true ∧ (group'.isMatch guest).isReady = false ∧
        (group'.isMatch guest).calls.Perm [.segment "staff" "alice", .flag "login"] := by
  refine ⟨_, rfl, guests.reverse_perm, by decide +kernel, ?_⟩
  rcases order_of_matchers_irrelevant rfl guests.reverse_perm with ⟨group', compiles', _, same⟩
  rcases same guest with ⟨values, readiness, calls⟩
  refine ⟨group', compiles', ?_, ?_, ?_⟩
  · rw [values]
    decide +kernel
  · rw [readiness]
    decide +kernel
  · refine calls.trans (.of_eq ?_)
    decide +kernel

end CompiledGroup

end Targeting
