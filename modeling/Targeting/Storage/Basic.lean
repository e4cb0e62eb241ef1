import Targeting.Answer
import Targeting.Flag.Basic
import Targeting.Segment.Basic
import Targeting.Surroundings

/-!
# Storage

A read-only view of flags and segments. Every question gets an answer that is at hand or pending,
and may fail. A storage holds finitely many definitions: the names that an evaluation can run into
are listed, which is why an evaluation that never enters a name twice comes to an end.
-/

namespace Targeting

/-- A read-only view of finitely many flags and rule-based segments, and of any number of other
segments. -/
structure Storage where
  /-- The flag with a name. -/
  flag : String → Answer (Except StorageError (Option Flag))
  /-- Whether a segment has a key. -/
  segment : (name key : String) → Answer (Except StorageError Bool)
  /-- Whether a large segment has a key; a storage without large segments knows no members. -/
  largeSegment : (name key : String) → Answer (Except StorageError Bool) :=
    fun _ _ => .ready (.ok false)
  /-- The rule-based segment with a name. -/
  ruleBased : String → Answer (Except StorageError (Option RuleBasedSegment))
  /-- The names of all flags that can be found. -/
  flagNames : List String
  /-- The names under which rule-based segments can be found. -/
  ruleBasedNames : List String
  flag_mem : ∀ {name found}, (flag name).value = .ok (some found) → found.name ∈ flagNames
  ruleBased_mem : ∀ {name found},
    (ruleBased name).value = .ok (some found) → name ∈ ruleBasedNames

/-- The names of flags and of rule-based segments that are being evaluated. -/
structure Stack where
  flags : List String := []
  segments : List String := []
deriving DecidableEq, Repr

namespace Stack

/-- Start evaluating a flag. -/
def enterFlag (stack : Stack) (name : String) : Stack :=
  { stack with flags := name :: stack.flags }

/-- Start evaluating a rule-based segment. -/
def enterSegment (stack : Stack) (name : String) : Stack :=
  { stack with segments := name :: stack.segments }

/-- How many names of a list have not been entered. -/
def remaining (names entered : List String) : Nat :=
  (names.filter fun name => !entered.contains name).length

theorem remaining_cons (first : String) (rest entered : List String) :
    remaining (first :: rest) entered =
      (if first ∈ entered then 0 else 1) + remaining rest entered := by
  simp only [remaining, List.filter_cons]
  by_cases known : first ∈ entered
  · have contained : entered.contains first = true := List.contains_iff_mem.mpr known
    simp only [contained, known, Bool.not_true, Bool.false_eq_true, if_false, if_true]
    omega
  · have missing : entered.contains first = false :=
      Bool.eq_false_iff.mpr fun contained => known (List.contains_iff_mem.mp contained)
    simp only [missing, known, Bool.not_false, if_true, if_false, List.length_cons]
    omega

theorem remaining_cons_le (names entered : List String) (name : String) :
    remaining names (name :: entered) ≤ remaining names entered := by
  induction names with
  | nil => exact Nat.le_refl _
  | cons first rest ih =>
      rw [remaining_cons, remaining_cons]
      by_cases known : first ∈ entered
      · rw [if_pos (List.mem_cons_of_mem name known), if_pos known]
        omega
      · rw [if_neg known]
        split <;> omega

/-- Entering a name that has not been entered leaves fewer of them. -/
theorem remaining_cons_lt {names entered : List String} {name : String} (member : name ∈ names)
    (fresh : name ∉ entered) :
    remaining names (name :: entered) < remaining names entered := by
  induction names with
  | nil => exact absurd member List.not_mem_nil
  | cons first rest ih =>
      have bound := remaining_cons_le rest entered name
      rw [remaining_cons, remaining_cons]
      by_cases same : first = name
      · subst same
        rw [if_pos List.mem_cons_self, if_neg fresh]
        omega
      · have inRest : name ∈ rest := by
          rcases List.mem_cons.mp member with equal | inside
          · exact absurd equal.symm same
          · exact inside
        have smaller := ih inRest
        by_cases known : first ∈ entered
        · rw [if_pos (List.mem_cons_of_mem name known), if_pos known]
          omega
        · rw [if_neg known]
          split <;> omega

end Stack

namespace Storage

/-- How many names an evaluation can still enter. -/
def depth (storage : Storage) (stack : Stack) : Nat :=
  Stack.remaining storage.flagNames stack.flags +
    Stack.remaining storage.ruleBasedNames stack.segments

theorem depth_enterFlag_lt (storage : Storage) {stack : Stack} {name : String}
    (member : name ∈ storage.flagNames) (fresh : name ∉ stack.flags) :
    storage.depth (stack.enterFlag name) < storage.depth stack := by
  have smaller := Stack.remaining_cons_lt member fresh
  simp only [depth, Stack.enterFlag]
  omega

theorem depth_enterSegment_lt (storage : Storage) {stack : Stack} {name : String}
    (member : name ∈ storage.ruleBasedNames) (fresh : name ∉ stack.segments) :
    storage.depth (stack.enterSegment name) < storage.depth stack := by
  have smaller := Stack.remaining_cons_lt member fresh
  simp only [depth, Stack.enterSegment]
  omega

end Storage

end Targeting
