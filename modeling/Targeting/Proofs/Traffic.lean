import Targeting.Proofs.Decision

/-!
# More traffic

Two evaluations of the same rules for the same key, where the second takes in more of the traffic.
A key that is inside stays inside, because its bucket under the traffic seed does not change, and
the treatment depends on another seed. So widening the allocation never changes what rules decide
about a key that they took in. For a single condition this is
`CompiledCondition.decision_of_widens`. For rules it matters that leaving a key out is a decision
too, which hides the later conditions.
-/

namespace Targeting

namespace Allocation

/-- The second allocation has the seeds of the first, and takes in at least as much traffic. -/
structure Widens (narrow wide : Allocation) : Prop where
  seed : narrow.seed = wide.seed
  trafficSeed : narrow.trafficSeed?.getD 0 = wide.trafficSeed?.getD 0
  traffic : narrow.traffic?.getD 100 ≤ wide.traffic?.getD 100

variable {narrow wide : Allocation}

theorem Widens.bucketOf (widens : Widens narrow wide) (bucketingKey : String) :
    narrow.bucketOf bucketingKey = wide.bucketOf bucketingKey := by
  rw [Allocation.bucketOf, Allocation.bucketOf, widens.seed]

theorem Widens.allocates (widens : Widens narrow wide) {bucketingKey : String}
    (allocated : narrow.allocates bucketingKey = true) : wide.allocates bucketingKey = true := by
  have traffic := UInt32.le_iff_toNat_le.mp widens.traffic
  simp only [Allocation.allocates, Bool.or_eq_true, decide_eq_true_eq] at allocated ⊢
  rw [← widens.trafficSeed]
  rcases allocated with everything | inside
  · exact .inl (everything.trans traffic)
  · exact .inr (inside.trans traffic)

end Allocation

variable {narrow wide : Allocation}

namespace CompiledCondition

theorem outcome_of_widens (widens : narrow.Widens wide) (condition : CompiledCondition)
    (key : Key) : condition.outcome narrow key = condition.outcome wide key := by
  rw [outcome, outcome, widens.bucketOf]

/-- A condition only takes notice of the wider allocation at a key that it did not let in before. -/
theorem decision_of_widens (widens : narrow.Widens wide) (condition : CompiledCondition)
    (context : Context) :
    (narrow.allocates context.key.bucketing = false ∧
      condition.decision narrow context = .ready (some .notInSplit)) ∨
    condition.decision narrow context = condition.decision wide context := by
  unfold decision
  rw [outcome_of_widens widens]
  by_cases narrowed : condition.kind = .rollout ∧ ¬narrow.allocates context.key.bucketing
  · left
    rw [if_pos narrowed]
    exact ⟨Bool.eq_false_iff.mpr narrowed.2, rfl⟩
  · right
    have widened : ¬(condition.kind = .rollout ∧ ¬wide.allocates context.key.bucketing) := by
      rintro ⟨rollout, outside⟩
      exact narrowed ⟨rollout, fun inside => outside (widens.allocates inside)⟩
    rw [if_neg narrowed, if_neg widened]

end CompiledCondition

namespace CompiledRules

/-- Rules that take in more of the traffic decide about a key as they did before, unless the key was
outside the allocation and they decided just that. -/
theorem widening_keeps_decisions (widens : narrow.Widens wide) (rules : CompiledRules)
    (context : Context) :
    (narrow.allocates context.key.bucketing = false ∧
      (rules.decision narrow context).value = some .notInSplit) ∨
    (rules.decision narrow context).value = (rules.decision wide context).value := by
  rcases rules with ⟨conditions⟩
  unfold decision
  dsimp only
  induction conditions with
  | nil =>
      right
      rw [Lookup.firstDecision, Lookup.firstDecision]
  | cons condition rest ih =>
      simp only [Lookup.firstDecision_cons, Lookup.value_orElse]
      rcases condition.decision_of_widens widens context with ⟨outside, left⟩ | same
      · left
        rw [left, Lookup.value_ready, Option.some_or]
        exact ⟨outside, rfl⟩
      · rw [same]
        -- A condition before that decides hides what becomes of the rest.
        rcases (condition.decision wide context).value with _ | evaluation
        · simpa only [Option.none_or] using ih
        · right
          rw [Option.some_or, Option.some_or]

theorem widening_keeps_decisions_planless :
    Allocation.Widens ⟨7, some 20, some 1⟩ ⟨7, none, some 1⟩ ∧
      ∃ rules, ofConditions planless = .ok rules ∧
        ((Allocation.allocates ⟨7, some 20, some 1⟩ "alice" = false ∧
          (rules.decision ⟨7, some 20, some 1⟩ ⟨.ofMatching "alice", [], .unavailable⟩).value =
            some .notInSplit) ∨
        (rules.decision ⟨7, some 20, some 1⟩ ⟨.ofMatching "alice", [], .unavailable⟩).value =
          (rules.decision ⟨7, none, some 1⟩ ⟨.ofMatching "alice", [], .unavailable⟩).value) := by
  have widens : Allocation.Widens ⟨7, some 20, some 1⟩ ⟨7, none, some 1⟩ :=
    ⟨rfl, rfl, by decide⟩
  exact ⟨widens, _, rfl, widening_keeps_decisions widens _ ⟨.ofMatching "alice", [], .unavailable⟩⟩

end CompiledRules

end Targeting
