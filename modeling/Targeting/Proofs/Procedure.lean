import Targeting.Answer

/-!
# Procedures

A procedure goes on from an answer step by step. A step transforms the value that it is given, or
asks a question about it, and the reply may be at hand for one value and pending for another. The
type of the value may change with every step.

What a procedure settles to does not depend on waiting: `Procedure.fold` takes the same steps on
plain values. Readiness does depend on values, because they decide which replies a procedure gets.
`Procedure.replies` therefore follows the fold, and a procedure is at hand exactly if its start and
all of these replies are. Further steps only add replies, so that a procedure that is pending at
some point stays pending.
-/

namespace Targeting.Answer

universe u v w

section Laws

variable {α : Type u} {β : Type v} {γ : Type w}

theorem bind_assoc (answer : Answer α) (next : α → Answer β) (further : β → Answer γ) :
    (answer.bind next).bind further = answer.bind fun value => (next value).bind further := by
  apply ext
  · simp
  · simp [Bool.and_assoc]

theorem ready_bind (value : α) (next : α → Answer β) : (ready value).bind next = next value := rfl

theorem bind_ready (answer : Answer α) : answer.bind ready = answer := by
  apply ext
  · simp
  · simp

theorem map_eq_bind (transform : α → β) (answer : Answer α) :
    answer.map transform = answer.bind fun value => ready (transform value) := by
  apply ext
  · simp
  · simp

end Laws

/-- One step on from an answer: its value is transformed, or a question is asked about it. -/
inductive Step (α : Type u) (β : Type v) where
  | map (transform : α → β)
  | bind (next : α → Answer β)

namespace Step

variable {α : Type u} {β : Type v}

def run : Step α β → Answer α → Answer β
  | map transform, answer => answer.map transform
  | bind next, answer => answer.bind next

/-- What a step makes of a value, whether or not that takes waiting. -/
def apply : Step α β → α → β
  | map transform, value => transform value
  | bind next, value => (next value).value

/-- The reply that a step gets, if it asks a question. -/
def reply? : Step α β → α → Option (Answer β)
  | map _, _ => none
  | bind next, value => some (next value)

@[simp]
theorem value_run (step : Step α β) (answer : Answer α) :
    (step.run answer).value = step.apply answer.value := by
  cases step with
  | map transform => simp [run, apply]
  | bind next => simp [run, apply]

theorem isReady_run_iff (step : Step α β) (answer : Answer α) :
    (step.run answer).isReady = true ↔
      answer.isReady = true ∧ ∀ reply ∈ step.reply? answer.value, reply.isReady = true := by
  cases step with
  | map transform => simp [run, reply?]
  | bind next => simp [run, reply?]

end Step

/-- A finite chain of steps. -/
inductive Procedure : Type u → Type u → Type (u + 1) where
  | done {α : Type u} : Procedure α α
  | step {α β γ : Type u} (first : Step α β) (rest : Procedure β γ) : Procedure α γ

namespace Procedure

/-- Take all steps from an answer. -/
def run {α β : Type u} : Procedure α β → Answer α → Answer β
  | done, answer => answer
  | step first rest, answer => rest.run (first.run answer)

/-- Take all steps on a plain value. -/
def fold {α β : Type u} : Procedure α β → α → β
  | done, value => value
  | step first rest, value => rest.fold (first.apply value)

/-- The replies to the questions on the way, in order. -/
def replies {α β : Type u} : Procedure α β → α → List ((γ : Type u) × Answer γ)
  | done, _ => []
  | step first rest, value =>
      (first.reply? value).toList.map (Sigma.mk _) ++ rest.replies (first.apply value)

def length {α β : Type u} : Procedure α β → Nat
  | done => 0
  | step _ rest => rest.length + 1

/-- The first steps of a procedure, with the type of the value that they come to. -/
def through {α β : Type u} : Nat → Procedure α β → (γ : Type u) × Procedure α γ
  | 0, _ => ⟨α, done⟩
  | _ + 1, done => ⟨α, done⟩
  | count + 1, step first rest => ⟨_, step first (rest.through count).2⟩

variable {α β : Type u}

theorem through_length (procedure : Procedure α β) :
    procedure.through procedure.length = ⟨β, procedure⟩ := by
  induction procedure with
  | done => rfl
  | step first rest ih => rw [length, through, ih]

theorem value_run (procedure : Procedure α β) (start : Answer α) :
    (procedure.run start).value = procedure.fold start.value := by
  induction procedure with
  | done => rfl
  | step first rest ih => simp [run, fold, ih]

theorem isReady_run_iff (procedure : Procedure α β) (start : Answer α) :
    (procedure.run start).isReady = true ↔
      start.isReady = true ∧ ∀ reply ∈ procedure.replies start.value, reply.2.isReady = true := by
  induction procedure with
  | done => simp [run, replies]
  | step first rest ih =>
      simp [run, replies, ih, Step.isReady_run_iff, or_imp, forall_and, and_assoc]

/-- Further steps leave the replies to earlier questions as they are. -/
theorem replies_through_of_le (procedure : Procedure α β) {count later : Nat}
    (upTo : count ≤ later) (value : α) :
    (procedure.through count).2.replies value <+: (procedure.through later).2.replies value := by
  induction procedure generalizing count later with
  | done => cases count <;> cases later <;> exact List.prefix_rfl
  | step first rest ih =>
      rcases count with _ | count
      -- Before the first step there is no reply.
      · exact List.nil_prefix
      · rcases later with _ | later
        · cases upTo
        · simp only [through, replies]
          apply (List.prefix_append_right_inj _).mpr
          exact ih (Nat.le_of_succ_le_succ upTo) (first.apply value)

/-- A procedure settles to the fold of its steps over what its start settles to. After any number
of steps it is at hand exactly if the start and the replies to all questions so far are, and once
pending it stays pending. Questions in sequence are associative, with a value at hand as their unit,
and a transformation is a question whose reply is at hand. Answers that are awaited together keep
their order and number, and are at hand exactly if every one of them is. -/
theorem settles_to_fold_of_steps (procedure : Procedure α β) (start : Answer α) :
    (procedure.run start).value = procedure.fold start.value ∧
      procedure.through procedure.length = ⟨β, procedure⟩ ∧
      (∀ count,
        ((procedure.through count).2.run start).value =
            (procedure.through count).2.fold start.value ∧
          (((procedure.through count).2.run start).isReady = true ↔
            start.isReady = true ∧
              ∀ reply ∈ (procedure.through count).2.replies start.value,
                reply.2.isReady = true)) ∧
      (∀ count later, count ≤ later → ((procedure.through count).2.run start).isReady = false →
        ((procedure.through later).2.run start).isReady = false) ∧
      (∀ {γ δ : Type u} (next : α → Answer γ) (further : γ → Answer δ),
        (start.bind next).bind further = start.bind fun value => (next value).bind further) ∧
      (∀ {γ : Type u} (value : α) (next : α → Answer γ), (ready value).bind next = next value) ∧
      start.bind ready = start ∧
      (∀ {γ : Type u} (transform : α → γ),
        start.map transform = start.bind fun value => ready (transform value)) ∧
      ∀ answers : List (Answer α),
        (collect answers).value = answers.map value ∧
          ((collect answers).isReady = true ↔ ∀ answer ∈ answers, answer.isReady = true) := by
  refine ⟨procedure.value_run start, procedure.through_length, ?_, ?_, ?_, ?_, ?_, ?_, ?_⟩
  · intro count
    exact ⟨value_run _ start, isReady_run_iff _ start⟩
  · intro count later upTo pending
    have further := procedure.replies_through_of_le upTo start.value
    -- What was pending before, the start or a reply, is among what the later readiness depends on.
    rw [← Bool.not_eq_true, isReady_run_iff] at pending ⊢
    rintro ⟨atHand, replies⟩
    exact pending ⟨atHand, fun reply earlier => replies reply (further.subset earlier)⟩
  · intro _ _ next further
    exact bind_assoc start next further
  · intro _ value next
    exact ready_bind value next
  · exact bind_ready start
  · intro _ transform
    exact map_eq_bind transform start
  · intro answers
    refine ⟨value_collect answers, ?_⟩
    rw [isReady_collect, List.all_eq_true]

/-- A question that is answered at hand for small counts only. -/
def doubling : Step Nat Nat :=
  .bind fun count => if count < 10 then .ready (2 * count) else .pending (2 * count)

/-- The same question twice, about a value that has grown in between. -/
def rollout : Procedure Nat String :=
  .step (.map (· + 4)) <| .step doubling <| .step doubling <|
    .step (.map fun count => if count = 28 then "on" else "off") .done

theorem settles_to_fold_of_steps_rollout :
    (rollout.run (.ready 3)).value = "on" ∧
      (∀ reply ∈ (rollout.through 2).2.replies 3, reply.2.isReady = true) ∧
      ((rollout.through 2).2.run (.ready 3)).isReady = true ∧
      3 ≤ 4 ∧ ((rollout.through 3).2.run (.ready 3)).isReady = false ∧
      ((rollout.through 4).2.run (.ready 3)).isReady = false ∧
      (∀ answer ∈ [Answer.ready 3, .ready 7], answer.isReady = true) ∧
      (collect [Answer.ready 3, .ready 7]).isReady = true := by
  have ⟨settles, _, readiness, staysPending, _, _, _, _, joined⟩ :=
    settles_to_fold_of_steps rollout (.ready 3)
  have replies : ∀ reply ∈ (rollout.through 2).2.replies 3, reply.2.isReady = true := by decide
  have pending : ((rollout.through 3).2.run (.ready 3)).isReady = false := by decide
  have atHand : ∀ answer ∈ [Answer.ready 3, .ready 7], answer.isReady = true := by decide
  refine ⟨settles.trans rfl, replies, ?_, by decide, pending, ?_, atHand, ?_⟩
  · exact (readiness 2).2.mpr ⟨rfl, replies⟩
  · exact staysPending 3 4 (by decide) pending
  · exact (joined _).2.mpr atHand

end Procedure

end Targeting.Answer
