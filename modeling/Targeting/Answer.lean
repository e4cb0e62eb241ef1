/-!
# Answers that may be pending

A backend answers a question at once or later. A computation that uses a pending answer is pending
itself, and one that uses only answers at hand is at hand. Whether an answer is pending never
changes the value that it settles to.
-/

namespace Targeting

universe u v

/-- An answer, at hand or still to be awaited. -/
inductive Answer (α : Type u) where
  /-- The value is at hand. -/
  | ready (value : α)
  /-- The value has to be awaited. -/
  | pending (value : α)
deriving DecidableEq, Repr

namespace Answer

variable {α : Type u} {β : Type v}

/-- The value that an answer settles to. -/
def value : Answer α → α
  | ready value => value
  | pending value => value

/-- Whether the value is at hand. -/
def isReady : Answer α → Bool
  | ready _ => true
  | pending _ => false

/-- Transform the value. -/
def map (transform : α → β) : Answer α → Answer β
  | ready value => ready (transform value)
  | pending value => pending (transform value)

/-- The second of two answers, pending if the first is. -/
def andThen (first : Answer α) (second : Answer β) : Answer β :=
  match first with
  | ready _ => second
  | pending _ => pending second.value

/-- Ask a further question that depends on the value. -/
def bind (answer : Answer α) (next : α → Answer β) : Answer β :=
  answer.andThen (next answer.value)

/-- All values in order, at hand if every one of them is. -/
def collect : List (Answer α) → Answer (List α)
  | [] => ready []
  | answer :: rest => answer.bind fun value => (collect rest).map (value :: ·)

/-- The text that shows an answer: a pending one does not show its value. -/
def summary (show? : α → String) : Answer α → String
  | ready value => "Ready(" ++ show? value ++ ")"
  | pending _ => "Pending"

@[simp]
theorem value_ready (value : α) : (ready value).value = value := rfl

@[simp]
theorem value_pending (value : α) : (pending value).value = value := rfl

@[simp]
theorem isReady_ready (value : α) : (ready value).isReady = true := rfl

@[simp]
theorem isReady_pending (value : α) : (pending value).isReady = false := rfl

/-- An answer is its value together with whether it is at hand. -/
theorem ext {left right : Answer α} (values : left.value = right.value)
    (readiness : left.isReady = right.isReady) : left = right := by
  cases left <;> cases right <;> simp_all

@[simp]
theorem value_map (transform : α → β) (answer : Answer α) :
    (answer.map transform).value = transform answer.value := by
  cases answer <;> rfl

@[simp]
theorem isReady_map (transform : α → β) (answer : Answer α) :
    (answer.map transform).isReady = answer.isReady := by
  cases answer <;> rfl

@[simp]
theorem value_andThen (first : Answer α) (second : Answer β) :
    (first.andThen second).value = second.value := by
  cases first <;> rfl

@[simp]
theorem isReady_andThen (first : Answer α) (second : Answer β) :
    (first.andThen second).isReady = (first.isReady && second.isReady) := by
  cases first <;> rfl

@[simp]
theorem value_bind (answer : Answer α) (next : α → Answer β) :
    (answer.bind next).value = (next answer.value).value := by
  simp [bind]

@[simp]
theorem isReady_bind (answer : Answer α) (next : α → Answer β) :
    (answer.bind next).isReady = (answer.isReady && (next answer.value).isReady) := by
  simp [bind]

@[simp]
theorem value_collect (answers : List (Answer α)) :
    (collect answers).value = answers.map value := by
  induction answers with
  | nil => rfl
  | cons answer rest ih => simp [collect, ih]

@[simp]
theorem isReady_collect (answers : List (Answer α)) :
    (collect answers).isReady = answers.all isReady := by
  induction answers with
  | nil => rfl
  | cons answer rest ih => simp [collect, ih]

end Answer

end Targeting
