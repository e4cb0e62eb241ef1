import Targeting.Answer

/-!
# Answers with the calls made for them

A lookup is an answer together with the calls to the backend that it took, in order. Once an answer
is pending the order in which the remaining calls are made is up to the backend, so only which calls
are made, and how often, has a meaning then.

`firstDecision` is how the first of several alternatives is chosen: it stops at the first decision
that is at hand, and goes on past pending alternatives, because those may still abstain.
-/

namespace Targeting

universe u v w

/-- An answer and the calls made for it. -/
structure Lookup (ε : Type u) (α : Type v) where
  answer : Answer α
  calls : List ε

namespace Lookup

variable {ε : Type u} {α : Type v} {β : Type w} {ι : Type}

/-- A value that takes no call. -/
def ready (value : α) : Lookup ε α := ⟨.ready value, []⟩

/-- An answer that takes one call. -/
def ask (call : ε) (answer : Answer α) : Lookup ε α := ⟨answer, [call]⟩

/-- The value that a lookup settles to. -/
def value (lookup : Lookup ε α) : α := lookup.answer.value

/-- Whether the value is at hand. -/
def isReady (lookup : Lookup ε α) : Bool := lookup.answer.isReady

/-- Transform the value. -/
def map (transform : α → β) (lookup : Lookup ε α) : Lookup ε β :=
  ⟨lookup.answer.map transform, lookup.calls⟩

/-- The second of two lookups, after the first. -/
def andThen (first : Lookup ε α) (second : Lookup ε β) : Lookup ε β :=
  ⟨first.answer.andThen second.answer, first.calls ++ second.calls⟩

/-- Go on with a lookup that depends on the value. -/
def bind (lookup : Lookup ε α) (next : α → Lookup ε β) : Lookup ε β :=
  lookup.andThen (next lookup.value)

/-- All values in order. Every lookup is made. -/
def collect : List (Lookup ε α) → Lookup ε (List α)
  | [] => ready []
  | lookup :: rest => lookup.bind fun value => (collect rest).map (value :: ·)

/-- Whether all of several lookups give true. Every lookup is made. -/
def conjunction (lookups : List (Lookup ε Bool)) : Lookup ε Bool :=
  (collect lookups).map fun values => values.all id

/-- The first decision among alternatives that may abstain. Alternatives after the first decision
that is at hand are not looked up. -/
def firstDecision (decision : ι → Lookup ε (Option α)) : List ι → Lookup ε (Option α)
  | [] => ready none
  | alternative :: rest =>
      let lookup := decision alternative
      match lookup.answer with
      | .ready (some chosen) => ⟨.ready (some chosen), lookup.calls⟩
      | .ready none =>
          let later := firstDecision decision rest
          ⟨later.answer, lookup.calls ++ later.calls⟩
      | .pending chosen =>
          let later := firstDecision decision rest
          ⟨.pending (chosen.or later.answer.value), lookup.calls ++ later.calls⟩

@[simp]
theorem value_ready (value : α) : (ready value : Lookup ε α).value = value := rfl

@[simp]
theorem isReady_ready (value : α) : (ready value : Lookup ε α).isReady = true := rfl

@[simp]
theorem calls_ready (value : α) : (ready value : Lookup ε α).calls = [] := rfl

@[simp]
theorem value_ask (call : ε) (answer : Answer α) : (ask call answer).value = answer.value := rfl

@[simp]
theorem isReady_ask (call : ε) (answer : Answer α) :
    (ask call answer).isReady = answer.isReady := rfl

@[simp]
theorem calls_ask (call : ε) (answer : Answer α) : (ask call answer).calls = [call] := rfl

@[simp]
theorem value_map (transform : α → β) (lookup : Lookup ε α) :
    (lookup.map transform).value = transform lookup.value := by
  simp [map, value]

@[simp]
theorem isReady_map (transform : α → β) (lookup : Lookup ε α) :
    (lookup.map transform).isReady = lookup.isReady := by
  simp [map, isReady]

@[simp]
theorem calls_map (transform : α → β) (lookup : Lookup ε α) :
    (lookup.map transform).calls = lookup.calls := rfl

@[simp]
theorem value_andThen (first : Lookup ε α) (second : Lookup ε β) :
    (first.andThen second).value = second.value := by
  simp [andThen, value]

@[simp]
theorem isReady_andThen (first : Lookup ε α) (second : Lookup ε β) :
    (first.andThen second).isReady = (first.isReady && second.isReady) := by
  simp [andThen, isReady]

@[simp]
theorem calls_andThen (first : Lookup ε α) (second : Lookup ε β) :
    (first.andThen second).calls = first.calls ++ second.calls := rfl

@[simp]
theorem value_bind (lookup : Lookup ε α) (next : α → Lookup ε β) :
    (lookup.bind next).value = (next lookup.value).value := by
  simp [bind]

@[simp]
theorem isReady_bind (lookup : Lookup ε α) (next : α → Lookup ε β) :
    (lookup.bind next).isReady = (lookup.isReady && (next lookup.value).isReady) := by
  simp [bind]

@[simp]
theorem calls_bind (lookup : Lookup ε α) (next : α → Lookup ε β) :
    (lookup.bind next).calls = lookup.calls ++ (next lookup.value).calls := rfl

@[simp]
theorem value_collect (lookups : List (Lookup ε α)) :
    (collect lookups).value = lookups.map value := by
  induction lookups with
  | nil => rfl
  | cons lookup rest ih => simp [collect, ih]

@[simp]
theorem isReady_collect (lookups : List (Lookup ε α)) :
    (collect lookups).isReady = lookups.all isReady := by
  induction lookups with
  | nil => rfl
  | cons lookup rest ih => simp [collect, ih]

@[simp]
theorem calls_collect (lookups : List (Lookup ε α)) :
    (collect lookups).calls = lookups.flatMap calls := by
  induction lookups with
  | nil => rfl
  | cons lookup rest ih => simp [collect, ih]

@[simp]
theorem value_conjunction (lookups : List (Lookup ε Bool)) :
    (conjunction lookups).value = lookups.all value := by
  simp [conjunction, List.all_map]

@[simp]
theorem isReady_conjunction (lookups : List (Lookup ε Bool)) :
    (conjunction lookups).isReady = lookups.all isReady := by
  simp [conjunction]

@[simp]
theorem calls_conjunction (lookups : List (Lookup ε Bool)) :
    (conjunction lookups).calls = lookups.flatMap calls := by
  simp [conjunction]

/-- A lookup is its value, its readiness and its calls. -/
theorem ext_of {left right : Lookup ε α} (values : left.value = right.value)
    (readiness : left.isReady = right.isReady) (calls : left.calls = right.calls) :
    left = right := by
  cases left
  cases right
  simp only [mk.injEq]
  exact ⟨Answer.ext values readiness, calls⟩

theorem ready_andThen (value : α) (next : Lookup ε β) : (ready value).andThen next = next := by
  apply ext_of
  · simp
  · simp
  · simp

theorem bind_ready (lookup : Lookup ε α) : lookup.bind ready = lookup := by
  apply ext_of
  · simp
  · simp
  · simp

theorem andThen_assoc {γ : Type} (first : Lookup ε α) (second : Lookup ε β)
    (third : Lookup ε γ) :
    (first.andThen second).andThen third = first.andThen (second.andThen third) := by
  apply ext_of
  · simp
  · simp [Bool.and_assoc]
  · simp

theorem collect_cons_andThen (lookup : Lookup ε α) (rest : List (Lookup ε α))
    (next : Lookup ε β) :
    (collect (lookup :: rest)).andThen next = lookup.andThen ((collect rest).andThen next) := by
  apply ext_of
  · simp
  · simp [Bool.and_assoc]
  · simp

end Lookup

end Targeting
