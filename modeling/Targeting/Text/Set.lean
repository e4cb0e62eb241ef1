/-!
# Sets of texts

A set of texts is a list without duplicates, in the order in which its members were first given.
-/

namespace Targeting

namespace Text

/-- The texts of a list without those that stand further to the front already. -/
def distinct : List String → List String
  | [] => []
  | text :: rest => text :: (distinct rest).filter (· != text)

@[simp]
theorem mem_distinct {text : String} {texts : List String} :
    text ∈ distinct texts ↔ text ∈ texts := by
  induction texts with
  | nil => simp [distinct]
  | cons first rest ih =>
      by_cases same : text = first
      · simp [distinct, same]
      · simp [distinct, same, ih]

theorem nodup_distinct (texts : List String) : (distinct texts).Nodup := by
  induction texts with
  | nil => simp [distinct]
  | cons first rest ih =>
      rw [distinct, List.nodup_cons]
      exact ⟨by simp, ih.sublist List.filter_sublist⟩

end Text

/-- A finite set of texts. -/
structure TextSet where
  members : List String
  distinct : members.Nodup
deriving DecidableEq, Repr

namespace TextSet

/-- The set of the texts in a list. -/
def ofList (texts : List String) : TextSet := ⟨Text.distinct texts, Text.nodup_distinct texts⟩

/-- Whether a set has a text. -/
def contains (set : TextSet) (text : String) : Bool := set.members.contains text

/-- How many texts a set has. -/
def size (set : TextSet) : Nat := set.members.length

@[simp]
theorem members_ofList (texts : List String) : (ofList texts).members = Text.distinct texts := rfl

@[simp]
theorem contains_ofList (texts : List String) (text : String) :
    (ofList texts).contains text = texts.contains text := by
  rw [Bool.eq_iff_iff]
  simp [contains]

end TextSet

end Targeting
