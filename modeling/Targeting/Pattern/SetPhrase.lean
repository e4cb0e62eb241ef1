import Targeting.Pattern.CharacterClass

/-!
# Sets as a pattern writes them

A set phrase is what a pattern writes for a set of characters: a literal, a class, or brackets with
what stands in them. `SetPhrase.set` is the set it stands for. When case is ignored, the sides of an
operator and the content of brackets are closed under case variants before the operator or the
complement is taken; so a letter is left out of a complement in both cases.
-/

namespace Targeting

/-- Operations between the two sides of a bracket expression. -/
inductive SetOperation where
  | intersection
  | difference
  | symmetricDifference
deriving DecidableEq, Repr

namespace SetOperation

/-- The result of an operation. -/
def apply : SetOperation → CharacterSet → CharacterSet → CharacterSet
  | intersection, left, right => left.intersection right
  | difference, left, right => left.difference right
  | symmetricDifference, left, right => left.symmetricDifference right

end SetOperation

/-- A set of characters as a pattern writes it. -/
inductive SetPhrase where
  /-- One character outside brackets. -/
  | literal (character : Char)
  /-- The characters between two, both included. -/
  | range (first last : Char)
  /-- A class or its complement. -/
  | ofClass (class_ : CharacterClass) (negated : Bool)
  /-- What stands side by side in brackets. -/
  | union (items : List SetPhrase)
  /-- Two sides with an operator between them. -/
  | combination (operation : SetOperation) (left right : SetPhrase)
  /-- A pair of brackets. -/
  | bracket (negated : Bool) (content : SetPhrase)

namespace SetPhrase

mutual

/-- The set that a phrase stands for. -/
def set (ignoreCase : Bool) : SetPhrase → CharacterSet
  | literal character => (CharacterSet.singleton character).foldCase ignoreCase
  | range first last => .between first last
  | ofClass class_ negated => (class_.set.foldCase ignoreCase).complementIf negated
  | union items => .ofRanges (rangesOfItems ignoreCase items)
  | combination operation left right =>
      operation.apply ((set ignoreCase left).foldCase ignoreCase)
        ((set ignoreCase right).foldCase ignoreCase)
  | bracket negated content =>
      ((set ignoreCase content).foldCase ignoreCase).complementIf negated

/-- The ranges of several phrases together. -/
def rangesOfItems (ignoreCase : Bool) : List SetPhrase → List (Nat × Nat)
  | [] => []
  | item :: rest => (set ignoreCase item).ranges.toList ++ rangesOfItems ignoreCase rest

end

/-- Items side by side: a single one stands for itself. -/
def ofItems : List SetPhrase → SetPhrase
  | [item] => item
  | items => union items

mutual

/-- How deeply brackets, lists of items and operators are nested. -/
def depth : SetPhrase → Nat
  | literal _ | range _ _ | ofClass _ _ | union [] => 0
  | union (item :: rest) => 1 + max item.depth (greatestDepth rest)
  | combination _ left right => 1 + max left.depth right.depth
  | bracket _ content => 1 + content.depth

/-- The depth of the deepest of several phrases. -/
def greatestDepth : List SetPhrase → Nat
  | [] => 0
  | item :: rest => max item.depth (greatestDepth rest)

end

end SetPhrase

end Targeting
