import Targeting.Text.Word

/-!
# Conditions on positions

A pattern can ask for a property of a position in the text without taking a character: that it is
at the start or the end of the text, of a line or of a word. What a condition asks depends only on
the place, which is what can be told of the characters before and after the position: there are
twenty-five places. A set of places is a number with a bit for each of them.
-/

namespace Targeting

/-- What there is at one side of a position. -/
inductive Side where
  /-- No character. -/
  | nothing
  /-- A line feed. -/
  | lineFeed
  /-- A carriage return. -/
  | carriageReturn
  /-- A word character. -/
  | word
  /-- Another character. -/
  | other
deriving DecidableEq, Repr

namespace Side

/-- What a character is at the side of a position. -/
def of : Option Char → Side
  | none => nothing
  | some character =>
      if character = '\n' then lineFeed
      else if character = '\r' then carriageReturn
      else if Text.isWord character then word
      else other

/-- All sides in the order of their numbers. -/
def all : List Side := [nothing, lineFeed, carriageReturn, word, other]

/-- The number of a side. -/
def number : Side → Nat
  | nothing => 0
  | lineFeed => 1
  | carriageReturn => 2
  | word => 3
  | other => 4

end Side

/-- What can be told of the two sides of a position. -/
structure Place where
  before : Side
  after : Side
deriving DecidableEq, Repr

namespace Place

/-- All places. -/
def all : List Place := Side.all.flatMap fun before => Side.all.map fun after => ⟨before, after⟩

/-- The number of a place. -/
def number (place : Place) : Nat := 5 * place.before.number + place.after.number

theorem mem_all (place : Place) : place ∈ all := by
  obtain ⟨before, after⟩ := place
  cases before <;> cases after <;> decide

/-- Different places have different numbers. -/
theorem eq_of_number_eq {place other : Place} (same : place.number = other.number) :
    place = other := by
  obtain ⟨before, after⟩ := place
  obtain ⟨before', after'⟩ := other
  cases before <;> cases after <;> cases before' <;> cases after' <;>
    simp [number, Side.number] at same ⊢

end Place

/-- A set of places. -/
structure PlaceSet where
  bits : Nat
deriving DecidableEq, Repr

namespace PlaceSet

/-- Whether a set has a place. -/
def contains (places : PlaceSet) (place : Place) : Bool := places.bits.testBit place.number

/-- The places for which a test holds. -/
def filter (test : Place → Bool) : PlaceSet :=
  ⟨Place.all.foldl (fun bits place => if test place then bits ||| (1 <<< place.number) else bits) 0⟩

/-- No place. -/
def none : PlaceSet := ⟨0⟩

/-- Every place. -/
def all : PlaceSet := filter fun _ => true

/-- The places of either set. -/
def union (left right : PlaceSet) : PlaceSet := ⟨left.bits ||| right.bits⟩

/-- The places of both sets. -/
def intersection (left right : PlaceSet) : PlaceSet := ⟨left.bits &&& right.bits⟩

@[simp]
theorem contains_union (left right : PlaceSet) (place : Place) :
    (left.union right).contains place = (left.contains place || right.contains place) := by
  simp [contains, union]

@[simp]
theorem contains_intersection (left right : PlaceSet) (place : Place) :
    (left.intersection right).contains place = (left.contains place && right.contains place) := by
  simp [contains, intersection]

@[simp]
theorem contains_none (place : Place) : none.contains place = false := by
  simp [contains, none]

/-- A bit is set after the places of a list are added if it was set before or is that of one of
them. -/
theorem testBit_foldl (test : Place → Bool) (places : List Place) (bits index : Nat) :
    (places.foldl
        (fun bits place => if test place then bits ||| (1 <<< place.number) else bits)
        bits).testBit index =
      (bits.testBit index ||
        places.any fun place => test place && decide (place.number = index)) := by
  induction places generalizing bits with
  | nil => simp
  | cons place rest ih =>
      rw [List.foldl_cons, ih, List.any_cons]
      cases test place with
      | false => simp
      | true =>
          simp only [if_true, Bool.true_and, Nat.testBit_or, Nat.one_shiftLeft,
            Nat.testBit_two_pow, Bool.or_assoc]

/-- A filtered set has exactly the places for which the test holds. -/
@[simp]
theorem contains_filter (test : Place → Bool) (place : Place) :
    (filter test).contains place = test place := by
  rw [contains, filter, testBit_foldl, Nat.zero_testBit, Bool.false_or, Bool.eq_iff_iff,
    List.any_eq_true]
  constructor
  · rintro ⟨other, _, found⟩
    simp only [Bool.and_eq_true, decide_eq_true_eq] at found
    rw [← Place.eq_of_number_eq found.2]
    exact found.1
  · intro holds
    exact ⟨place, place.mem_all, by simp [holds]⟩

@[simp]
theorem contains_all (place : Place) : all.contains place = true := by
  simp [all]

end PlaceSet

/-- Conditions on a position between characters. -/
inductive Boundary where
  /-- The start of the text. -/
  | textStart
  /-- The end of the text. -/
  | textEnd
  /-- The start of a line. -/
  | lineStart
  /-- The end of a line. -/
  | lineEnd
  /-- The start of a line, where a carriage return may end lines too. -/
  | lineStartAfterReturn
  /-- The end of a line, where a carriage return may end lines too. -/
  | lineEndBeforeReturn
  /-- Between a word character and something else. -/
  | wordEdge
  /-- Not between a word character and something else. -/
  | noWordEdge
  /-- Before a word. -/
  | wordStart
  /-- After a word. -/
  | wordEnd
  /-- Not after a word character. -/
  | noWordBefore
  /-- Not before a word character. -/
  | noWordAfter
deriving DecidableEq, Repr

namespace Boundary

/-- Whether a condition holds at a place. -/
def holds (boundary : Boundary) (place : Place) : Bool :=
  let before := place.before
  let after := place.after
  match boundary with
  | textStart => before == .nothing
  | textEnd => after == .nothing
  | lineStart => before == .nothing || before == .lineFeed
  | lineEnd => after == .nothing || after == .lineFeed
  | lineStartAfterReturn =>
      before == .nothing || before == .lineFeed ||
        (before == .carriageReturn && after != .lineFeed)
  | lineEndBeforeReturn =>
      after == .nothing || after == .carriageReturn ||
        (after == .lineFeed && before != .carriageReturn)
  | wordEdge => (before == .word) != (after == .word)
  | noWordEdge => (before == .word) == (after == .word)
  | wordStart => before != .word && after == .word
  | wordEnd => before == .word && after != .word
  | noWordBefore => before != .word
  | noWordAfter => after != .word

end Boundary

end Targeting
