import Targeting.Pattern.Expression

/-!
# Searching in linear time

A search reads the text once and keeps all matches in progress at the same time, as marks on a tree:
a set in the tree is marked if a match in progress has just taken a character with it. To take the
next character, the marks move on: a set becomes marked if it has the character and can be entered,
that is, if what comes before it in the tree is finished or can be passed without a character. So a
character costs at most one walk through the tree, however repetitions are nested.

Each node keeps a summary, and parts without marks that are not entered are left as they are.
Repetitions with counts are written out as balanced trees whose halves are the same tree, so only
the copies that are marked take up space of their own. Optional repetitions are flights of steps,
which a match may leave after any step. It never has to pass a step without a character: it leaves
the flight instead.
-/

namespace Targeting

/-- What is known of a tree at the present position. -/
structure Summary where
  /-- The places at which the tree can be passed without a character. -/
  passable : PlaceSet
  /-- There are marks. -/
  marked : Bool
  /-- A match in progress has reached the end. -/
  finished : Bool
  /-- A match in progress has taken all steps of a flight; any other tree is a single step. -/
  crossed : Bool

namespace Summary

/-- The summary of a tree without marks. -/
def unmarked (passable : PlaceSet) : Summary := ⟨passable, false, false, false⟩

/-- The summary of the same tree, which is a single step, with other marks. -/
def mark (summary : Summary) (marked finished : Bool) : Summary :=
  ⟨summary.passable, marked, finished, finished⟩

end Summary

/-- A regular expression with marks. -/
inductive Marked where
  /-- Nothing. -/
  | empty
  /-- One character of a set, marked or not. -/
  | one (set : CharacterSet) (marked : Bool)
  /-- A condition, given by the places at which it holds. -/
  | hold (places : PlaceSet)
  /-- Two parts one after the other. -/
  | both (summary : Summary) (first second : Marked)
  /-- One of two parts. -/
  | either (summary : Summary) (first second : Marked)
  /-- A flight of steps followed by another one; a match may leave after any step. -/
  | flight (summary : Summary) (first second : Marked)
  /-- A part at least once. -/
  | many (summary : Summary) (body : Marked)

namespace Marked

/-- The summary of a tree. -/
def summary : Marked → Summary
  | empty => .unmarked .all
  | one _ marked => (Summary.unmarked .none).mark marked marked
  | hold places => .unmarked places
  | both summary _ _ | either summary _ _ | flight summary _ _ | many summary _ => summary

/-- The places at which a tree can be passed without a character. -/
def passable (tree : Marked) : PlaceSet := tree.summary.passable

/-- Whether there are marks in a tree. -/
def isMarked (tree : Marked) : Bool := tree.summary.marked

/-- Whether a match in progress has reached the end of a tree. -/
def isFinished (tree : Marked) : Bool := tree.summary.finished

/-- Two parts without marks one after the other. -/
def ofBoth (first second : Marked) : Marked :=
  both (.unmarked (first.passable.intersection second.passable)) first second

/-- One of two parts without marks. -/
def ofEither (first second : Marked) : Marked :=
  either (.unmarked (first.passable.union second.passable)) first second

/-- Two flights of steps without marks one after the other. -/
def ofFlight (first second : Marked) : Marked :=
  flight (.unmarked (first.passable.union second.passable)) first second

/-- A part without marks at least once. -/
def ofMany (body : Marked) : Marked := many (.unmarked body.passable) body

/-- A part without marks or nothing. -/
def perhaps (body : Marked) : Marked := ofEither body empty

/-- Join trees in a balanced way. -/
def balanced (combine : Marked → Marked → Marked) (default : Marked) (trees : List Marked) :
    Marked :=
  match trees with
  | [] => default
  | [tree] => tree
  | first :: second :: rest =>
      let half := (rest.length + 2) / 2
      combine (balanced combine default ((first :: second :: rest).take half))
        (balanced combine default ((first :: second :: rest).drop half))
termination_by trees.length
decreasing_by
  · simp only [List.length_take, List.length_cons]
    omega
  · simp only [List.length_drop, List.length_cons]
    omega

/-- Join so many copies of a tree, at least one, in a balanced way. -/
def copies (combine : Marked → Marked → Marked) (tree : Marked) (count : Nat) : Marked :=
  if count ≤ 1 then tree
  else
    let half := copies combine tree (count / 2)
    if count % 2 = 0 then combine half half else combine tree (combine half half)
termination_by count

/-- A tree exactly so many times. -/
def times (tree : Marked) (count : Nat) : Marked :=
  if count = 0 then empty else copies ofBoth tree count

/-- A tree at most so many times. -/
def atMost (tree : Marked) (count : Nat) : Marked :=
  if count = 0 then empty else perhaps (copies ofFlight tree count)

/-- A tree any number of times. -/
def anyTimes (tree : Marked) : Marked := perhaps (ofMany tree)

/-- A tree between so many and so many times. If it can be passed everywhere, it may be left out. -/
def repeated (tree : Marked) (least : Nat) (most : Option Nat) : Marked :=
  let least := if tree.passable = .all then 0 else least
  match least, most with
  | least, some most => ofBoth (times tree least) (atMost tree (most - least))
  | 0, none => anyTimes tree
  | least + 1, none => ofBoth (times tree least) (ofMany tree)

mutual

/-- An expression without marks. -/
def ofExpression : Expression → Marked
  | .empty => empty
  | .literal characters =>
      balanced ofBoth empty (characters.map fun character => one (.singleton character) false)
  | .one set => one set false
  | .hold boundary => hold (.filter boundary.holds)
  | .group body => ofExpression body
  | .sequence parts => balanced ofBoth empty (ofExpressions parts)
  | .choice options => balanced ofEither (one .empty false) (ofExpressions options)
  | .repeated body least most _ => repeated (ofExpression body) least most

/-- Several expressions without marks. -/
def ofExpressions : List Expression → List Marked
  | [] => []
  | part :: rest => ofExpression part :: ofExpressions rest

end

/-- Take a character between two places, given whether a match may enter the tree before it. -/
def take (character : Char) (here next : Place) : Bool → Marked → Marked
  | _, empty => empty
  | entered, one set _ => one set (entered && set.contains character)
  | _, hold places => hold places
  | entered, both summary first second =>
      if entered || summary.marked then
        let enteredSecond := first.isFinished || (entered && first.passable.contains here)
        let first := take character here next entered first
        let second := take character here next enteredSecond second
        both
          (summary.mark (first.isMarked || second.isMarked)
            (second.isFinished || (first.isFinished && second.passable.contains next)))
          first second
      else both summary first second
  | entered, either summary first second =>
      if entered || summary.marked then
        let first := take character here next entered first
        let second := take character here next entered second
        either
          (summary.mark (first.isMarked || second.isMarked)
            (first.isFinished || second.isFinished))
          first second
      else either summary first second
  | entered, flight summary first second =>
      if entered || summary.marked then
        let enteredSecond := first.summary.crossed
        let first := take character here next entered first
        let second := take character here next enteredSecond second
        flight
          { summary with
            marked := first.isMarked || second.isMarked
            finished := first.isFinished || second.isFinished
            crossed := second.summary.crossed }
          first second
      else flight summary first second
  | entered, many summary body =>
      if entered || summary.marked then
        let body := take character here next (entered || body.isFinished) body
        many (summary.mark body.isMarked body.isFinished) body
      else many summary body

/-- Whether a match that is in progress or starts somewhere from here on ends somewhere, given what
there is before the rest of the text. -/
def search (tree : Marked) (before : Side) : List Char → Bool
  | [] => tree.isFinished || tree.passable.contains ⟨before, .nothing⟩
  | character :: rest =>
      let side := Side.of (some character)
      let here := ⟨before, side⟩
      let next := ⟨side, Side.of rest.head?⟩
      tree.isFinished || tree.passable.contains here ||
        search (tree.take character here next true) side rest

end Marked

/-- Whether an expression matches anywhere in a text. -/
def Expression.isFoundIn (expression : Expression) (text : List Char) : Bool :=
  (Marked.ofExpression expression).search .nothing text

end Targeting
