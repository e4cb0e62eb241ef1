import Targeting.Pattern.Expression
import Targeting.Pattern.Layout.Set
import Targeting.Pattern.Layout.Words

/-!
# Expressions laid out

`Expression.layoutSize` is the memory of the automaton of an expression. `Expression.isTooLarge`
tells whether an expression takes too much of it in either direction.
-/

namespace Targeting

namespace Expression

/-- The bytes of a literal. -/
def bytes? : Expression → Option (List UInt8)
  | literal characters => some (characters.flatMap String.utf8EncodeChar)
  | _ => none

mutual

/-- Lay out an expression after the states that are there, and tell whether it ends in a fork. -/
def layOut : Expression → Layout → Layout × Bool
  | empty, layout | hold _, layout => (layout.addStates 1, false)
  | literal characters, layout => (layout.addStates (byteLength characters), false)
  | one set, layout => (layout.addSet set, false)
  | group body, layout =>
      match layout.direction with
      | .forward => ((Layout.linkEnd (body.layOut (layout.addStates 1))).addStates 1, false)
      | .backward => body.layOut layout
  | sequence parts, layout => layOutInTurn parts layout
  | choice options, layout =>
      match options.mapM bytes? with
      | some words => (layout.addWords words, false)
      | none => (layOutOptions 0 options layout, false)
  | repeated body least most _, layout =>
      match least, most with
      | 0, some 1 =>
          ((Layout.linkEnd (body.layOut (layout.addStates 1))).addStates 1 |>.addForkLinks 2, false)
      | 0, none =>
          if body.leastLength?.any (0 < ·) then
            ((Layout.linkEnd (body.layOut (layout.addStates 1))).addForkLinks 1, true)
          else ((Layout.linkEnd (body.layOut layout)).addStates 3 |>.addForkLinks 4, false)
      | least, none =>
          ((Layout.linkEnd (Layout.times body.layOut least layout)).addStates 1 |>.addForkLinks 1,
            true)
      | least, some most =>
          let (layout, fork) := Layout.times body.layOut least layout
          if least = most then (layout, fork)
          else
            let further := fun layout => body.layOut ((Layout.addStates 1 layout).addForkLinks 2)
            (Layout.linkEnd (Layout.again further (most - least) (layout.addStates 1, fork)), false)

/-- Lay out parts one after another, in the order in which they are read. -/
def layOutInTurn : List Expression → Layout → Layout × Bool
  | [], layout => (layout, false)
  | [part], layout => part.layOut layout
  | part :: rest, layout =>
      match layout.direction with
      | .forward => layOutInTurn rest (Layout.linkEnd (part.layOut layout))
      | .backward => part.layOut (Layout.linkEnd (layOutInTurn rest layout))

/-- Lay out alternatives, given how many there are before them. The fork that leads to them and the
state where they meet come after the first two. -/
def layOutOptions : Nat → List Expression → Layout → Layout
  | _, [], layout => layout
  | count, option :: rest, layout =>
      let layout := (Layout.linkEnd (option.layOut layout)).addForkLinks 1
      layOutOptions (count + 1) rest (if count = 1 then layout.addStates 2 else layout)

end

mutual

/-- Whether every match starts at the start of the text, or ends at its end, as can be seen from the
parts that are read first. -/
def isAnchored (direction : Direction) : Expression → Bool
  | hold boundary =>
      match direction with
      | .forward => boundary == .textStart
      | .backward => boundary == .textEnd
  | group body => body.isAnchored direction
  | repeated body least _ _ => decide (0 < least) && body.isAnchored direction
  | sequence parts => isAnchoredInTurn direction parts
  | choice options => areAnchored direction options
  | empty | literal _ | one _ => false

/-- Whether one of several parts is anchored, and those that are read before it take nothing. -/
def isAnchoredInTurn (direction : Direction) : List Expression → Bool
  | [] => false
  | part :: rest =>
      match direction with
      | .forward =>
          part.isAnchored direction ||
            (part.greatestLength? == some 0 && isAnchoredInTurn direction rest)
      | .backward =>
          isAnchoredInTurn direction rest ||
            (part.isAnchored direction && totalGreatest? rest == some 0)

/-- Whether all of several parts are anchored. -/
def areAnchored (direction : Direction) : List Expression → Bool
  | [] => true
  | option :: rest => option.isAnchored direction && areAnchored direction rest

end

/-- The memory of the automaton of an expression in bytes, or a number above the limit. Unless the
expression is anchored, the automaton starts with a loop that skips bytes. Forwards it marks where
the match starts and ends. -/
def layoutSize (direction : Direction) (expression : Expression) : Nat :=
  let start := Layout.start direction
  let start :=
    if expression.isAnchored direction then start.addStates 1
    else ((start.addStates 2).addBranching 1).addForkLinks 2
  match direction with
  | .forward =>
      ((Layout.linkEnd (expression.layOut (start.addStates 1))).addStates 2).bytes
  | .backward => ((Layout.linkEnd (expression.layOut start)).addStates 1).bytes

/-- Whether an expression is a list of many words, which are searched for without an automaton. -/
def isWordList : Expression → Bool
  | choice options => decide (3000 ≤ options.length) && options.all (·.bytes?.isSome)
  | _ => false

/-- Whether the automata of an expression take too much memory. -/
def isTooLarge (expression : Expression) : Bool :=
  !expression.isWordList &&
    (decide (Layout.limit < expression.layoutSize .forward) ||
      decide (Layout.limit < expression.layoutSize .backward))

end Expression

end Targeting
