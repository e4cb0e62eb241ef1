import Targeting.Pattern.CharacterSet
import Targeting.Pattern.Layout.Basic
import Targeting.Text.Utf8

/-!
# Sets of characters laid out

A set of ASCII characters is a single branching. Beyond ASCII a set is laid out by the sequences of
byte ranges of its characters, and states are shared. Forwards, the sequences are laid out in order
as a tree, from its leaves, and a node like an earlier one is not laid out again. Backwards, each
sequence is a path from the end of the set, and paths share what they begin with. In both directions
a table with a fixed number of slots remembers the states, so what it has forgotten is laid out
again.
-/

namespace Targeting.Layout

/-- A node of the tree of a set while it is laid out: the links that are finished, each with first
byte, last byte and state, all of it in reverse, and the bytes of the link at which work goes on. -/
structure Node where
  finished : List Nat
  range : Text.ByteRange

namespace Node

/-- A node without finished links. -/
def ofRange (range : Text.ByteRange) : Node := ⟨[], range⟩

/-- The links of a node once the last one leads to a state. -/
def linksTo (node : Node) (state : Nat) : List Nat :=
  state :: node.range.2 :: node.range.1 :: node.finished

end Node

/-- Lay out the nodes of a path from the leaf to the root, given the state to which the leaf leads,
and tell the state of the first node. -/
def finishPath (target : Nat) : List Node → Layout → Nat × Layout
  | [], layout => (target, layout)
  | node :: deeper, layout =>
      let (next, layout) := finishPath target deeper layout
      let key := (node.linksTo next).reverse
      match layout.shared.find? key with
      | some state => (state, layout)
      | none => (layout.states, (layout.addBranching (key.length / 3)).remember key)

/-- Lay out what the next sequence of byte ranges does not share with the path of the last one, and
give the path of the next sequence. -/
def turnPath (target : Nat) : List Node → List Text.ByteRange → Layout → List Node × Layout
  | [], ranges, layout => (ranges.map Node.ofRange, layout)
  | path, [], layout => (path, layout)
  | node :: deeper, range :: ranges, layout =>
      if node.range = range then
        let (deeper, layout) := turnPath target deeper ranges layout
        (node :: deeper, layout)
      else
        let (next, layout) := finishPath target deeper layout
        (⟨node.linksTo next, range⟩ :: ranges.map Node.ofRange, layout)

/-- Lay out sequences of byte ranges in order as a tree. -/
def addTree (sequences : List (List Text.ByteRange)) (layout : Layout) : Layout :=
  let target := layout.states
  let (path, layout) :=
    sequences.foldl (fun (path, layout) ranges => turnPath target path ranges layout)
      ([], layout.addStates 1)
  (finishPath target path layout).2

/-- Lay out a sequence of byte ranges as a path from a state, and link the fork of all paths to its
last state. -/
def addPath : Nat → List Text.ByteRange → Layout → Layout
  | _, [], layout => layout.addForkLinks 1
  | state, (first, last) :: ranges, layout =>
      match layout.shared.find? [state, first, last] with
      | some next => addPath next ranges layout
      | none =>
          addPath layout.states ranges ((layout.addStates 1).remember [state, first, last])

/-- Lay out sequences of byte ranges as paths from one state to a fork. -/
def addPaths (sequences : List (List Text.ByteRange)) (layout : Layout) : Layout :=
  let state := layout.states + 1
  sequences.foldl (fun layout ranges => addPath state ranges layout) (layout.addStates 2)

/-- Lay out one character of a set. ASCII needs a single branching. -/
def addSet (set : CharacterSet) (layout : Layout) : Layout :=
  if set.greatestCode?.all (· < 128) then (layout.addStates 1).addBranching set.ranges.size
  else
    let sequences := set.ranges.toList.flatMap fun (first, last) => Text.byteSequences first last
    match layout.direction with
    | .forward => layout.addTree sequences
    | .backward => layout.addPaths sequences

end Targeting.Layout
