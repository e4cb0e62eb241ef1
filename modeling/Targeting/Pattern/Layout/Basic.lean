import Targeting.Pattern.SlotTable

/-!
# Automata laid out

To be searched for in linear time an expression is laid out as an automaton over bytes, with every
repetition written out; once for reading the text forwards, and once for reading it backwards. Of
the automaton only the memory counts here. It is that of its states, thirty-two bytes each, and of
the links of those states that have several: four bytes for a link of a fork, which reads nothing,
and eight bytes for a link of a branching, which reads one byte.
-/

namespace Targeting

/-- The direction in which a text is read. -/
inductive Direction where
  | forward
  | backward
deriving DecidableEq, Repr

/-- An automaton while it is laid out. States are numbered from zero. -/
structure Layout where
  direction : Direction
  /-- The number of states. -/
  states : Nat
  /-- The bytes that the links of forks and branchings take. -/
  linkBytes : Nat
  /-- The states of sets of characters that may be shared. -/
  shared : SlotTable

namespace Layout

/-- The greatest memory of an automaton in bytes. -/
def limit : Nat := 10 * 1024 * 1024

/-- The memory of an automaton in bytes. -/
def bytes (layout : Layout) : Nat := 32 * layout.states + layout.linkBytes

/-- Whether an automaton takes too much memory. -/
def isTooLarge (layout : Layout) : Bool := decide (limit < layout.bytes)

/-- An automaton without states. -/
def start (direction : Direction) : Layout where
  direction
  states := 0
  linkBytes := 0
  shared :=
    match direction with
    | .forward => .ofSize 10000
    | .backward => .ofSize 1000

/-- Add states without links that count. -/
def addStates (count : Nat) (layout : Layout) : Layout :=
  { layout with states := layout.states + count }

/-- Add so many links to forks. -/
def addForkLinks (count : Nat) (layout : Layout) : Layout :=
  { layout with linkBytes := layout.linkBytes + 4 * count }

/-- Add a branching with so many links. -/
def addBranching (count : Nat) (layout : Layout) : Layout :=
  { layout with states := layout.states + 1, linkBytes := layout.linkBytes + 8 * count }

/-- Remember the last state under a key. -/
def remember (key : List Nat) (layout : Layout) : Layout :=
  { layout with shared := layout.shared.insert key (layout.states - 1) }

/-- Link what has been laid out to what comes next, given whether it ends in a fork. -/
def linkEnd (laid : Layout × Bool) : Layout := laid.1.addForkLinks (if laid.2 then 1 else 0)

/-- Lay out something again and again, each time after the last; stop when it is too much. -/
def again (step : Layout → Layout × Bool) : Nat → Layout × Bool → Layout × Bool
  | 0, laid => laid
  | count + 1, laid =>
      if laid.1.isTooLarge then laid else again step count (step (linkEnd laid))

/-- Lay out something so many times; no times take a single state. -/
def times (step : Layout → Layout × Bool) : Nat → Layout → Layout × Bool
  | 0, layout => (layout.addStates 1, false)
  | count + 1, layout => again step count (step layout)

end Layout

end Targeting
