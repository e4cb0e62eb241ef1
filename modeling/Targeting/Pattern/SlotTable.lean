/-!
# Tables with a fixed number of slots

A table remembers values under keys, each of them a list of numbers. The key decides the slot, and
what is put into a slot replaces what was there; so a table never grows, and it may forget.
-/

namespace Targeting

/-- A table that remembers at most one key and its value in each of its slots. -/
structure SlotTable where
  slots : Array (Option (List Nat × Nat))

namespace SlotTable

/-- A table with so many empty slots. -/
def ofSize (size : Nat) : SlotTable := ⟨Array.replicate size none⟩

/-- Mix one number into a hash: exclusive or, then multiplication by a prime. -/
def mix (hash : UInt64) (number : Nat) : UInt64 :=
  (hash ^^^ number.toUInt64) * 1099511628211

/-- The slot of a key in a table with so many slots. -/
def slot (size : Nat) (key : List Nat) : Nat :=
  (key.foldl mix 14695981039346656037).toNat % size

/-- The value under a key, unless it is forgotten. -/
def find? (table : SlotTable) (key : List Nat) : Option Nat :=
  match table.slots.getD (slot table.slots.size key) none with
  | some (other, value) => if key = other then some value else none
  | none => none

/-- Put a value under a key. -/
def insert (table : SlotTable) (key : List Nat) (value : Nat) : SlotTable :=
  ⟨table.slots.setIfInBounds (slot table.slots.size key) (some (key, value))⟩

end SlotTable

end Targeting
