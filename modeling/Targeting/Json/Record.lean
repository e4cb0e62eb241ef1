import Targeting.Json.Basic

/-!
# Reading records

A record is written either as an object, whose fields may stand in any order beside unknown ones, or
as an array of its fields in the order of their declaration. A reader of a record asks for its
fields one after another. The two forms differ in which fields may be left out: an object may leave
out a field that may be null, an array only fields with a default, and those only at its end.
-/

namespace Targeting

/-- What is left of a record while it is read. -/
inductive Members where
  /-- The fields of an object. -/
  | named (fields : List (String × Json))
  /-- The items of an array that no field has taken yet. -/
  | positional (items : List Json)

namespace Members

/-- Whether nothing is left over at the end: an array must have been read to its end. -/
def isExhausted : Members → Bool
  | .named _ => true
  | .positional items => items.isEmpty

end Members

/-- A reader of a record's fields. -/
abbrev Record := StateT Members Option

namespace Record

variable {α : Type}

/-- The next field, if it is there. -/
def next (name : String) : Record (Option Json) := fun members =>
  match members with
  | .named fields => some (fields.lookup name, .named fields)
  | .positional [] => some (none, .positional [])
  | .positional (item :: rest) => some (some item, .positional rest)

/-- A field that must be there. -/
def required (name : String) (read : Json → Option α) : Record α := do
  match ← next name with
  | some json => StateT.lift (read json)
  | none => StateT.lift none

/-- A field that takes a default when it is left out. -/
def defaulted (name : String) (read : Json → Option α) (default : α) : Record α := do
  match ← next name with
  | some json => StateT.lift (read json)
  | none => pure default

/-- A field that may be null, and that only an object may leave out. -/
def nullable (name : String) (read : Json → Option α) : Record (Option α) := fun members =>
  match members with
  | .named _ => defaulted name (Json.asNullable? read) none members
  | .positional _ => required name (Json.asNullable? read) members

/-- A field that may be null and may be left out. -/
def optional (name : String) (read : Json → Option α) : Record (Option α) :=
  defaulted name (Json.asNullable? read) none

/-- Read a whole record. -/
def read? (record : Record α) (json : Json) : Option α :=
  match json with
  | .object fields => (record (.named fields)).map (·.1)
  | .array items =>
      match record (.positional items) with
      | some (value, rest) => if rest.isExhausted then some value else none
      | none => none
  | _ => none

end Record

end Targeting
