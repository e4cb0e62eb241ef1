import Targeting.Double.Rounding

/-!
# JSON values

Definitions, attributes and requests arrive as JSON. A number written without fraction and exponent
is an integer and keeps its exact value; any other number is a double. The two kinds are told apart
because an integer field accepts only the first.
-/

namespace Targeting

/-- A JSON value. -/
inductive Json where
  | null
  | bool (value : Bool)
  | integer (value : Int)
  | number (value : Double)
  | string (value : String)
  | array (items : List Json)
  | object (fields : List (String × Json))
deriving Inhabited

namespace Json

/-- The value of an object's field. -/
def field? (name : String) : Json → Option Json
  | .object fields => fields.lookup name
  | _ => none

/-- The text of a string. -/
def asString? : Json → Option String
  | .string text => some text
  | _ => none

/-- The value of a truth value. -/
def asBool? : Json → Option Bool
  | .bool value => some value
  | _ => none

/-- The value of an integer. -/
def asInt? : Json → Option Int
  | .integer value => some value
  | _ => none

/-- The value of any number, integers rounded to the nearest double. -/
def asDouble? : Json → Option Double
  | .integer value => some (Double.ofInt value)
  | .number value => some value
  | _ => none

/-- An integer from `least` to `greatest`. -/
def asIntBetween? (least greatest : Int) (json : Json) : Option Int :=
  json.asInt?.filter fun value => decide (least ≤ value ∧ value ≤ greatest)

/-- An integer that fits eight bits. -/
def asUInt8? (json : Json) : Option UInt8 :=
  (json.asIntBetween? 0 0xFF).map fun value => UInt8.ofNat value.toNat

/-- An integer that fits thirty-two bits. -/
def asUInt32? (json : Json) : Option UInt32 :=
  (json.asIntBetween? 0 0xFFFFFFFF).map fun value => UInt32.ofNat value.toNat

/-- A signed integer that fits thirty-two bits. -/
def asInt32? (json : Json) : Option Int32 :=
  (json.asIntBetween? (-0x80000000) 0x7FFFFFFF).map Int32.ofInt

/-- A signed integer that fits sixty-four bits. -/
def asInt64? (json : Json) : Option Int64 :=
  (json.asIntBetween? (-0x8000000000000000) 0x7FFFFFFFFFFFFFFF).map Int64.ofInt

/-- An array whose items are all of one kind. -/
def asList? {α : Type} (read : Json → Option α) : Json → Option (List α)
  | .array items => items.mapM read
  | _ => none

/-- An object whose values are all of one kind. -/
def asMap? {α : Type} (read : Json → Option α) : Json → Option (List (String × α))
  | .object fields => fields.mapM fun field => (read field.2).map (field.1, ·)
  | _ => none

/-- A value that may be null. -/
def asNullable? {α : Type} (read : Json → Option α) : Json → Option (Option α)
  | .null => some none
  | json => (read json).map some

/-- The name of one of finitely many alternatives: a string, or an object whose only field has that
name and is null. -/
def asName? : Json → Option String
  | .string name => some name
  | .object [(name, .null)] => some name
  | _ => none

/-- A value, or null for none. -/
def ofOption {α : Type} (write : α → Json) : Option α → Json
  | none => .null
  | some value => write value

/-- An array of strings. -/
def ofStrings (texts : List String) : Json := .array (texts.map .string)

end Json

end Targeting
