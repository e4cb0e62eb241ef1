import Targeting.Json.Basic

/-!
# Attributes

An attribute is a value supplied with a key: the same kinds of values as JSON, with all numbers
doubles.

Two readers take JSON to attributes. `ofJson` looks at the kind of a value. `read?` tries the kinds
of attribute one after another and takes the first that accepts the value; every value is accepted
by just one of them.
-/

namespace Targeting

/-- A value supplied with a key. -/
inductive Attribute where
  | string (text : String)
  | array (items : List Attribute)
  | number (value : Double)
  | bool (value : Bool)
  | object (fields : List (String × Attribute))
  | null
deriving Inhabited

/-- The named values supplied with a key. -/
abbrev Attributes := List (String × Attribute)

namespace Attribute

mutual

/-- The attribute that a JSON value stands for. -/
def ofJson : Json → Attribute
  | .null => null
  | .bool value => bool value
  | .integer value => number (Double.ofInt value)
  | .number value => number value
  | .string text => string text
  | .array items => array (ofJsonList items)
  | .object fields => object (ofJsonFields fields)

/-- The attributes that the items of an array stand for. -/
def ofJsonList : List Json → List Attribute
  | [] => []
  | item :: rest => ofJson item :: ofJsonList rest

/-- The attributes that the fields of an object stand for. -/
def ofJsonFields : List (String × Json) → List (String × Attribute)
  | [] => []
  | (name, value) :: rest => (name, ofJson value) :: ofJsonFields rest

end

mutual

/-- The first kind of attribute that accepts a JSON value: a string, an array of attributes, a
number, a truth value, an object of attributes, or null. -/
def read? (json : Json) : Option Attribute :=
  let asArray :=
    match json with
    | .array items => (readList? items).map array
    | _ => none
  let asObject :=
    match json with
    | .object fields => (readFields? fields).map object
    | _ => none
  let asNull :=
    match json with
    | .null => some null
    | _ => none
  (json.asString?.map string).or <| asArray.or <| (json.asDouble?.map number).or <|
    (json.asBool?.map bool).or <| asObject.or asNull

/-- The attributes that the items of an array are read as. -/
def readList? : List Json → Option (List Attribute)
  | [] => some []
  | item :: rest =>
      match read? item, readList? rest with
      | some first, some others => some (first :: others)
      | _, _ => none

/-- The attributes that the fields of an object are read as. -/
def readFields? : List (String × Json) → Option (List (String × Attribute))
  | [] => some []
  | (name, value) :: rest =>
      match read? value, readFields? rest with
      | some first, some others => some ((name, first) :: others)
      | _, _ => none

end

mutual

/-- An attribute as JSON. A number that is not finite has no form of its own and becomes null. -/
def toJson : Attribute → Json
  | string text => .string text
  | array items => .array (toJsonList items)
  | number value => if value.isFinite then .number value else .null
  | bool value => .bool value
  | object fields => .object (toJsonFields fields)
  | null => .null

/-- The items of an array as JSON. -/
def toJsonList : List Attribute → List Json
  | [] => []
  | item :: rest => item.toJson :: toJsonList rest

/-- The fields of an object as JSON. -/
def toJsonFields : List (String × Attribute) → List (String × Json)
  | [] => []
  | (name, value) :: rest => (name, value.toJson) :: toJsonFields rest

end

/-- The attributes that a JSON object stands for. -/
def readAll? : Json → Option Attributes
  | .object fields => readFields? fields
  | _ => none

end Attribute

end Targeting
