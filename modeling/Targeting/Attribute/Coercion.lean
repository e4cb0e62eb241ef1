import Targeting.Attribute.Text
import Targeting.Double.Decimal
import Targeting.Key
import Targeting.Text.Blank
import Targeting.Text.Set

/-!
# Attributes as values of a given type

What an attribute is worth as a number, a text, a key, a set of texts or a truth value. An attribute
that is worth nothing of the wanted type gives no value.
-/

namespace Targeting.Attribute

/-- The text of a string; nothing else is converted. -/
def asString? : Attribute → Option String
  | string text => some text
  | _ => none

/-- The field of an object. -/
def field? (name : String) : Attribute → Option Attribute
  | object fields => fields.lookup name
  | _ => none

/-- The field of an object if it holds a text that is not empty. -/
def textField? (name : String) (value : Attribute) : Option String :=
  ((value.field? name).bind asString?).filter (!·.isEmpty)

/-- A finite number: a number itself, or the text of one with blanks around it. -/
def toNumber? (value : Attribute) : Option Double :=
  let candidate :=
    match value with
    | number value => some value
    | string text => Double.read? (Text.trim text.toList)
    | _ => none
  candidate.filter Double.isFinite

/-- A text that is not empty. An object stands for the matching part of the key that it
describes. -/
def toText? (value : Attribute) : Option String :=
  match value with
  | object _ => value.textField? "matchingKey"
  | null => none
  | _ => (some value.text).filter (!·.isEmpty)

/-- The key that an object describes. An empty bucketing part counts as missing. -/
def toKey? (value : Attribute) : Option Key :=
  (value.textField? "matchingKey").map fun matching =>
    ⟨matching, value.textField? "bucketingKey"⟩

/-- The texts of the items of an array that is not empty, without duplicates. -/
def toSet? : Attribute → Option (List String)
  | array (item :: rest) => some (Text.distinct ((item :: rest).map text))
  | _ => none

/-- The text with the letters of the basic alphabet in lower case. -/
def lowerCase (text : String) : String := text.map Char.toLower

/-- A truth value itself, or the name of one in any case of letters. -/
def toBool? : Attribute → Option Bool
  | bool value => some value
  | string text =>
      if lowerCase text = "true" then some true
      else if lowerCase text = "false" then some false
      else none
  | _ => none

end Targeting.Attribute
