import Targeting.Attribute.Coercion
import Targeting.Matcher.Basic

/-!
# Compared values

The value that a matcher compares is an attribute or the key, brought to the matcher's type. A
timestamp is truncated just as the one it is compared with. There is no value when the attribute is
missing or worth nothing of that type; the matcher does not match then.
-/

namespace Targeting

/-- A value of the type that a matcher wants. -/
inductive MatchValue where
  | number (value : Double)
  | string (text : String)
  | set (texts : List String)
  | boolean (value : Bool)
  /-- A key for which another definition is evaluated. -/
  | key (key : Key)
deriving DecidableEq, Repr

namespace MatchValue

/-- An attribute brought to a type. As a key it is the key that it describes, or else the one with
its text. -/
def ofAttribute? (value : Attribute) : ValueType → Option MatchValue
  | .number | .datetime => value.toNumber?.map number
  | .string => value.toText?.map string
  | .set => value.toSet?.map set
  | .boolean => value.toBool?.map boolean
  | .notSpecified => (value.toKey?.or (value.toText?.map Key.ofMatching)).map key

/-- The evaluation's key brought to a type. -/
def ofKey? (key : Key) : ValueType → Option MatchValue
  | .notSpecified => some (.key key)
  | valueType => ofAttribute? (.string key.matching) valueType

/-- Truncate a timestamp as far as a matcher wants. -/
def truncateFor (matcher : Matcher) : MatchValue → MatchValue
  | number millis =>
      if matcher.valueType = .datetime then number (Matcher.truncate matcher.kind millis)
      else number millis
  | value => value

end MatchValue

namespace Matcher

/-- The value that a matcher compares. -/
def value? (matcher : Matcher) (key : Key) (attributes : Attributes) : Option MatchValue :=
  let value :=
    match matcher.attribute? with
    | none => MatchValue.ofKey? key matcher.valueType
    | some name =>
        (attributes.lookup name).bind fun value => MatchValue.ofAttribute? value matcher.valueType
  value.map (MatchValue.truncateFor matcher)

end Matcher

end Targeting
