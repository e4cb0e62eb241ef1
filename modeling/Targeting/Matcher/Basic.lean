import Targeting.Matcher.Definition
import Targeting.Matcher.Kind
import Targeting.Timestamp

/-!
# Matchers

A matcher in its normal form: what it compares with, what it compares, and the type that the
compared value is brought to first. Timestamps are truncated, to the day for equality and to the
minute for the orderings.

`Matcher.ofDefinition` normalizes a definition. It fails when the kind is unknown or its payload is
missing.
-/

namespace Targeting

/-- The type that a compared value is brought to. -/
inductive ValueType where
  | boolean
  | string
  | number
  | set
  | datetime
  /-- A key, for matchers that evaluate another definition. -/
  | notSpecified
deriving DecidableEq, Repr

/-- What a matcher compares with. -/
inductive Operand where
  | none
  | segment (name : String)
  | whitelist (texts : List String)
  | number (value : Double)
  | range (start finish : Double)
  | boolean (value : Bool)
  | text (text : String)
  | dependency (flag : String) (treatments : List String)
  | textRange (start finish : String)
deriving DecidableEq, Repr

/-- A matcher in normal form. -/
structure Matcher where
  kind : MatcherKind
  operand : Operand
  /-- The attribute to compare; the key itself if there is none. -/
  attribute? : Option String
  negate : Bool
  valueType : ValueType
deriving DecidableEq, Repr

/-- Reasons a definition has no normal form. -/
inductive MatcherError where
  | unknownKind (name : String)
  | missingPayload (kind : MatcherKind) (field : String)
deriving DecidableEq, Repr

namespace MatcherError

/-- The text of an error. -/
def message : MatcherError → String
  | unknownKind name => "unknown matcher type `" ++ name ++ "`"
  | missingPayload kind field => kind.name ++ " matcher is missing `" ++ field ++ "`"

end MatcherError

namespace Matcher

/-- Truncate a timestamp as far as a kind of matcher wants. -/
def truncate (kind : MatcherKind) (millis : Double) : Double :=
  match kind with
  | .equalTo => Timestamp.truncate Timestamp.day millis
  | .greaterThanOrEqualTo | .lessThanOrEqualTo | .between =>
      Timestamp.truncate Timestamp.minute millis
  | _ => millis

/-- The type of values that are compared with a kind of number. -/
def typeOfNumber : NumberKind → ValueType
  | .number => .number
  | .datetime => .datetime

/-- A number to compare with: a timestamp is truncated. -/
def operandNumber (kind : MatcherKind) (numberKind : NumberKind) (value : Double) : Double :=
  match numberKind with
  | .number => value
  | .datetime => truncate kind value

/-- A payload that a kind cannot do without. -/
def need {α : Type} (kind : MatcherKind) (field : String) : Option α → Except MatcherError α
  | some payload => .ok payload
  | none => .error (.missingPayload kind field)

/-- What a definition of a given kind compares with, and the type of values it compares. -/
def payload (definition : MatcherDefinition) (kind : MatcherKind) :
    Except MatcherError (Operand × ValueType) :=
  match kind with
  | .allKeys => .ok (.none, .string)
  | .inSegment =>
      (need kind "userDefinedSegmentMatcherData" definition.segment).map fun name =>
        (.segment name, .string)
  | .inLargeSegment =>
      (need kind "userDefinedLargeSegmentMatcherData" definition.largeSegment).map fun name =>
        (.segment name, .string)
  | .inRuleBasedSegment =>
      (need kind "userDefinedSegmentMatcherData" definition.segment).map fun name =>
        (.segment name, .notSpecified)
  | .equalTo | .greaterThanOrEqualTo | .lessThanOrEqualTo =>
      (need kind "unaryNumericMatcherData" definition.number).map fun payload =>
        (.number (operandNumber kind payload.kind payload.value), typeOfNumber payload.kind)
  | .between =>
      (need kind "betweenMatcherData" definition.numberRange).map fun payload =>
        (.range (operandNumber kind payload.kind payload.start)
          (operandNumber kind payload.kind payload.finish), typeOfNumber payload.kind)
  | .equalToSet | .containsAnyOfSet | .containsAllOfSet | .partOfSet =>
      (need kind "whitelistMatcherData" definition.whitelist).map fun texts =>
        (.whitelist texts, .set)
  | .whitelist | .startsWith | .endsWith | .containsString | .inListSemver =>
      (need kind "whitelistMatcherData" definition.whitelist).map fun texts =>
        (.whitelist texts, .string)
  | .inSplitTreatment =>
      (need kind "dependencyMatcherData" definition.dependency).map fun payload =>
        (.dependency payload.flag payload.treatments, .notSpecified)
  | .equalToBoolean =>
      (need kind "booleanMatcherData" definition.boolean).map fun value =>
        (.boolean value, .boolean)
  | .matchesString | .equalToSemver | .greaterThanOrEqualToSemver | .lessThanOrEqualToSemver =>
      (need kind "stringMatcherData" definition.text).map fun text => (.text text, .string)
  | .betweenSemver =>
      (need kind "betweenStringMatcherData" definition.textRange).map fun payload =>
        (.textRange payload.start payload.finish, .string)

/-- The normal form of a definition. -/
def ofDefinition (definition : MatcherDefinition) : Except MatcherError Matcher :=
  match MatcherKind.ofName? definition.kindName with
  | none => .error (.unknownKind definition.kindName)
  | some kind =>
      (payload definition kind).map fun (operand, valueType) =>
        { kind, operand, valueType
          attribute? := definition.keySelector.bind (·.attribute?)
          negate := definition.negate }

end Matcher

end Targeting
