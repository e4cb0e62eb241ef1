import Targeting.Json.Record

/-!
# Definitions of matchers

A matcher as a condition defines it: the name of its kind and one payload for each family of kinds.
Only the payload of the named kind has a meaning, but a definition may carry all of them.
-/

namespace Targeting

/-- Where the compared value comes from. -/
structure KeySelector where
  trafficType : Option String
  /-- The attribute to compare; the key itself if there is none. -/
  attribute? : Option String
deriving DecidableEq, Repr

/-- Whether numbers are plain or timestamps in milliseconds. -/
inductive NumberKind where
  | number
  | datetime
deriving DecidableEq, Repr

/-- One number to compare with. -/
structure NumberPayload where
  kind : NumberKind
  value : Double
deriving DecidableEq, Repr

/-- Two numbers to compare with. -/
structure NumberRangePayload where
  kind : NumberKind
  start : Double
  finish : Double
deriving DecidableEq, Repr

/-- A flag and the treatments of it that count. -/
structure DependencyPayload where
  flag : String
  treatments : List String
deriving DecidableEq, Repr

/-- Two texts to compare with. -/
structure TextRangePayload where
  start : String
  finish : String
deriving DecidableEq, Repr

/-- A matcher as a condition defines it. -/
structure MatcherDefinition where
  kindName : String
  negate : Bool := false
  keySelector : Option KeySelector := none
  segment : Option String := none
  largeSegment : Option String := none
  whitelist : Option (List String) := none
  number : Option NumberPayload := none
  numberRange : Option NumberRangePayload := none
  dependency : Option DependencyPayload := none
  boolean : Option Bool := none
  text : Option String := none
  textRange : Option TextRangePayload := none
deriving DecidableEq, Repr

namespace KeySelector

/-- The selector that a JSON value stands for. -/
def ofJson? : Json → Option KeySelector :=
  Record.read? do
    let trafficType ← Record.nullable "trafficType" Json.asString?
    let attribute? ← Record.nullable "attribute" Json.asString?
    return { trafficType, attribute? }

/-- A selector as JSON. -/
def toJson (selector : KeySelector) : Json :=
  .object
    [("trafficType", Json.ofOption .string selector.trafficType),
      ("attribute", Json.ofOption .string selector.attribute?)]

end KeySelector

namespace NumberKind

/-- The kind that a JSON value names: one name means a timestamp, any other a plain number. -/
def ofJson? (json : Json) : Option NumberKind :=
  json.asName?.map fun name => if name = "DATETIME" then datetime else number

/-- A kind as JSON. -/
def toJson : NumberKind → Json
  | number => .string "NUMBER"
  | datetime => .string "DATETIME"

end NumberKind

namespace NumberPayload

/-- The payload that a JSON value stands for. -/
def ofJson? : Json → Option NumberPayload :=
  Record.read? do
    let kind ← Record.defaulted "dataType" NumberKind.ofJson? .number
    let value ← Record.required "value" Json.asDouble?
    return { kind, value }

/-- A payload as JSON. -/
def toJson (payload : NumberPayload) : Json :=
  .object [("dataType", payload.kind.toJson), ("value", .number payload.value)]

end NumberPayload

namespace NumberRangePayload

/-- The payload that a JSON value stands for. -/
def ofJson? : Json → Option NumberRangePayload :=
  Record.read? do
    let kind ← Record.defaulted "dataType" NumberKind.ofJson? .number
    let start ← Record.required "start" Json.asDouble?
    let finish ← Record.required "end" Json.asDouble?
    return { kind, start, finish }

/-- A payload as JSON. -/
def toJson (payload : NumberRangePayload) : Json :=
  .object
    [("dataType", payload.kind.toJson), ("start", .number payload.start),
      ("end", .number payload.finish)]

end NumberRangePayload

namespace DependencyPayload

/-- The payload that a JSON value stands for. -/
def ofJson? : Json → Option DependencyPayload :=
  Record.read? do
    let flag ← Record.required "split" Json.asString?
    let treatments ← Record.defaulted "treatments" (Json.asList? Json.asString?) []
    return { flag, treatments }

/-- A payload as JSON. -/
def toJson (payload : DependencyPayload) : Json :=
  .object [("split", .string payload.flag), ("treatments", Json.ofStrings payload.treatments)]

end DependencyPayload

namespace TextRangePayload

/-- The payload that a JSON value stands for. -/
def ofJson? : Json → Option TextRangePayload :=
  Record.read? do
    let start ← Record.required "start" Json.asString?
    let finish ← Record.required "end" Json.asString?
    return { start, finish }

/-- A payload as JSON. -/
def toJson (payload : TextRangePayload) : Json :=
  .object [("start", .string payload.start), ("end", .string payload.finish)]

end TextRangePayload

namespace MatcherDefinition

/-- A text wrapped into a record of one field. -/
def wrapped? (name : String) : Json → Option String :=
  Record.read? (Record.required name Json.asString?)

/-- A list of texts wrapped into a record of one field, empty by default. -/
def wrappedList? (name : String) : Json → Option (List String) :=
  Record.read? (Record.defaulted name (Json.asList? Json.asString?) [])

/-- The definition that a JSON value stands for. Payloads without a meaning for the kind are read
too. -/
def ofJson? : Json → Option MatcherDefinition :=
  Record.read? do
    let kindName ← Record.required "matcherType" Json.asString?
    let negate ← Record.defaulted "negate" Json.asBool? false
    let keySelector ← Record.nullable "keySelector" KeySelector.ofJson?
    let segment ← Record.nullable "userDefinedSegmentMatcherData" (wrapped? "segmentName")
    let largeSegment ←
      Record.nullable "userDefinedLargeSegmentMatcherData" (wrapped? "largeSegmentName")
    let whitelist ← Record.nullable "whitelistMatcherData" (wrappedList? "whitelist")
    let number ← Record.nullable "unaryNumericMatcherData" NumberPayload.ofJson?
    let numberRange ← Record.nullable "betweenMatcherData" NumberRangePayload.ofJson?
    let dependency ← Record.nullable "dependencyMatcherData" DependencyPayload.ofJson?
    let boolean ← Record.nullable "booleanMatcherData" Json.asBool?
    let text ← Record.nullable "stringMatcherData" Json.asString?
    let textRange ← Record.nullable "betweenStringMatcherData" TextRangePayload.ofJson?
    return { kindName, negate, keySelector, segment, largeSegment, whitelist, number, numberRange,
             dependency, boolean, text, textRange }

/-- A definition as JSON. -/
def toJson (definition : MatcherDefinition) : Json :=
  .object
    [("matcherType", .string definition.kindName),
      ("negate", .bool definition.negate),
      ("keySelector", Json.ofOption KeySelector.toJson definition.keySelector),
      ("userDefinedSegmentMatcherData",
        Json.ofOption (fun name => .object [("segmentName", .string name)]) definition.segment),
      ("userDefinedLargeSegmentMatcherData",
        Json.ofOption (fun name => .object [("largeSegmentName", .string name)])
          definition.largeSegment),
      ("whitelistMatcherData",
        Json.ofOption (fun texts => .object [("whitelist", Json.ofStrings texts)])
          definition.whitelist),
      ("unaryNumericMatcherData", Json.ofOption NumberPayload.toJson definition.number),
      ("betweenMatcherData", Json.ofOption NumberRangePayload.toJson definition.numberRange),
      ("dependencyMatcherData", Json.ofOption DependencyPayload.toJson definition.dependency),
      ("booleanMatcherData", Json.ofOption .bool definition.boolean),
      ("stringMatcherData", Json.ofOption .string definition.text),
      ("betweenStringMatcherData", Json.ofOption TextRangePayload.toJson definition.textRange)]

end MatcherDefinition

end Targeting
