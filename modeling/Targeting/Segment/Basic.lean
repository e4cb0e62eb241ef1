import Targeting.Condition.Basic

/-!
# Rule-based segments

A segment of keys that is not listed but computed: a key belongs to it when the matchers of one of
its conditions match, unless the key is excluded, by itself or by a segment that it belongs to.
-/

namespace Targeting

/-- What an excluded segment is. -/
inductive SegmentKind where
  | standard
  | ruleBased
  | large
deriving DecidableEq, Repr

/-- A segment whose keys are excluded. -/
structure ExcludedSegment where
  kind : SegmentKind
  name : String
deriving DecidableEq, Repr

/-- Keys and segments that are excluded. -/
structure Exclusions where
  keys : List String := []
  segments : List ExcludedSegment := []
deriving DecidableEq, Repr

/-- A segment whose keys are computed. -/
structure RuleBasedSegment where
  name : String
  trafficTypeName : Option String := none
  changeNumber : Int64 := 0
  status : Option String := none
  excluded : Exclusions := {}
  conditions : List Condition := []
deriving DecidableEq, Repr

namespace SegmentKind

/-- The kind that a JSON value names. -/
def ofJson? (json : Json) : Option SegmentKind :=
  match json.asName? with
  | some "standard" => some standard
  | some "rule-based" => some ruleBased
  | some "large" => some large
  | _ => none

/-- A kind as JSON. -/
def toJson : SegmentKind → Json
  | standard => .string "standard"
  | ruleBased => .string "rule-based"
  | large => .string "large"

end SegmentKind

namespace ExcludedSegment

/-- The excluded segment that a JSON value stands for. -/
def ofJson? : Json → Option ExcludedSegment :=
  Record.read? do
    let kind ← Record.required "type" SegmentKind.ofJson?
    let name ← Record.required "name" Json.asString?
    return { kind, name }

/-- An excluded segment as JSON. -/
def toJson (segment : ExcludedSegment) : Json :=
  .object [("type", segment.kind.toJson), ("name", .string segment.name)]

end ExcludedSegment

namespace Exclusions

/-- The exclusions that a JSON value stands for. -/
def ofJson? : Json → Option Exclusions :=
  Record.read? do
    let keys ← Record.defaulted "keys" (Json.asList? Json.asString?) []
    let segments ← Record.defaulted "segments" (Json.asList? ExcludedSegment.ofJson?) []
    return { keys, segments }

/-- Exclusions as JSON. -/
def toJson (exclusions : Exclusions) : Json :=
  .object
    [("keys", Json.ofStrings exclusions.keys),
      ("segments", .array (exclusions.segments.map ExcludedSegment.toJson))]

end Exclusions

namespace RuleBasedSegment

/-- The segment that a JSON value stands for. -/
def ofJson? : Json → Option RuleBasedSegment :=
  Record.read? do
    let name ← Record.required "name" Json.asString?
    let trafficTypeName ← Record.optional "trafficTypeName" Json.asString?
    let changeNumber ← Record.defaulted "changeNumber" Json.asInt64? 0
    let status ← Record.optional "status" Json.asString?
    let excluded ← Record.defaulted "excluded" Exclusions.ofJson? {}
    let conditions ← Record.defaulted "conditions" (Json.asList? Condition.ofJson?) []
    return { name, trafficTypeName, changeNumber, status, excluded, conditions }

/-- A segment as JSON. -/
def toJson (segment : RuleBasedSegment) : Json :=
  .object
    [("name", .string segment.name),
      ("trafficTypeName", Json.ofOption .string segment.trafficTypeName),
      ("changeNumber", .integer segment.changeNumber.toInt),
      ("status", Json.ofOption .string segment.status),
      ("excluded", segment.excluded.toJson),
      ("conditions", .array (segment.conditions.map Condition.toJson))]

/-- Whether a key is excluded by itself. -/
def excludesKey (segment : RuleBasedSegment) (matchingKey : String) : Bool :=
  segment.excluded.keys.contains matchingKey

end RuleBasedSegment

end Targeting
