import Targeting.Matcher.Definition
import Targeting.Partition

/-!
# Conditions

A condition of a flag as it is defined: a group of matchers that all have to match, and the
partitions that treatments are shared out by when they do.
-/

namespace Targeting

/-- Whether a condition is subject to the traffic allocation. -/
inductive ConditionKind where
  /-- Only keys within the allocation reach the condition. -/
  | rollout
  /-- Every key reaches the condition. -/
  | whitelist
deriving DecidableEq, Repr

/-- A condition of a flag. -/
structure Condition where
  kind : ConditionKind
  /-- The matchers, all of which have to match. -/
  matchers : List MatcherDefinition
  partitions : List Partition
  label : String
deriving DecidableEq, Repr

namespace ConditionKind

/-- The kind that a JSON value names. -/
def ofJson? (json : Json) : Option ConditionKind :=
  match json.asName? with
  | some "ROLLOUT" => some rollout
  | some "WHITELIST" => some whitelist
  | _ => none

/-- A kind as JSON. -/
def toJson : ConditionKind → Json
  | rollout => .string "ROLLOUT"
  | whitelist => .string "WHITELIST"

end ConditionKind

namespace MatcherGroup

/-- The one way in which the matchers of a group are combined. -/
def readCombiner? (json : Json) : Option Unit :=
  match json.asName? with
  | some "AND" => some ()
  | _ => none

/-- The matchers of the group that a JSON value stands for. -/
def ofJson? : Json → Option (List MatcherDefinition) :=
  Record.read? do
    Record.defaulted "combiner" readCombiner? ()
    Record.defaulted "matchers" (Json.asList? MatcherDefinition.ofJson?) []

/-- A group of matchers as JSON. -/
def toJson (matchers : List MatcherDefinition) : Json :=
  .object
    [("combiner", .string "AND"), ("matchers", .array (matchers.map MatcherDefinition.toJson))]

end MatcherGroup

namespace Condition

/-- The condition that a JSON value stands for. -/
def ofJson? : Json → Option Condition :=
  Record.read? do
    let kind ← Record.defaulted "conditionType" ConditionKind.ofJson? .rollout
    let matchers ← Record.required "matcherGroup" MatcherGroup.ofJson?
    let partitions ← Record.defaulted "partitions" (Json.asList? Partition.ofJson?) []
    let label ← Record.defaulted "label" Json.asString? ""
    return { kind, matchers, partitions, label }

/-- A condition as JSON. -/
def toJson (condition : Condition) : Json :=
  .object
    [("conditionType", condition.kind.toJson),
      ("matcherGroup", MatcherGroup.toJson condition.matchers),
      ("partitions", .array (condition.partitions.map Partition.toJson)),
      ("label", .string condition.label)]

end Condition

end Targeting
