import Targeting.Allocation
import Targeting.Condition.Basic
import Targeting.Evaluation

/-!
# Feature flags

A flag as it is defined: its conditions, the seeds and the part of the traffic that go with them,
the default treatment, the flags that it depends on, and the configurations of its treatments.
-/

namespace Targeting

/-- Another flag, and the treatments of which it needs to have one. -/
structure Prerequisite where
  flag : String
  treatments : List String
deriving DecidableEq, Repr

/-- A feature flag. -/
structure Flag where
  name : String
  trafficTypeName : Option String := none
  seed : Int32 := 0
  trafficAllocation : UInt32 := 100
  trafficAllocationSeed : Int32 := 0
  killed : Bool := false
  status : Option String := none
  defaultTreatment : String := control
  changeNumber : Int64 := 0
  algorithm : Option UInt8 := none
  conditions : List Condition := []
  configurations : Option (List (String × String)) := none
  prerequisites : List Prerequisite := []
  sets : List String := []
  impressionsDisabled : Bool := false
deriving DecidableEq, Repr

namespace Prerequisite

/-- The prerequisite that a JSON value stands for. -/
def ofJson? : Json → Option Prerequisite :=
  Record.read? do
    let flag ← Record.required "n" Json.asString?
    let treatments ← Record.defaulted "ts" (Json.asList? Json.asString?) []
    return { flag, treatments }

/-- A prerequisite as JSON. -/
def toJson (prerequisite : Prerequisite) : Json :=
  .object
    [("n", .string prerequisite.flag), ("ts", Json.ofStrings prerequisite.treatments)]

end Prerequisite

namespace Flag

/-- The flag that a JSON value stands for. -/
def ofJson? : Json → Option Flag :=
  Record.read? do
    let name ← Record.required "name" Json.asString?
    let trafficTypeName ← Record.optional "trafficTypeName" Json.asString?
    let seed ← Record.defaulted "seed" Json.asInt32? 0
    let trafficAllocation ← Record.defaulted "trafficAllocation" Json.asUInt32? 100
    let trafficAllocationSeed ← Record.defaulted "trafficAllocationSeed" Json.asInt32? 0
    let killed ← Record.defaulted "killed" Json.asBool? false
    let status ← Record.optional "status" Json.asString?
    let defaultTreatment ← Record.defaulted "defaultTreatment" Json.asString? control
    let changeNumber ← Record.defaulted "changeNumber" Json.asInt64? 0
    let algorithm ← Record.optional "algo" Json.asUInt8?
    let conditions ← Record.defaulted "conditions" (Json.asList? Condition.ofJson?) []
    let configurations ← Record.optional "configurations" (Json.asMap? Json.asString?)
    let prerequisites ← Record.defaulted "prerequisites" (Json.asList? Prerequisite.ofJson?) []
    let sets ← Record.defaulted "sets" (Json.asList? Json.asString?) []
    let impressionsDisabled ← Record.defaulted "impressionsDisabled" Json.asBool? false
    return { name, trafficTypeName, seed, trafficAllocation, trafficAllocationSeed, killed, status,
             defaultTreatment, changeNumber, algorithm, conditions, configurations, prerequisites,
             sets, impressionsDisabled }

/-- Configurations as JSON. -/
def configurationsJson (configurations : List (String × String)) : Json :=
  .object (configurations.map fun (treatment, config) => (treatment, .string config))

/-- A flag as JSON. Missing configurations are left out. -/
def toJson (flag : Flag) : Json :=
  .object <|
    [("name", .string flag.name),
      ("trafficTypeName", Json.ofOption .string flag.trafficTypeName),
      ("seed", .integer flag.seed.toInt),
      ("trafficAllocation", .integer flag.trafficAllocation.toNat),
      ("trafficAllocationSeed", .integer flag.trafficAllocationSeed.toInt),
      ("killed", .bool flag.killed),
      ("status", Json.ofOption .string flag.status),
      ("defaultTreatment", .string flag.defaultTreatment),
      ("changeNumber", .integer flag.changeNumber.toInt),
      ("algo", Json.ofOption (fun number => .integer number.toNat) flag.algorithm),
      ("conditions", .array (flag.conditions.map Condition.toJson))] ++
    (flag.configurations.map fun configurations =>
      ("configurations", configurationsJson configurations)).toList ++
    [("prerequisites", .array (flag.prerequisites.map Prerequisite.toJson)),
      ("sets", Json.ofStrings flag.sets),
      ("impressionsDisabled", .bool flag.impressionsDisabled)]

/-- The seeds and the part of the traffic of a flag. -/
def allocation (flag : Flag) : Allocation where
  seed := flag.seed
  traffic? := some flag.trafficAllocation
  trafficSeed? := some flag.trafficAllocationSeed

/-- The configuration of a treatment. -/
def config? (flag : Flag) (treatment : String) : Option String :=
  flag.configurations.bind (·.lookup treatment)

/-- The evaluation of a flag to a treatment, with its change number and the treatment's
configuration. -/
def evaluationOf (flag : Flag) (treatment label : String) : Evaluation where
  treatment? := some treatment
  label := label
  changeNumber? := some flag.changeNumber
  config? := flag.config? treatment

/-- The evaluation of a flag to its default treatment. -/
def defaultEvaluation (flag : Flag) (label : String) : Evaluation :=
  flag.evaluationOf flag.defaultTreatment label

/-- The evaluation of a flag that failed. -/
def failedEvaluation (flag : Flag) : Evaluation :=
  { Evaluation.ofControl Label.exception with changeNumber? := some flag.changeNumber }

end Flag

end Targeting
