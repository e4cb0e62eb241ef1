import Targeting.Json.Basic

/-!
# Evaluations

The result of evaluating a flag for a key: a treatment, the label that explains it, and what the
flag adds to it. A result without a treatment says that the key is outside the traffic allocation;
the flag's default treatment takes its place.
-/

namespace Targeting

/-- The treatment that is given when a flag cannot be evaluated. -/
def control : String := "control"

namespace Label

/-- The key is outside the traffic allocation. -/
def notInSplit : String := "not in split"

/-- A matcher of the flag is not supported. -/
def unsupportedMatcher : String := "targeting rule type unsupported by sdk"

/-- The flag is switched off. -/
def killed : String := "killed"

/-- No condition decides. -/
def defaultRule : String := "default rule"

/-- There is no such flag. -/
def notFound : String := "definition not found"

/-- The evaluation failed. -/
def exception : String := "exception"

/-- Another flag does not have a treatment that it needs to have. -/
def prerequisitesNotMet : String := "prerequisites not met"

end Label

/-- The result of evaluating a flag for a key. -/
structure Evaluation where
  treatment? : Option String
  label : String
  changeNumber? : Option Int64 := none
  config? : Option String := none
deriving DecidableEq, Repr

namespace Evaluation

/-- A treatment with a label. -/
def ofTreatment (treatment label : String) : Evaluation := { treatment? := some treatment, label }

/-- The control treatment with a label. -/
def ofControl (label : String) : Evaluation := ofTreatment control label

/-- The key is outside the traffic allocation. -/
def notInSplit : Evaluation := { treatment? := none, label := Label.notInSplit }

/-- The treatment, or control if there is none. -/
def treatment (evaluation : Evaluation) : String := evaluation.treatment?.getD control

/-- An evaluation as JSON. What the flag adds is left out when it is missing. -/
def toJson (evaluation : Evaluation) : Json :=
  .object <|
    [("treatment", Json.ofOption .string evaluation.treatment?),
      ("label", .string evaluation.label)] ++
    (evaluation.changeNumber?.map fun number => ("changeNumber", .integer number.toInt)).toList ++
    (evaluation.config?.map fun config => ("config", .string config)).toList

end Evaluation

end Targeting
