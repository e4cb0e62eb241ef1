import Targeting.Flag.Basic
import Targeting.Rules

/-!
# Compiled flags

A flag with its rules compiled. Around the rules stand the switch that turns the flag off, the flags
that it depends on, and the default treatment for the case that nothing is decided.
-/

namespace Targeting

/-- A flag that is ready to be evaluated. -/
structure CompiledFlag where
  flag : Flag
  rules : Rules

namespace Prerequisite

/-- Whether an evaluation meets a prerequisite. One without a treatment counts as control. -/
def acceptsEvaluation (prerequisite : Prerequisite) (evaluation : Evaluation) : Bool :=
  prerequisite.treatments.contains evaluation.treatment

/-- Whether all prerequisites are met, checked in order up to the first that is not. -/
def allMet (context : Context) : List Prerequisite → Lookup Call Bool
  | [] => .ready true
  | prerequisite :: rest =>
      (context.surroundings.evaluation prerequisite.flag context.key).bind fun evaluation =>
        if prerequisite.acceptsEvaluation evaluation then allMet context rest else .ready false

end Prerequisite

namespace CompiledFlag

/-- Compile a flag. Malformed partitions are an error, matchers that are not supported are not. -/
def ofFlag [PatternLanguage] (flag : Flag) : Except CompileError CompiledFlag :=
  (Rules.ofConditions flag.conditions).map fun rules => { flag, rules }

/-- The evaluation that a decision of the rules leads to. -/
def conclude (flag : Flag) : Option Evaluation → Evaluation
  | none => flag.defaultEvaluation Label.defaultRule
  | some decision =>
      match decision.treatment? with
      | none => flag.defaultEvaluation decision.label
      | some treatment => flag.evaluationOf treatment decision.label

/-- Evaluate a flag in a context whose surroundings know that the flag is being evaluated. -/
def evaluateIn (compiled : CompiledFlag) (context : Context) : Lookup Call Evaluation :=
  let flag := compiled.flag
  if flag.killed then .ready (flag.defaultEvaluation Label.killed)
  else
    (Prerequisite.allMet context flag.prerequisites).bind fun met =>
      if met then
        (compiled.rules.decision flag.allocation context).map (conclude flag)
      else .ready (flag.defaultEvaluation Label.prerequisitesNotMet)

end CompiledFlag

end Targeting
