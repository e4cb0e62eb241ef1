import Targeting.Condition.Compiled

/-!
# Rules

The conditions of a flag in order; the first that decides wins. If any matcher of any condition is
not supported, the rules as a whole are not, and always decide for the control treatment.
-/

namespace Targeting

/-- Conditions that are ready to be evaluated. -/
structure CompiledRules where
  conditions : List CompiledCondition

namespace CompiledRules

/-- Compile conditions. The first that cannot be compiled makes the rules fail. -/
def ofConditions [PatternLanguage] (conditions : List Condition) :
    Except CompileError CompiledRules :=
  (conditions.mapM CompiledCondition.ofCondition).map (⟨·⟩)

/-- What the rules decide; nothing if no condition does. -/
def decision (rules : CompiledRules) (allocation : Allocation) (context : Context) :
    Lookup Call (Option Evaluation) :=
  Lookup.firstDecision (·.decision allocation context) rules.conditions

end CompiledRules

/-- The rules of a flag. -/
inductive Rules where
  | compiled (rules : CompiledRules)
  /-- A matcher among them is not supported. -/
  | unsupported

namespace Rules

/-- Compile conditions. Rules that are not supported do not fail; malformed ones do. -/
def ofConditions [PatternLanguage] (conditions : List Condition) : Except CompileError Rules :=
  match CompiledRules.ofConditions conditions with
  | .ok rules => .ok (compiled rules)
  | .error error => if error.isUnsupported then .ok unsupported else .error error

/-- Whether the rules can be evaluated. -/
def isSupported : Rules → Bool
  | compiled _ => true
  | unsupported => false

/-- What the rules decide; nothing if no condition does. -/
def decision (rules : Rules) (allocation : Allocation) (context : Context) :
    Lookup Call (Option Evaluation) :=
  match rules with
  | compiled rules => rules.decision allocation context
  | unsupported => .ready (some (.ofControl Label.unsupportedMatcher))

end Rules

end Targeting
