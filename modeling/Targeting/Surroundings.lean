import Targeting.Attribute.Basic
import Targeting.Evaluation
import Targeting.Key
import Targeting.Lookup

/-!
# The surroundings of a matcher

A matcher may ask a segment for a key, or evaluate another definition for it. `Surroundings` holds
the answers to all such questions, whatever gives them; matchers, conditions and the rules of a flag
are evaluated in a context that has them. Every question that reaches a backend is recorded as a
call.
-/

namespace Targeting

/-- A backend could not answer. -/
inductive StorageError where
  | backend (message : String)
deriving DecidableEq, Repr

namespace StorageError

/-- The text of an error. -/
def message : StorageError → String
  | backend message => "storage backend failed: " ++ message

end StorageError

/-- Reasons a matcher cannot be evaluated. -/
inductive EvaluationError where
  | storage (error : StorageError)
  | ruleBasedSegmentCycle (name : String)
deriving DecidableEq, Repr

namespace EvaluationError

/-- The text of an error. -/
def message : EvaluationError → String
  | storage error => error.message
  | ruleBasedSegmentCycle name => "rule-based segment " ++ name ++ " depends on itself"

end EvaluationError

/-- A question that reached a backend. -/
inductive Call where
  /-- A flag was read. -/
  | flag (name : String)
  /-- A rule-based segment was read. -/
  | ruleBased (name : String)
  /-- A segment was asked for a key. -/
  | segment (name key : String)
  /-- A large segment was asked for a key. -/
  | largeSegment (name key : String)
  /-- A custom evaluator was asked for a flag. -/
  | evaluator (name : String) (key : Key)
  /-- A custom evaluator was told what the flag that it was asked for, and handed back, evaluated
  to. -/
  | handedBack (name : String) (evaluation : Evaluation)
deriving DecidableEq, Repr

/-- The answers that a matcher may ask for. -/
structure Surroundings where
  /-- Whether a segment has a key. -/
  inSegment : (name key : String) → Lookup Call (Except EvaluationError Bool)
  /-- Whether a large segment has a key. -/
  inLargeSegment : (name key : String) → Lookup Call (Except EvaluationError Bool)
  /-- Whether a rule-based segment has a key. -/
  inRuleBased : (name : String) → (key : Key) → Lookup Call (Except EvaluationError Bool)
  /-- What another flag evaluates to for a key. -/
  evaluation : (name : String) → (key : Key) → Lookup Call Evaluation

/-- What an evaluation depends on besides the rules. -/
structure Context where
  key : Key
  attributes : Attributes
  surroundings : Surroundings

end Targeting
