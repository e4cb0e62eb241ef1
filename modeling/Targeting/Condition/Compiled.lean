import Targeting.Allocation
import Targeting.Condition.Basic
import Targeting.Matcher.Predicate

/-!
# Compiled conditions

A condition with everything prepared that does not depend on the key: its matchers as predicates and
its partitions as a table.

A matcher is evaluated in three steps: its value is brought to the matcher's type, the predicate is
asked, and the answer is negated if the matcher says so. A missing value and a failure both count as
a predicate that does not hold, and are negated like any other.
-/

namespace Targeting

/-- Reasons conditions cannot be compiled. -/
inductive CompileError where
  | unsupportedMatcher (error : MatcherError)
  | invalidMatcher (error : PredicateError)
  | invalidPartitions (error : PartitionError)
deriving DecidableEq, Repr

namespace CompileError

/-- Whether the rules use something that cannot be evaluated here, as opposed to being
malformed. -/
def isUnsupported : CompileError → Bool
  | invalidPartitions _ => false
  | _ => true

/-- The text of an error. -/
def message : CompileError → String
  | unsupportedMatcher error => "unsupported matcher: " ++ error.message
  | invalidMatcher error => "matcher could not be built: " ++ error.message
  | invalidPartitions error => "malformed partitions: " ++ error.message

end CompileError

/-- A matcher with its predicate. -/
structure CompiledMatcher where
  matcher : Matcher
  predicate : Predicate

namespace CompiledMatcher

/-- Compile the definition of a matcher. -/
def ofDefinition [PatternLanguage] (definition : MatcherDefinition) :
    Except CompileError CompiledMatcher :=
  ((Matcher.ofDefinition definition).mapError .unsupportedMatcher).bind fun matcher =>
    ((Predicate.ofMatcher matcher).mapError .invalidMatcher).map fun predicate =>
      { matcher, predicate }

/-- Whether the predicate holds for the matcher's value, before negation. -/
def holds (compiled : CompiledMatcher) (context : Context) : Lookup Call Bool :=
  match compiled.matcher.value? context.key context.attributes with
  | none => .ready false
  | some value =>
      (compiled.predicate.holds value context.surroundings).map fun answer =>
        answer.toOption.getD false

/-- Whether a matcher matches. -/
def isMatch (compiled : CompiledMatcher) (context : Context) : Lookup Call Bool :=
  (compiled.holds context).map (· != compiled.matcher.negate)

end CompiledMatcher

/-- Matchers that all have to match. -/
structure CompiledGroup where
  matchers : List CompiledMatcher

namespace CompiledGroup

/-- Compile a group of matchers. The first that cannot be compiled makes the whole group fail. -/
def ofDefinitions [PatternLanguage] (definitions : List MatcherDefinition) :
    Except CompileError CompiledGroup :=
  (definitions.mapM CompiledMatcher.ofDefinition).map (⟨·⟩)

/-- Whether all matchers match. Each of them is evaluated, also after one that does not match. -/
def isMatch (group : CompiledGroup) (context : Context) : Lookup Call Bool :=
  Lookup.conjunction (group.matchers.map (·.isMatch context))

end CompiledGroup

/-- A condition that is ready to be evaluated. -/
structure CompiledCondition where
  kind : ConditionKind
  group : CompiledGroup
  table : PartitionTable
  label : String

namespace CompiledCondition

/-- Compile a condition: first its matchers, then its partitions. -/
def ofCondition [PatternLanguage] (condition : Condition) :
    Except CompileError CompiledCondition :=
  (CompiledGroup.ofDefinitions condition.matchers).bind fun group =>
    ((PartitionTable.ofPartitions condition.partitions).mapError .invalidPartitions).map
      fun table => { kind := condition.kind, group, table, label := condition.label }

/-- The evaluation that a treatment from the table leads to. -/
def evaluationOf (condition : CompiledCondition) : Except PartitionError String → Evaluation
  | .ok treatment => .ofTreatment treatment condition.label
  | .error _ => .ofControl Label.exception

/-- The evaluation that a key gets when the matchers match. -/
def outcome (condition : CompiledCondition) (allocation : Allocation) (key : Key) : Evaluation :=
  condition.evaluationOf (condition.table.treatment (allocation.bucketOf key.bucketing))

/-- What a condition decides; nothing if its matchers do not match. A key outside the traffic
allocation gets its decision from a rollout condition before any matcher is evaluated. -/
def decision (condition : CompiledCondition) (allocation : Allocation) (context : Context) :
    Lookup Call (Option Evaluation) :=
  if condition.kind = .rollout ∧ ¬allocation.allocates context.key.bucketing then
    .ready (some .notInSplit)
  else
    (condition.group.isMatch context).map fun matched =>
      if matched then some (condition.outcome allocation context.key) else none

end CompiledCondition

end Targeting
