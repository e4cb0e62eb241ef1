import Targeting.Flag.Compiled
import Targeting.Pattern.Standard
import Targeting.Segment.Membership
import Targeting.Storage.Basic

/-!
# Evaluating flags

Flags and rule-based segments are read from a storage, and may refer to each other in any way. An
evaluation keeps the names that it is inside of on a stack. A flag that is met inside its own
evaluation evaluates to control, and a rule-based segment that is met inside its own evaluation is
an error, so that the surroundings of every context are well defined: each step inwards enters a
name of the storage that has not been entered before.

A custom evaluator may answer for flags that others depend on, or hand a flag back to be evaluated
from the storage. It goes by the name and the key that it is asked for, and can hand back nothing
but the flag that it is asked for.

The language of patterns is a parameter throughout; evaluations that do not choose one are in the
standard language.
-/

namespace Targeting

/-- A custom evaluator for flags that others depend on: it answers for a flag and a key, or hands
that same flag back. Nothing else than the name and the key is known to it. -/
structure FlagEvaluator where
  answer? : (name : String) → (key : Key) → Option (Answer Evaluation)

/-- What flags are evaluated with. -/
structure Backend where
  storage : Storage
  attributes : Attributes := []
  evaluator? : Option FlagEvaluator := none

variable [PatternLanguage]

namespace Storage

/-- Evaluate the flag with a name, given the surroundings for the flags that can be entered. -/
def evaluateFlag (storage : Storage) (attributes : Attributes) (stack : Stack)
    (inside : (name : String) → name ∈ storage.flagNames → name ∉ stack.flags → Surroundings)
    (name : String) (key : Key) : Lookup Call Evaluation :=
  let answer := storage.flag name
  (Lookup.ask (.flag name) answer).andThen <|
    match found : answer.value with
    | .error _ => .ready (.ofControl Label.exception)
    | .ok none => .ready (.ofControl Label.notFound)
    | .ok (some flag) =>
        match CompiledFlag.ofFlag flag with
        | .error _ => .ready flag.failedEvaluation
        | .ok compiled =>
            if entered : flag.name ∈ stack.flags then .ready flag.failedEvaluation
            else
              compiled.evaluateIn
                ⟨key, attributes, inside flag.name (storage.flag_mem found) entered⟩

/-- Whether the rule-based segment with a name has a key, given the surroundings for the segments
that can be entered. -/
def hasKey (storage : Storage) (attributes : Attributes) (stack : Stack)
    (inside : (name : String) → name ∈ storage.ruleBasedNames → name ∉ stack.segments →
      Surroundings)
    (name : String) (key : Key) : Lookup Call (Except EvaluationError Bool) :=
  if entered : name ∈ stack.segments then .ready (.error (.ruleBasedSegmentCycle name))
  else
    let answer := storage.ruleBased name
    (Lookup.ask (.ruleBased name) answer).andThen <|
      match found : answer.value with
      | .error error => .ready (.error (.storage error))
      | .ok none => .ready (.ok false)
      | .ok (some segment) =>
          segment.hasKey ⟨key, attributes, inside name (storage.ruleBased_mem found) entered⟩

/-- The answer of a storage about membership. -/
def asked (call : Call) (answer : Answer (Except StorageError Bool)) :
    Lookup Call (Except EvaluationError Bool) :=
  Lookup.ask call (answer.map (Except.mapError .storage))

end Storage

namespace Backend

/-- What a flag that another depends on evaluates to, given the evaluation from the storage. -/
def dependency (evaluator? : Option FlagEvaluator)
    (fromStorage : (name : String) → (key : Key) → Lookup Call Evaluation)
    (name : String) (key : Key) : Lookup Call Evaluation :=
  match evaluator? with
  | none => fromStorage name key
  | some evaluator =>
      let call := Call.evaluator name key
      match evaluator.answer? name key with
      | some answer => Lookup.ask call answer
      | none =>
          (Lookup.ask call (.ready ())).andThen <|
            (fromStorage name key).bind fun evaluation =>
              Lookup.ask (.handedBack name evaluation) (.ready evaluation)

/-- The surroundings of a context inside the given evaluations. -/
def surroundings (backend : Backend) (stack : Stack) : Surroundings :=
  { inSegment := fun name key =>
      Storage.asked (.segment name key) (backend.storage.segment name key)
    inLargeSegment := fun name key =>
      Storage.asked (.largeSegment name key) (backend.storage.largeSegment name key)
    inRuleBased :=
      backend.storage.hasKey backend.attributes stack
        fun name _known _fresh => backend.surroundings (stack.enterSegment name)
    evaluation :=
      dependency backend.evaluator? <|
        backend.storage.evaluateFlag backend.attributes stack
          fun name _known _fresh => backend.surroundings (stack.enterFlag name) }
termination_by backend.storage.depth stack
decreasing_by
  · exact backend.storage.depth_enterSegment_lt _known _fresh
  · exact backend.storage.depth_enterFlag_lt _known _fresh

/-- The context of a key inside the given evaluations. -/
def context (backend : Backend) (stack : Stack) (key : Key) : Context :=
  ⟨key, backend.attributes, backend.surroundings stack⟩

/-- Evaluate a compiled flag inside the given evaluations. -/
def evaluateCompiled (backend : Backend) (stack : Stack) (compiled : CompiledFlag) (key : Key) :
    Lookup Call Evaluation :=
  if compiled.flag.name ∈ stack.flags then .ready compiled.flag.failedEvaluation
  else compiled.evaluateIn (backend.context (stack.enterFlag compiled.flag.name) key)

/-- Evaluate the flag with a name inside the given evaluations. -/
def evaluate (backend : Backend) (stack : Stack) (name : String) (key : Key) :
    Lookup Call Evaluation :=
  backend.storage.evaluateFlag backend.attributes stack
    (fun name _ _ => backend.surroundings (stack.enterFlag name)) name key

end Backend

end Targeting
