import Targeting.Condition.Compiled
import Targeting.Segment.Basic

/-!
# Membership in a rule-based segment

Whether the key of a context belongs to a rule-based segment. An excluded key does not belong to it,
and neither does any key if a matcher of the segment is malformed. The excluded segments are asked
in order, up to the first that has the key or cannot answer; a segment that cannot answer leaves the
membership open, with its error. At last, a key belongs to the segment if the matchers of one of the
conditions all match. Partitions play no part.
-/

namespace Targeting

namespace ExcludedSegment

/-- Whether an excluded segment has the key of a context. -/
def hasKey (segment : ExcludedSegment) (context : Context) :
    Lookup Call (Except EvaluationError Bool) :=
  match segment.kind with
  | .standard => context.surroundings.inSegment segment.name context.key.matching
  | .large => context.surroundings.inLargeSegment segment.name context.key.matching
  | .ruleBased => context.surroundings.inRuleBased segment.name context.key

/-- Whether one of several segments has the key, asked in order up to the first that has it or
cannot answer. -/
def anyHasKey (context : Context) : List ExcludedSegment →
    Lookup Call (Except EvaluationError Bool)
  | [] => .ready (.ok false)
  | segment :: rest =>
      (segment.hasKey context).bind fun answer =>
        match answer with
        | .ok false => anyHasKey context rest
        | answer => .ready answer

end ExcludedSegment

namespace CompiledGroup

/-- Whether one of several groups matches; groups after the first that is known to match are not
evaluated. -/
def anyIsMatch (context : Context) (groups : List CompiledGroup) : Lookup Call Bool :=
  (Lookup.firstDecision
    (fun group : CompiledGroup =>
      (group.isMatch context).map fun matched => if matched then some () else none)
    groups).map Option.isSome

end CompiledGroup

namespace RuleBasedSegment

variable [PatternLanguage]

/-- The matchers of the conditions. -/
def compiledGroups (segment : RuleBasedSegment) : Except CompileError (List CompiledGroup) :=
  segment.conditions.mapM fun condition => CompiledGroup.ofDefinitions condition.matchers

/-- Whether the key of a context belongs to a segment. -/
def hasKey (segment : RuleBasedSegment) (context : Context) :
    Lookup Call (Except EvaluationError Bool) :=
  if segment.excludesKey context.key.matching then .ready (.ok false)
  else
    match segment.compiledGroups with
    | .error _ => .ready (.ok false)
    | .ok groups =>
        (ExcludedSegment.anyHasKey context segment.excluded.segments).bind fun excluded =>
          match excluded with
          | .ok false => (CompiledGroup.anyIsMatch context groups).map .ok
          | .ok true => .ready (.ok false)
          | .error error => .ready (.error error)

end RuleBasedSegment

end Targeting
