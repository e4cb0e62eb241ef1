import Targeting.Proofs.Queries

/-!
# What matchers compare

A matcher looks at one attribute, or at the key if its definition names none, and brings it to its
type. Both steps are said here of the definition, so that what a matcher decides can be stated in
terms of what is supplied to it. A predicate that looks nothing up then decides at once, and so does
a missing value.
-/

namespace Targeting

/-- What a matcher looks at: the attribute that its definition names, or else the key as a text. -/
def MatcherDefinition.subject? (definition : MatcherDefinition) (context : Context) :
    Option Attribute :=
  match definition.attribute? with
  | none => some (.string context.key.matching)
  | some name => context.attributes.lookup name

namespace Matcher

/-- The normal form of a definition of a known kind. -/
def ofPayload (definition : MatcherDefinition) (kind : MatcherKind)
    (payload : Operand × ValueType) : Matcher where
  kind := kind
  operand := payload.1
  attribute? := definition.attribute?
  negate := definition.negate
  valueType := payload.2

theorem ofDefinition_eq_map {definition : MatcherDefinition} {kind : MatcherKind}
    (known : definition.kindName = kind.name) :
    ofDefinition definition = (payload definition kind).map (ofPayload definition kind) := by
  rw [ofDefinition, known, MatcherKind.ofName?_name]
  rfl

/-- Keys are handed on as they are and timestamps are truncated; any other value is what the matcher
looks at, brought to its type. -/
theorem value?_eq_bind_subject? {definition : MatcherDefinition} {matcher : Matcher}
    (selects : matcher.attribute? = definition.attribute?)
    (noKey : matcher.valueType ≠ .notSpecified) (noTime : matcher.valueType ≠ .datetime)
    (context : Context) :
    matcher.value? context.key context.attributes =
      (definition.subject? context).bind (MatchValue.ofAttribute? · matcher.valueType) := by
  have plain : MatchValue.truncateFor matcher = id := by
    funext value
    cases value <;> simp [MatchValue.truncateFor, noTime]
  simp only [value?, MatcherDefinition.subject?, selects, plain, Option.map_id, id]
  cases definition.attribute? with
  | some name => rfl
  | none =>
      rw [Option.bind_some]
      revert noKey
      cases matcher.valueType <;> simp [MatchValue.ofKey?]

end Matcher

theorem Predicate.holds_of_no_query {predicate : Predicate} (alone : predicate.query? = none)
    (value : MatchValue) (surroundings : Surroundings) :
    predicate.holds value surroundings = .ready (.ok (predicate.holdsAlone value)) := by
  cases predicate with
  | inSegment | inLargeSegment | inRuleBasedSegment | inSplitTreatment => cases alone
  | _ => rfl

namespace CompiledMatcher

variable {definition : MatcherDefinition} {compiled : CompiledMatcher}

theorem ofDefinition_of_payload [PatternLanguage] {kind : MatcherKind}
    {payload : Operand × ValueType} {predicate : Predicate}
    (known : definition.kindName = kind.name)
    (found : Matcher.payload definition kind = .ok payload)
    (prepares : Predicate.ofMatcher (.ofPayload definition kind payload) = .ok predicate) :
    ofDefinition definition = .ok ⟨.ofPayload definition kind payload, predicate⟩ := by
  apply ofDefinition_eq_ok_iff.mpr
  refine ⟨?_, prepares⟩
  rw [Matcher.ofDefinition_eq_map known, found]
  rfl

/-- A matcher that looks nothing up decides on what it looks at as soon as that has been read. -/
theorem holds_eq_any {α : Type} {wanted : ValueType} {wrap : α → MatchValue}
    (read : Attribute → Option α)
    (brings : ∀ value, MatchValue.ofAttribute? value wanted = (read value).map wrap)
    (typed : compiled.matcher.valueType = wanted) (noKey : wanted ≠ .notSpecified)
    (noTime : wanted ≠ .datetime) (selects : compiled.matcher.attribute? = definition.attribute?)
    (alone : compiled.predicate.query? = none) (context : Context) :
    compiled.holds context =
      .ready (((definition.subject? context).bind read).any fun value =>
        compiled.predicate.holdsAlone (wrap value)) := by
  subst typed
  unfold holds
  rw [Matcher.value?_eq_bind_subject? selects noKey noTime]
  rcases definition.subject? context with _ | subject
  · rfl
  · rw [Option.bind_some, Option.bind_some, brings]
    rcases read subject with _ | value
    · rfl
    · simp only [Option.map_some, Predicate.holds_of_no_query alone]
      rfl

end CompiledMatcher

end Targeting
