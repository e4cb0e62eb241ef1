import Targeting.Pattern.Standard
import Targeting.Proofs.Compilation
import Targeting.Proofs.Truncation

/-!
# Types of matchers and values

Four tables have to line up before a matcher can match: the payload and the type that belong to a
kind, the predicate that belongs to a kind and a payload, the values that an attribute can be
brought to, and the answers that a predicate has for a value. `MatcherKind.valueType` is the type
that all of them agree on. If one of them were off, some kind of matcher would never match, without
an error.

What a value carries follows from how it was read: no number that is not finite, no text and no set
without anything in it, and no set that has a text twice gets as far as a predicate.
-/

namespace Targeting

/-- The type that values have once they are compared: a timestamp is a number by then. -/
def ValueType.plain : ValueType → ValueType
  | datetime => number
  | valueType => valueType

/-- The type of the values that a kind of matcher compares. -/
def MatcherKind.valueType : MatcherKind → ValueType
  | equalTo | greaterThanOrEqualTo | lessThanOrEqualTo | between => .number
  | equalToSet | containsAnyOfSet | containsAllOfSet | partOfSet => .set
  | equalToBoolean => .boolean
  | inSplitTreatment | inRuleBasedSegment => .notSpecified
  | _ => .string

namespace Attribute

end Attribute

namespace MatchValue

/-- The type of a value. -/
def valueType : MatchValue → ValueType
  | number _ => .number
  | string _ => .string
  | set _ => .set
  | boolean _ => .boolean
  | key _ => .notSpecified

/-- A value that has something to compare: a finite number, a text or a set that is not empty, and
no text twice in a set. -/
def WellFormed : MatchValue → Prop
  | number value => value.isFinite
  | string text => text ≠ ""
  | set texts => texts ≠ [] ∧ texts.Nodup
  | boolean _ | key _ => True

/-- A well-formed value of the type that a matcher asks for. -/
structure Fits (value : MatchValue) (wanted : ValueType) : Prop where
  valueType : value.valueType = wanted.plain
  wellFormed : value.WellFormed

theorem Fits.truncateFor {value : MatchValue} {wanted : ValueType} (fits : value.Fits wanted)
    (matcher : Matcher) : (value.truncateFor matcher).Fits wanted := by
  cases value with
  | number millis =>
      simp only [MatchValue.truncateFor]
      split
      · exact ⟨fits.valueType, Matcher.isFinite_truncate matcher.kind fits.wellFormed⟩
      · exact fits
  | string | set | boolean | key => exact fits

end MatchValue

namespace Matcher

end Matcher

namespace Predicate

/-- The type of the values that a predicate has an answer for; none if the value does not matter. -/
def valueType? : Predicate → Option ValueType
  | allKeys => none
  | equalTo _ | greaterThanOrEqualTo _ | lessThanOrEqualTo _ | between _ _ => some .number
  | equalToSet _ | containsAnyOfSet _ | containsAllOfSet _ | partOfSet _ => some .set
  | equalToBoolean _ => some .boolean
  | inSplitTreatment _ _ | inRuleBasedSegment _ => some .notSpecified
  | _ => some .string

/-- A predicate has an answer of its own for a value: by `holds_of_not_takes` and
`holds_of_no_valueType`, these are the values that it compares, or any value if it holds for all. -/
def Takes (predicate : Predicate) (value : MatchValue) : Prop :=
  ∀ wanted ∈ predicate.valueType?, value.valueType = wanted

/-- A value that a predicate has no answer for never matches. -/
theorem holds_of_not_takes {predicate : Predicate} {value : MatchValue}
    (mismatch : ¬predicate.Takes value) (surroundings : Surroundings) :
    predicate.holds value surroundings = .ready (.ok false) := by
  cases predicate <;> cases value <;>
    first | rfl | simp [Takes, valueType?, MatchValue.valueType] at mismatch

/-- A predicate for which the value does not matter always holds. -/
theorem holds_of_no_valueType {predicate : Predicate} (anyType : predicate.valueType? = none)
    (value : MatchValue) (surroundings : Surroundings) :
    predicate.holds value surroundings = .ready (.ok true) := by
  cases predicate with
  | allKeys => rfl
  | _ => cases anyType

variable [PatternLanguage]

end Predicate

namespace Matcher

end Matcher

end Targeting
