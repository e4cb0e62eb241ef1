/-!
# Kinds of matchers

The kinds of matchers, with the names that definitions use and the codes that are kept with them.
-/

namespace Targeting

/-- What a matcher compares. -/
inductive MatcherKind where
  | allKeys
  | inSegment
  | whitelist
  | equalTo
  | greaterThanOrEqualTo
  | lessThanOrEqualTo
  | between
  | equalToSet
  | containsAnyOfSet
  | containsAllOfSet
  | partOfSet
  | endsWith
  | startsWith
  | containsString
  | inSplitTreatment
  | equalToBoolean
  | matchesString
  | equalToSemver
  | greaterThanOrEqualToSemver
  | lessThanOrEqualToSemver
  | betweenSemver
  | inListSemver
  | inLargeSegment
  | inRuleBasedSegment
deriving DecidableEq, Repr

namespace MatcherKind

/-- Every kind, in the order of the codes. -/
def all : List MatcherKind :=
  [allKeys, inSegment, whitelist, equalTo, greaterThanOrEqualTo, lessThanOrEqualTo, between,
    equalToSet, containsAnyOfSet, containsAllOfSet, partOfSet, endsWith, startsWith, containsString,
    inSplitTreatment, equalToBoolean, matchesString, equalToSemver, greaterThanOrEqualToSemver,
    lessThanOrEqualToSemver, betweenSemver, inListSemver, inLargeSegment, inRuleBasedSegment]

/-- The name that definitions use. -/
def name : MatcherKind → String
  | allKeys => "ALL_KEYS"
  | inSegment => "IN_SEGMENT"
  | whitelist => "WHITELIST"
  | equalTo => "EQUAL_TO"
  | greaterThanOrEqualTo => "GREATER_THAN_OR_EQUAL_TO"
  | lessThanOrEqualTo => "LESS_THAN_OR_EQUAL_TO"
  | between => "BETWEEN"
  | equalToSet => "EQUAL_TO_SET"
  | containsAnyOfSet => "CONTAINS_ANY_OF_SET"
  | containsAllOfSet => "CONTAINS_ALL_OF_SET"
  | partOfSet => "PART_OF_SET"
  | endsWith => "ENDS_WITH"
  | startsWith => "STARTS_WITH"
  | containsString => "CONTAINS_STRING"
  | inSplitTreatment => "IN_SPLIT_TREATMENT"
  | equalToBoolean => "EQUAL_TO_BOOLEAN"
  | matchesString => "MATCHES_STRING"
  | equalToSemver => "EQUAL_TO_SEMVER"
  | greaterThanOrEqualToSemver => "GREATER_THAN_OR_EQUAL_TO_SEMVER"
  | lessThanOrEqualToSemver => "LESS_THAN_OR_EQUAL_TO_SEMVER"
  | betweenSemver => "BETWEEN_SEMVER"
  | inListSemver => "IN_LIST_SEMVER"
  | inLargeSegment => "IN_LARGE_SEGMENT"
  | inRuleBasedSegment => "IN_RULE_BASED_SEGMENT"

/-- The code that is kept with definitions. -/
def code : MatcherKind → Nat
  | allKeys => 1
  | inSegment => 2
  | whitelist => 3
  | equalTo => 4
  | greaterThanOrEqualTo => 5
  | lessThanOrEqualTo => 6
  | between => 7
  | equalToSet => 8
  | containsAnyOfSet => 9
  | containsAllOfSet => 10
  | partOfSet => 11
  | endsWith => 12
  | startsWith => 13
  | containsString => 14
  | inSplitTreatment => 15
  | equalToBoolean => 16
  | matchesString => 17
  | equalToSemver => 18
  | greaterThanOrEqualToSemver => 19
  | lessThanOrEqualToSemver => 20
  | betweenSemver => 21
  | inListSemver => 22
  | inLargeSegment => 23
  | inRuleBasedSegment => 24

/-- The kind with a given name. -/
def ofName? (name : String) : Option MatcherKind := all.find? (·.name == name)

theorem mem_all (kind : MatcherKind) : kind ∈ all := by
  cases kind <;> decide

@[simp]
theorem ofName?_name (kind : MatcherKind) : ofName? kind.name = some kind := by
  cases kind <;> decide

theorem name_of_ofName? {name : String} {kind : MatcherKind} (found : ofName? name = some kind) :
    kind.name = name := by
  simpa using List.find?_some found

end MatcherKind

end Targeting
