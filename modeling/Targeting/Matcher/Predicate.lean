import Targeting.Matcher.Value
import Targeting.Pattern.Basic
import Targeting.Surroundings
import Targeting.Version.Order

/-!
# Predicates

What a matcher asks of a value, with everything prepared that does not depend on the value: sets,
patterns and versions. `Predicate.ofMatcher` prepares a matcher for a language of patterns; it
fails when a pattern or version is malformed. `Predicate.holds` asks the question. A value of the
wrong type never matches.
-/

namespace Targeting

/-- A prepared question about a value. -/
inductive Predicate where
  | allKeys
  | inSegment (name : String)
  | inLargeSegment (name : String)
  | inRuleBasedSegment (name : String)
  | whitelist (texts : TextSet)
  | equalTo (value : Double)
  | greaterThanOrEqualTo (value : Double)
  | lessThanOrEqualTo (value : Double)
  | between (start finish : Double)
  | equalToSet (texts : TextSet)
  | containsAnyOfSet (texts : TextSet)
  | containsAllOfSet (texts : TextSet)
  | partOfSet (texts : TextSet)
  | startsWith (texts : List String)
  | endsWith (texts : List String)
  | containsString (texts : List String)
  | inSplitTreatment (flag : String) (treatments : List String)
  | equalToBoolean (value : Bool)
  | matchesString (pattern : Pattern)
  | equalToSemver (version : Version)
  | greaterThanOrEqualToSemver (version : Version)
  | lessThanOrEqualToSemver (version : Version)
  | betweenSemver (start finish : Version)
  | inListSemver (canonical : TextSet)

/-- Reasons a matcher cannot be prepared. -/
inductive PredicateError where
  | invalidPattern (source : String)
  | invalidVersion (error : VersionError)
  | emptyVersionList
  | unexpectedOperand (kind : MatcherKind)
deriving DecidableEq, Repr

namespace PredicateError

/-- The text of an error. -/
def message : PredicateError → String
  | invalidPattern source => "invalid regular expression: " ++ source
  | invalidVersion error => error.message
  | emptyVersionList => "IN_LIST_SEMVER matcher requires at least one version"
  | unexpectedOperand kind => kind.name ++ " matcher received a value of the wrong shape"

end PredicateError

namespace Predicate

/-- A version, or the error that it is none. -/
def readVersion (text : String) : Except PredicateError Version :=
  (Version.parse text).mapError .invalidVersion

/-- Membership in a list of versions, which is decided by their canonical texts. -/
def ofVersionList : List String → Except PredicateError Predicate
  | [] => .error .emptyVersionList
  | texts =>
      (texts.mapM readVersion).map fun versions =>
        inListSemver (TextSet.ofList (versions.map Version.canonical))

/-- Prepare a matcher. -/
def ofMatcher [PatternLanguage] (matcher : Matcher) : Except PredicateError Predicate :=
  match matcher.kind, matcher.operand with
  | .allKeys, _ => .ok allKeys
  | .inSegment, .segment name => .ok (inSegment name)
  | .inLargeSegment, .segment name => .ok (inLargeSegment name)
  | .inRuleBasedSegment, .segment name => .ok (inRuleBasedSegment name)
  | .whitelist, .whitelist texts => .ok (whitelist (TextSet.ofList texts))
  | .equalTo, .number value => .ok (equalTo value)
  | .greaterThanOrEqualTo, .number value => .ok (greaterThanOrEqualTo value)
  | .lessThanOrEqualTo, .number value => .ok (lessThanOrEqualTo value)
  | .between, .range start finish => .ok (between start finish)
  | .equalToSet, .whitelist texts => .ok (equalToSet (TextSet.ofList texts))
  | .containsAnyOfSet, .whitelist texts => .ok (containsAnyOfSet (TextSet.ofList texts))
  | .containsAllOfSet, .whitelist texts => .ok (containsAllOfSet (TextSet.ofList texts))
  | .partOfSet, .whitelist texts => .ok (partOfSet (TextSet.ofList texts))
  | .startsWith, .whitelist texts => .ok (startsWith texts)
  | .endsWith, .whitelist texts => .ok (endsWith texts)
  | .containsString, .whitelist texts => .ok (containsString texts)
  | .inSplitTreatment, .dependency flag treatments => .ok (inSplitTreatment flag treatments)
  | .equalToBoolean, .boolean value => .ok (equalToBoolean value)
  | .matchesString, .text source =>
      match PatternLanguage.read? source with
      | some pattern => .ok (matchesString pattern)
      | none => .error (.invalidPattern source)
  | .equalToSemver, .text text => (readVersion text).map equalToSemver
  | .greaterThanOrEqualToSemver, .text text => (readVersion text).map greaterThanOrEqualToSemver
  | .lessThanOrEqualToSemver, .text text => (readVersion text).map lessThanOrEqualToSemver
  | .betweenSemver, .textRange start finish =>
      (readVersion start).bind fun first =>
        (readVersion finish).map fun last => betweenSemver first last
  | .inListSemver, .whitelist texts => ofVersionList texts
  | kind, _ => .error (.unexpectedOperand kind)

/-- Whether a text is a version for which a test holds. -/
def holdsForVersion (text : String) (test : Version → Bool) : Bool :=
  match Version.parse text with
  | .ok version => test version
  | .error _ => false

/-- Whether a text begins with another. -/
def beginsWith (text beginning : String) : Bool := beginning.toList.isPrefixOf text.toList

/-- Whether a text ends with another. -/
def finishesWith (text ending : String) : Bool := ending.toList.isSuffixOf text.toList

/-- Whether a list of characters occurs in another. -/
def occursIn (part : List Char) : List Char → Bool
  | [] => part.isEmpty
  | character :: rest => part.isPrefixOf (character :: rest) || occursIn part rest

/-- Whether a predicate that needs no surroundings holds for a value. -/
def holdsAlone : Predicate → MatchValue → Bool
  | allKeys, _ => true
  | whitelist texts, .string text => texts.contains text
  | equalTo bound, .number value => value.eq bound
  | greaterThanOrEqualTo bound, .number value => bound.le value
  | lessThanOrEqualTo bound, .number value => value.le bound
  | between start finish, .number value => start.le value && value.le finish
  | equalToSet texts, .set values => values.length == texts.size && values.all texts.contains
  | containsAnyOfSet texts, .set values => values.any texts.contains
  | containsAllOfSet texts, .set values =>
      decide (texts.size ≤ values.length) && texts.members.all values.contains
  | partOfSet texts, .set values => values.all texts.contains
  | startsWith texts, .string text => texts.any (beginsWith text)
  | endsWith texts, .string text => texts.any (finishesWith text)
  | containsString texts, .string text =>
      texts.any fun part => occursIn part.toList text.toList
  | matchesString pattern, .string text => pattern.isFoundIn text
  | equalToBoolean expected, .boolean value => value == expected
  | equalToSemver target, .string text => holdsForVersion text (·.equivalent target)
  | greaterThanOrEqualToSemver target, .string text => holdsForVersion text (·.ge target)
  | lessThanOrEqualToSemver target, .string text => holdsForVersion text (·.le target)
  | betweenSemver start finish, .string text =>
      holdsForVersion text fun version => start.le version && version.le finish
  | inListSemver canonical, .string text =>
      holdsForVersion text (canonical.contains ·.canonical)
  | _, _ => false

/-- Whether an evaluation has one of several treatments. One without a treatment has none of
them. -/
def hasTreatment (treatments : List String) (evaluation : Evaluation) : Bool :=
  treatments.any (some · == evaluation.treatment?)

/-- Whether a predicate holds for a value. -/
def holds (predicate : Predicate) (value : MatchValue) (surroundings : Surroundings) :
    Lookup Call (Except EvaluationError Bool) :=
  match predicate, value with
  | inSegment name, .string key => surroundings.inSegment name key
  | inLargeSegment name, .string key => surroundings.inLargeSegment name key
  | inRuleBasedSegment name, .key key => surroundings.inRuleBased name key
  | inSplitTreatment flag treatments, .key key =>
      (surroundings.evaluation flag key).map fun evaluation =>
        .ok (hasTreatment treatments evaluation)
  | predicate, value => .ready (.ok (predicate.holdsAlone value))

end Predicate

end Targeting
