import Mathlib.Data.List.Forall2
import Targeting.Proofs.Decision
import Targeting.Proofs.VersionMatchers

/-!
# Canonical texts in place of versions

The canonical text of a version reads as that version, although its parts are put together again
with the characters that they were taken apart at: identifiers may hold hyphens, and metadata may
hold anything. So the canonical text can stand for the version anywhere. A matcher for versions
decides the same if a version in its definition, or the value that it compares, is written in its
canonical form.
-/

namespace Targeting

namespace Version

/-- A text, or the canonical text of the version that it stands for. -/
inductive Respelled (text : String) : String → Prop where
  | kept : Respelled text text
  | canonical {version : Version} (read : parse text = .ok version) :
      Respelled text version.canonical

theorem Respelled.parse_eq {text other : String} (respelled : Respelled text other) :
    parse other = parse text := by
  cases respelled with
  | kept => rfl
  | canonical read => rw [(canonical_of_parse read).reads, read]

end Version

structure TextRangePayload.Respelled (range other : TextRangePayload) : Prop where
  start : Version.Respelled range.start other.start
  finish : Version.Respelled range.finish other.finish

/-- Two definitions of one matcher that may spell its versions differently. -/
structure MatcherDefinition.Respelled (definition other : MatcherDefinition) : Prop where
  text : Option.Rel Version.Respelled definition.text other.text
  textRange : Option.Rel TextRangePayload.Respelled definition.textRange other.textRange
  whitelist : Option.Rel (List.Forall₂ Version.Respelled) definition.whitelist other.whitelist
  rest : other = { definition with
    text := other.text, textRange := other.textRange, whitelist := other.whitelist }

theorem MatcherDefinition.Respelled.kindName_eq {definition other : MatcherDefinition}
    (respelled : definition.Respelled other) : other.kindName = definition.kindName := by
  rw [respelled.rest]

namespace Predicate

theorem readVersion_eq_of_respelled {text other : String}
    (respelled : Version.Respelled text other) : readVersion other = readVersion text := by
  rw [readVersion, readVersion, respelled.parse_eq]

theorem ofVersionList_eq_of_respelled {texts others : List String}
    (respelled : List.Forall₂ Version.Respelled texts others) :
    ofVersionList others = ofVersionList texts := by
  have same : others.mapM readVersion = texts.mapM readVersion := by
    induction respelled with
    | nil => rfl
    | cons first later ih =>
        rw [Outcome.mapM_cons_eq, Outcome.mapM_cons_eq, readVersion_eq_of_respelled first, ih]
  cases respelled with
  | nil => rfl
  | cons first later => simp only [ofVersionList, same]

theorem holdsForVersion_eq_of_respelled {text other : String}
    (respelled : Version.Respelled text other) (test : Version → Bool) :
    holdsForVersion other test = holdsForVersion text test := by
  rw [holdsForVersion, holdsForVersion, respelled.parse_eq]

end Predicate

/-- A payload that is present in both of two definitions, or missing in both. -/
theorem Matcher.bind_need_congr {α β : Type} {kind : MatcherKind} {field : String}
    {part otherPart : Option α} {wrap : α → Operand × ValueType}
    {next otherNext : Operand × ValueType → Except CompileError β} {relation : α → α → Prop}
    (related : Option.Rel relation part otherPart)
    (agree : ∀ {payload other}, relation payload other →
      otherNext (wrap other) = next (wrap payload)) :
    (((need kind field otherPart).map wrap).mapError .unsupportedMatcher).bind otherNext =
      (((need kind field part).map wrap).mapError .unsupportedMatcher).bind next := by
  cases related with
  | none => rfl
  | some same => exact agree same

namespace CompiledMatcher

variable [PatternLanguage] {definition other : MatcherDefinition} {kind : MatcherKind}

theorem map_predicate_ofDefinition (known : definition.kindName = kind.name) :
    (ofDefinition definition).map predicate =
      ((Matcher.payload definition kind).mapError .unsupportedMatcher).bind fun payload =>
        (Predicate.ofMatcher (.ofPayload definition kind payload)).mapError .invalidMatcher := by
  rw [ofDefinition, Matcher.ofDefinition_eq_map known]
  rcases Matcher.payload definition kind with error | payload
  · rfl
  · simp only [Except.map, Except.mapError, Except.bind]
    cases Predicate.ofMatcher (.ofPayload definition kind payload) <;> rfl

/-- Respelled versions compile to the same predicate, and any other text to the same error. -/
theorem map_predicate_of_respelled (known : definition.kindName = kind.name)
    (versions : kind.comparesVersions = true) (respelled : definition.Respelled other) :
    (ofDefinition other).map predicate = (ofDefinition definition).map predicate := by
  have otherKnown := respelled.kindName_eq.trans known
  rw [map_predicate_ofDefinition otherKnown, map_predicate_ofDefinition known]
  -- Versions come alone, in pairs or in lists, each from a payload of its own.
  cases kind
  case equalToSemver | greaterThanOrEqualToSemver | lessThanOrEqualToSemver =>
    apply Matcher.bind_need_congr respelled.text
    intro text otherText same
    simp only [Matcher.ofPayload, Predicate.ofMatcher, Predicate.readVersion_eq_of_respelled same]
  case betweenSemver =>
    apply Matcher.bind_need_congr respelled.textRange
    intro range otherRange same
    simp only [Matcher.ofPayload, Predicate.ofMatcher,
      Predicate.readVersion_eq_of_respelled same.start,
      Predicate.readVersion_eq_of_respelled same.finish]
  case inListSemver =>
    apply Matcher.bind_need_congr respelled.whitelist
    intro texts others same
    simp only [Matcher.ofPayload, Predicate.ofMatcher, Predicate.ofVersionList_eq_of_respelled same]
  all_goals cases versions

/-- A respelled matcher decides the same about a respelled value. -/
theorem map_isMatch_of_respelled (known : definition.kindName = kind.name)
    (versions : kind.comparesVersions = true) (respelled : definition.Respelled other)
    {context otherContext : Context}
    (values : Option.Rel Version.Respelled
      ((definition.subject? context).bind Attribute.toText?)
      ((other.subject? otherContext).bind Attribute.toText?)) :
    (ofDefinition other).map (·.isMatch otherContext) =
      (ofDefinition definition).map (·.isMatch context) := by
  have predicates := map_predicate_of_respelled known versions respelled
  have otherKnown := respelled.kindName_eq.trans known
  have negated : other.negate = definition.negate := by rw [respelled.rest]
  rcases compiles : ofDefinition definition with error | compiled
  · rw [compiles] at predicates
    have fails := Outcome.map_eq_error_iff.mp predicates
    rw [fails]
    rfl
  · rw [compiles] at predicates
    rcases Outcome.map_eq_ok_iff.mp predicates with ⟨otherCompiled, otherCompiles, samePredicate⟩
    rcases isMatch_of_comparesVersions known versions compiles with ⟨test, tests, decides⟩
    rcases isMatch_of_comparesVersions otherKnown versions otherCompiles with
      ⟨otherTest, otherTests, otherDecides⟩
    rw [samePredicate, tests, Option.some.injEq] at otherTests
    subst otherTests
    simp only [otherCompiles, Except.map, decides, otherDecides, negated]
    generalize (definition.subject? context).bind Attribute.toText? = value at values
    generalize (other.subject? otherContext).bind Attribute.toText? = otherValue at values
    cases values with
    | none => rfl
    | some same =>
        rw [Option.any_some, Option.any_some, Predicate.holdsForVersion_eq_of_respelled same]

end CompiledMatcher

namespace Version

/-- The canonical text of a version stands for the version. It reads back as the version with all of
its parts, no two versions share it, and no matcher for versions decides otherwise if it replaces a
version in the definition or the value that is compared. -/
theorem canonical_stands_for_version [PatternLanguage] :
    (∀ text version, parse text = .ok version → parse version.canonical = .ok version) ∧
      (∀ text otherText version other, parse text = .ok version → parse otherText = .ok other →
        version.canonical = other.canonical → version = other) ∧
      ∀ (definition other : MatcherDefinition) (kind : MatcherKind),
        definition.kindName = kind.name → kind.comparesVersions = true →
        definition.Respelled other → ∀ context otherContext : Context,
          Option.Rel Respelled ((definition.subject? context).bind Attribute.toText?)
            ((other.subject? otherContext).bind Attribute.toText?) →
          (CompiledMatcher.ofDefinition other).map (·.isMatch otherContext) =
            (CompiledMatcher.ofDefinition definition).map (·.isMatch context) := by
  refine ⟨?_, ?_, ?_⟩
  · intro text version read
    exact (canonical_of_parse read).reads
  · intro text otherText version other read otherRead same
    exact ((canonical_of_parse read).canonical_inj (canonical_of_parse otherRead)).mp same
  · intro definition other kind known versions respelled context otherContext values
    exact CompiledMatcher.map_isMatch_of_respelled known versions respelled values

/-- A matcher for two builds. -/
def twoBuilds (first : String) : MatcherDefinition where
  kindName := "IN_LIST_SEMVER"
  keySelector := some ⟨none, some "build"⟩
  whitelist := some [first, "2.0.0"]

/-- A key with a build. -/
def withBuild (build : String) : Context :=
  ⟨.ofMatching "alice", [("build", .string build)], .unavailable⟩

theorem canonical_stands_for_version_twoBuilds :
    ∃ version, parse "01.0.0-x-y.007+a.b-c+d" = .ok version ∧
      version.canonical = "1.0.0-x-y.7+a.b-c+d" ∧ parse "1.0.0-x-y.7+a.b-c+d" = .ok version ∧
      (∃ other, parse "1.00.0-x-y.7+a.b-c+d" = .ok other ∧
        version.canonical = other.canonical ∧ version = other) ∧
      (twoBuilds "01.0.0-x-y.007+a.b-c+d").Respelled (twoBuilds "1.0.0-x-y.7+a.b-c+d") ∧
      (CompiledMatcher.ofDefinition (twoBuilds "1.0.0-x-y.7+a.b-c+d")).map
          (·.isMatch (withBuild "1.0.0-x-y.7+a.b-c+d")) =
        (CompiledMatcher.ofDefinition (twoBuilds "01.0.0-x-y.007+a.b-c+d")).map
          (·.isMatch (withBuild "01.0.0-x-y.007+a.b-c+d")) ∧
      (CompiledMatcher.ofDefinition (twoBuilds "01.0.0-x-y.007+a.b-c+d")).map
          (·.isMatch (withBuild "01.0.0-x-y.007+a.b-c+d")) = .ok (.ready true) := by
  have ⟨reads, determines, decides⟩ := canonical_stands_for_version
  rcases read : parse "01.0.0-x-y.007+a.b-c+d" with error | version
  · cases read
  · have canonical : version.canonical = "1.0.0-x-y.7+a.b-c+d" := by
      cases read
      rfl
    have respelled : Respelled "01.0.0-x-y.007+a.b-c+d" "1.0.0-x-y.7+a.b-c+d" := by
      rw [← canonical]
      exact .canonical read
    have definitions :
        (twoBuilds "01.0.0-x-y.007+a.b-c+d").Respelled (twoBuilds "1.0.0-x-y.7+a.b-c+d") :=
      ⟨.none, .none, .some (.cons respelled (.cons .kept .nil)), rfl⟩
    refine ⟨version, rfl, canonical, ?_, ?_, definitions, ?_, rfl⟩
    · rw [← canonical]
      exact reads _ version read
    · exact ⟨_, rfl, canonical, determines _ "1.00.0-x-y.7+a.b-c+d" _ _ read rfl canonical⟩
    · exact decides _ _ .inListSemver rfl rfl definitions _ _ (.some respelled)

end Version

end Targeting
