import Targeting.Pattern.Standard
import Targeting.Proofs.Comparison
import Targeting.Proofs.Decision
import Targeting.Proofs.Precedence

/-!
# Matchers for versions

Five kinds of matchers compare versions. All of them read the text that they are given, ask one
question of the version, and match nothing that is no version.

Four of them use the order of versions. The one for lists looks up a canonical text in a set of
canonical texts, which is quicker than to compare with one entry after another. It comes to the same
because two versions share a canonical text exactly if they are equal in the order and have the same
build metadata. So the two ways differ in build metadata only, which the order leaves out.
-/

namespace Targeting

/-! ## Matchers for versions -/

/-- The kinds of matchers that compare versions. -/
def MatcherKind.comparesVersions : MatcherKind → Bool
  | equalToSemver | greaterThanOrEqualToSemver | lessThanOrEqualToSemver | betweenSemver
  | inListSemver => true
  | _ => false

namespace Predicate

/-- What a predicate for versions asks of a version. -/
def versionTest? : Predicate → Option (Version → Bool)
  | equalToSemver target => some (·.equivalent target)
  | greaterThanOrEqualToSemver target => some (·.ge target)
  | lessThanOrEqualToSemver target => some (·.le target)
  | betweenSemver start finish => some fun version => start.le version && version.le finish
  | inListSemver canonical => some (canonical.contains ·.canonical)
  | _ => none

variable {predicate : Predicate} {test : Version → Bool}

theorem query?_of_versionTest? (tests : predicate.versionTest? = some test) :
    predicate.query? = none := by
  cases predicate with
  | inSegment | inLargeSegment | inRuleBasedSegment | inSplitTreatment => cases tests
  | _ => rfl

theorem holdsAlone_of_versionTest? (tests : predicate.versionTest? = some test) (text : String) :
    predicate.holdsAlone (.string text) = holdsForVersion text test := by
  cases predicate <;> cases tests <;> rfl

theorem exists_versionTest? [PatternLanguage] {matcher : Matcher}
    (prepares : ofMatcher matcher = .ok predicate)
    (versions : matcher.kind.comparesVersions = true) :
    ∃ test, predicate.versionTest? = some test := by
  rw [← kind_of_ofMatcher prepares] at versions
  cases predicate with
  | equalToSemver | greaterThanOrEqualToSemver | lessThanOrEqualToSemver | betweenSemver
  | inListSemver => exact ⟨_, rfl⟩
  | _ => cases versions

end Predicate

namespace CompiledMatcher

variable [PatternLanguage] {definition : MatcherDefinition} {kind : MatcherKind}
  {compiled : CompiledMatcher}

theorem kind_of_ofDefinition (known : definition.kindName = kind.name)
    (compiles : ofDefinition definition = .ok compiled) : compiled.matcher.kind = kind := by
  have normalizes := (ofDefinition_eq_ok_iff.mp compiles).1
  have found := (Matcher.ofDefinition_eq_ok_iff.mp normalizes).1
  rw [known, MatcherKind.ofName?_name, Option.some.injEq] at found
  exact found.symm

theorem valueType_of_comparesVersions (compiles : ofDefinition definition = .ok compiled)
    (versions : compiled.matcher.kind.comparesVersions = true) :
    compiled.matcher.valueType = .string := by
  have normalizes := (ofDefinition_eq_ok_iff.mp compiles).1
  have found := (Matcher.ofDefinition_eq_ok_iff.mp normalizes).2.1
  generalize compiled.matcher.kind = kind at versions found
  cases kind
  case equalToSemver | greaterThanOrEqualToSemver | lessThanOrEqualToSemver | betweenSemver
      | inListSemver =>
    rcases Outcome.map_eq_ok_iff.mp found with ⟨payload, _, same⟩
    exact (congrArg Prod.snd same).symm
  all_goals cases versions

/-- A matcher for versions tests the version that it reads, and matches nothing else before
negation. -/
theorem isMatch_of_comparesVersions (known : definition.kindName = kind.name)
    (versions : kind.comparesVersions = true) (compiles : ofDefinition definition = .ok compiled) :
    ∃ test, compiled.predicate.versionTest? = some test ∧
      ∀ context, compiled.isMatch context =
        .ready ((((definition.subject? context).bind Attribute.toText?).any fun text =>
          Predicate.holdsForVersion text test) != definition.negate) := by
  have ⟨normalizes, prepares⟩ := ofDefinition_eq_ok_iff.mp compiles
  have ⟨_, _, selects, negated⟩ := Matcher.ofDefinition_eq_ok_iff.mp normalizes
  rw [← kind_of_ofDefinition known compiles] at versions
  have typed := valueType_of_comparesVersions compiles versions
  rcases Predicate.exists_versionTest? prepares versions with ⟨test, tests⟩
  have alone := Predicate.query?_of_versionTest? tests
  refine ⟨test, tests, ?_⟩
  intro context
  have settled := holds_eq_any Attribute.toText? (fun _ => rfl) typed (by simp) (by simp) selects
    alone context
  simp only [Predicate.holdsAlone_of_versionTest? tests] at settled
  rw [isMatch, settled, negated]
  rfl

end CompiledMatcher

/-! ## Lists of versions -/

namespace Version

theorem Canonical.canonical_eq_iff {left right : Version} (leftCanonical : left.Canonical)
    (rightCanonical : right.Canonical) :
    left.canonical = right.canonical ↔
      left.order right = .eq ∧ left.metadata = right.metadata := by
  rw [leftCanonical.canonical_inj rightCanonical,
    leftCanonical.order_eq_compareParts rightCanonical, compareParts_eq_eq_iff]
  constructor
  · rintro rfl
    exact ⟨rfl, rfl⟩
  · rintro ⟨sameRelease, sameMetadata⟩
    calc left = { left.release with metadata := left.metadata } := rfl
      _ = { right.release with metadata := right.metadata } := by rw [sameRelease, sameMetadata]
      _ = right := rfl

/-- The build metadata of the version that a text stands for, if there are any. -/
def metadataOf? (text : String) : Option (List Char) :=
  match parse text with
  | .ok version => version.metadata
  | .error _ => none

theorem canonical_eq_iff_of_parse {text entry : String} {version listed : Version}
    (read : parse text = .ok version) (entryRead : parse entry = .ok listed) :
    listed.canonical = version.canonical ↔
      version.order listed = .eq ∧ metadataOf? entry = metadataOf? text := by
  have metadata : metadataOf? text = version.metadata := by rw [metadataOf?, read]
  have entryMetadata : metadataOf? entry = listed.metadata := by rw [metadataOf?, entryRead]
  rw [metadata, entryMetadata, eq_comm, eq_comm (a := listed.metadata)]
  exact (canonical_of_parse read).canonical_eq_iff (canonical_of_parse entryRead)

end Version

namespace Predicate

/-- A predicate is true of a text in all surroundings. -/
def Accepts (predicate : Predicate) (text : String) : Prop :=
  ∀ surroundings, predicate.holds (.string text) surroundings = .ready (.ok true)

/-- A predicate is false of a text in all surroundings. -/
def Refuses (predicate : Predicate) (text : String) : Prop :=
  ∀ surroundings, predicate.holds (.string text) surroundings = .ready (.ok false)

variable {predicate : Predicate} {test : Version → Bool} {text entry : String} {texts : List String}

theorem holdsForVersion_iff :
    holdsForVersion text test = true ↔
      ∃ version, Version.parse text = .ok version ∧ test version = true := by
  unfold holdsForVersion
  rcases Version.parse text with error | version
  · simp
  · simp

theorem holds_of_versionTest? (tests : predicate.versionTest? = some test) (text : String)
    (surroundings : Surroundings) :
    predicate.holds (.string text) surroundings = .ready (.ok (holdsForVersion text test)) := by
  rw [holds_of_no_query (query?_of_versionTest? tests), holdsAlone_of_versionTest? tests]

theorem accepts_iff (tests : predicate.versionTest? = some test) :
    predicate.Accepts text ↔ ∃ version, Version.parse text = .ok version ∧ test version = true := by
  rw [← holdsForVersion_iff]
  constructor
  · intro accepts
    have answer := accepts .unavailable
    rw [holds_of_versionTest? tests] at answer
    injection answer with answer _
    injection answer with answer
    injection answer
  · intro holds surroundings
    rw [holds_of_versionTest? tests, holds]

theorem refuses_of_unread (tests : predicate.versionTest? = some test)
    (unread : ∀ version, Version.parse text ≠ .ok version) : predicate.Refuses text := by
  intro surroundings
  have fails : holdsForVersion text test = false := by
    rw [Bool.eq_false_iff, ne_eq, holdsForVersion_iff]
    rintro ⟨version, read, -⟩
    exact unread version read
  rw [holds_of_versionTest? tests, fails]

theorem ofVersionList_eq_ok_iff :
    ofVersionList texts = .ok predicate ↔
      texts ≠ [] ∧ ∃ versions, texts.mapM readVersion = .ok versions ∧
        inListSemver (TextSet.ofList (versions.map Version.canonical)) = predicate := by
  cases texts with
  | nil => simp [ofVersionList]
  | cons first rest =>
      simp only [ofVersionList, Outcome.map_eq_ok_iff]
      simp

theorem exists_ofVersionList_iff :
    (∃ predicate, ofVersionList texts = .ok predicate) ↔
      texts ≠ [] ∧ ∀ entry ∈ texts, ∃ version, Version.parse entry = .ok version := by
  rw [← Outcome.not_fails_iff, fails_ofVersionList_iff, not_or, not_exists]
  apply and_congr_right
  intro _
  apply forall_congr'
  intro entry
  rw [not_and, Outcome.not_fails_iff]

theorem accepts_ofVersionList_iff (prepares : ofVersionList texts = .ok predicate) :
    predicate.Accepts text ↔ ∃ version, Version.parse text = .ok version ∧
      ∃ entry ∈ texts, ∃ listed, Version.parse entry = .ok listed ∧
        listed.canonical = version.canonical := by
  rcases ofVersionList_eq_ok_iff.mp prepares with ⟨_, versions, read, rfl⟩
  rw [accepts_iff rfl]
  apply exists_congr
  intro version
  apply and_congr_right
  intro _
  simp only [TextSet.contains_ofList, List.contains_iff_mem, List.mem_map,
    Outcome.mem_iff_of_mapM_eq_ok read, readVersion, Outcome.mapError_eq_ok_iff]
  constructor
  · rintro ⟨listed, ⟨entry, member, entryRead⟩, same⟩
    exact ⟨entry, member, listed, entryRead, same⟩
  · rintro ⟨entry, member, listed, entryRead, same⟩
    exact ⟨listed, ⟨entry, member, entryRead⟩, same⟩

section

variable [PatternLanguage]

/-- The predicate for equality with one version. -/
def ofVersion (text : String) : Except PredicateError Predicate :=
  ofMatcher ⟨.equalToSemver, .text text, none, false, .string⟩

theorem accepts_ofVersion_iff :
    (∃ equal, ofVersion entry = .ok equal ∧ equal.Accepts text) ↔
      ∃ version, Version.parse text = .ok version ∧ ∃ listed, Version.parse entry = .ok listed ∧
        version.order listed = .eq := by
  have prepares : ∀ equal, ofVersion entry = .ok equal ↔
      ∃ listed, Version.parse entry = .ok listed ∧ equalToSemver listed = equal := by
    intro equal
    simp only [ofVersion, ofMatcher, Outcome.map_eq_ok_iff, readVersion, Outcome.mapError_eq_ok_iff]
  have equivalent : ∀ version listed : Version,
      version.equivalent listed = true ↔ version.order listed = .eq := by
    intro version listed
    rw [Version.equivalent, Ordering.isEq_iff_eq_eq]
  constructor
  · rintro ⟨equal, prepared, accepts⟩
    rcases (prepares equal).mp prepared with ⟨listed, entryRead, rfl⟩
    rcases (accepts_iff rfl).mp accepts with ⟨version, read, same⟩
    exact ⟨version, read, listed, entryRead, (equivalent version listed).mp same⟩
  · rintro ⟨version, read, listed, entryRead, same⟩
    refine ⟨_, (prepares _).mpr ⟨listed, entryRead, rfl⟩, (accepts_iff rfl).mpr ?_⟩
    exact ⟨version, read, (equivalent version listed).mpr same⟩

/-- Looking up canonical texts is comparing versions, as far as build metadata agree. -/
theorem accepts_ofVersionList_iff_ofVersion (prepares : ofVersionList texts = .ok predicate)
    (text : String) :
    predicate.Accepts text ↔ ∃ entry ∈ texts,
      (∃ equal, ofVersion entry = .ok equal ∧ equal.Accepts text) ∧
        Version.metadataOf? entry = Version.metadataOf? text := by
  rw [accepts_ofVersionList_iff prepares]
  simp only [accepts_ofVersion_iff]
  constructor
  · rintro ⟨version, read, entry, member, listed, entryRead, same⟩
    have ⟨equal, metadata⟩ := (Version.canonical_eq_iff_of_parse read entryRead).mp same
    exact ⟨entry, member, ⟨version, read, listed, entryRead, equal⟩, metadata⟩
  -- Equality leaves metadata open, so that they agree is needed for equal canonical texts.
  · rintro ⟨entry, member, ⟨version, read, listed, entryRead, equal⟩, metadata⟩
    have same := (Version.canonical_eq_iff_of_parse read entryRead).mpr ⟨equal, metadata⟩
    exact ⟨version, read, entry, member, listed, entryRead, same⟩

/-- Membership in a list of versions is equality with one of them, but for build metadata, which
membership takes into account and equality does not. A list is accepted if it has an entry and all
of its entries are versions; neither their order nor repetitions make a difference. What is no
version matches nothing. -/
theorem list_agrees_with_equality (texts : List String) :
    ((∃ predicate, ofVersionList texts = .ok predicate) ↔
      texts ≠ [] ∧ ∀ entry ∈ texts, ∃ version, Version.parse entry = .ok version) ∧
    (∀ predicate, ofVersionList texts = .ok predicate →
      (∀ text, predicate.Accepts text ↔ ∃ entry ∈ texts,
        (∃ equal, ofVersion entry = .ok equal ∧ equal.Accepts text) ∧
          Version.metadataOf? entry = Version.metadataOf? text) ∧
      (∀ text, Version.metadataOf? text = none →
        (∀ entry ∈ texts, Version.metadataOf? entry = none) →
        (predicate.Accepts text ↔
          ∃ entry ∈ texts, ∃ equal, ofVersion entry = .ok equal ∧ equal.Accepts text)) ∧
      ∀ others : List String, (∀ entry, entry ∈ others ↔ entry ∈ texts) →
        ∃ otherPredicate, ofVersionList others = .ok otherPredicate ∧
          ∀ text, otherPredicate.Accepts text ↔ predicate.Accepts text) ∧
    ∀ text, (∀ version, Version.parse text ≠ .ok version) →
      ∀ matcher predicate, matcher.kind.comparesVersions = true →
        ofMatcher matcher = .ok predicate → predicate.Refuses text := by
  refine ⟨exists_ofVersionList_iff, ?_, ?_⟩
  · intro predicate prepares
    have answers := accepts_ofVersionList_iff_ofVersion prepares
    refine ⟨answers, ?_, ?_⟩
    · intro text textWithout entriesWithout
      rw [answers, textWithout]
      constructor
      · rintro ⟨entry, member, equal, _⟩
        exact ⟨entry, member, equal⟩
      · rintro ⟨entry, member, equal⟩
        exact ⟨entry, member, equal, entriesWithout entry member⟩
    · intro others sameEntries
      have ⟨nonempty, read⟩ := exists_ofVersionList_iff.mp ⟨predicate, prepares⟩
      have otherPrepares : ∃ otherPredicate, ofVersionList others = .ok otherPredicate := by
        rw [exists_ofVersionList_iff]
        simp only [ne_eq, List.eq_nil_iff_forall_not_mem, sameEntries] at nonempty ⊢
        exact ⟨nonempty, read⟩
      rcases otherPrepares with ⟨otherPredicate, otherPrepares⟩
      refine ⟨otherPredicate, otherPrepares, ?_⟩
      intro text
      rw [answers, accepts_ofVersionList_iff_ofVersion otherPrepares]
      simp only [sameEntries]
  · intro text unread matcher predicate versions prepares
    rcases exists_versionTest? prepares versions with ⟨test, tests⟩
    exact refuses_of_unread tests unread

end

theorem list_agrees_with_equality_releases :
    ∃ predicate otherPredicate, ofVersionList ["1.2.3-rc.1", "2.0.0"] = .ok predicate ∧
      ofVersionList ["2.0.0", "1.2.3-rc.1", "2.0.0"] = .ok otherPredicate ∧
      predicate.Accepts "1.02.3-rc.01" ∧ otherPredicate.Accepts "1.02.3-rc.01" ∧
      (∀ version, Version.parse "latest" ≠ .ok version) ∧ predicate.Refuses "latest" := by
  have ⟨reads, answers, refuses⟩ := list_agrees_with_equality ["1.2.3-rc.1", "2.0.0"]
  have entries : ∀ entry ∈ ["1.2.3-rc.1", "2.0.0"],
      ∃ version, Version.parse entry = .ok version := by
    simp only [List.forall_mem_cons]
    exact ⟨⟨_, rfl⟩, ⟨_, rfl⟩, by simp⟩
  rcases reads.mpr ⟨by simp, entries⟩ with ⟨predicate, prepares⟩
  have ⟨_, compares, repeats⟩ := answers predicate prepares
  have accepts : predicate.Accepts "1.02.3-rc.01" := by
    have without : ∀ entry ∈ ["1.2.3-rc.1", "2.0.0"], Version.metadataOf? entry = none := by
      simp only [List.forall_mem_cons]
      exact ⟨rfl, rfl, by simp⟩
    apply (compares _ rfl without).mpr
    exact ⟨"1.2.3-rc.1", by simp, _, rfl, fun _ => rfl⟩
  have sameEntries : ∀ entry,
      entry ∈ ["2.0.0", "1.2.3-rc.1", "2.0.0"] ↔ entry ∈ ["1.2.3-rc.1", "2.0.0"] := by
    simp [or_comm]
  rcases repeats _ sameEntries with ⟨otherPredicate, otherPrepares, alike⟩
  have unread : ∀ version, Version.parse "latest" ≠ .ok version := by
    rintro version ⟨⟩
  exact ⟨predicate, otherPredicate, prepares, otherPrepares, accepts, (alike _).mpr accepts, unread,
    refuses _ unread ⟨.inListSemver, .whitelist ["1.2.3-rc.1", "2.0.0"], none, false, .string⟩ _ rfl
      prepares⟩

end Predicate

end Targeting
