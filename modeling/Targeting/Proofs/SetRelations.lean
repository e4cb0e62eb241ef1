import Mathlib.Data.List.Perm.Subperm
import Mathlib.Data.Set.Basic
import Targeting.Proofs.Comparison
import Targeting.Proofs.Decision

/-!
# Set matchers

The matchers for sets compare two lists: the texts of the items of an attribute, and the texts that
the definition lists. They count and look up members, which is a comparison of sets as long as no
member is listed twice. Definitions may list a text twice, and items of an attribute that differ may
have the same text, so duplicates are dropped from both, after the items have been turned into
texts. What remains is equality, inclusion either way, or a common member, of the set of texts in
the definition and the set of texts of the items. An empty array has no set to compare.
-/

namespace Targeting

namespace Predicate

variable {texts values : List String}

theorem holdsAlone_equalToSet_iff (distinct : values.Nodup) :
    (equalToSet (TextSet.ofList texts)).holdsAlone (.set values) = true ↔
      {text | text ∈ values} = {text | text ∈ texts} := by
  have listed : Text.distinct texts ⊆ values ↔ texts ⊆ values := by
    simp [List.subset_def]
  have given : values ⊆ Text.distinct texts ↔ values ⊆ texts := by
    simp [List.subset_def]
  have same : {text | text ∈ values} = {text | text ∈ texts} ↔
      values ⊆ Text.distinct texts ∧ Text.distinct texts ⊆ values := by
    rw [given, listed, Set.Subset.antisymm_iff]
    rfl
  have found : values.all (TextSet.ofList texts).contains = true ↔
      values ⊆ Text.distinct texts := by
    simp [List.subset_def]
  rw [holdsAlone, Bool.and_eq_true, beq_iff_eq, TextSet.size, TextSet.members_ofList, found, same,
    and_comm]
  apply and_congr_right
  intro included
  -- Two lists without duplicates, one included in the other, are equally long if and only if they
  -- have the same members.
  have fits := List.subperm_of_subset distinct included
  constructor
  · intro sameLength
    exact (fits.perm_of_length_le sameLength.ge).symm.subset
  · intro includes
    have longer := (List.subperm_of_subset (Text.nodup_distinct texts) includes).length_le
    exact Nat.le_antisymm fits.length_le longer

theorem holdsAlone_containsAllOfSet_iff :
    (containsAllOfSet (TextSet.ofList texts)).holdsAlone (.set values) = true ↔
      {text | text ∈ texts} ⊆ {text | text ∈ values} := by
  have listed : {text | text ∈ texts} ⊆ {text | text ∈ values} ↔
      Text.distinct texts ⊆ values := by
    simp [List.subset_def]
  have found : (TextSet.ofList texts).members.all values.contains = true ↔
      Text.distinct texts ⊆ values := by
    simp [List.subset_def]
  rw [holdsAlone, Bool.and_eq_true, decide_eq_true_eq, found, listed]
  constructor
  · rintro ⟨_, includes⟩
    exact includes
  · intro includes
    exact ⟨(List.subperm_of_subset (Text.nodup_distinct texts) includes).length_le, includes⟩

theorem holdsAlone_containsAnyOfSet_iff :
    (containsAnyOfSet (TextSet.ofList texts)).holdsAlone (.set values) = true ↔
      ({text | text ∈ texts} ∩ {text | text ∈ values}).Nonempty := by
  simp [holdsAlone, Set.Nonempty, and_comm]

theorem holdsAlone_partOfSet_iff :
    (partOfSet (TextSet.ofList texts)).holdsAlone (.set values) = true ↔
      {text | text ∈ values} ⊆ {text | text ∈ texts} := by
  simp [holdsAlone]

end Predicate

/-- What the kinds of set matchers ask of the set in the definition and the set that is given. -/
inductive MatcherKind.RelatesSets : MatcherKind → (Set String → Set String → Prop) → Prop where
  | equalTo : RelatesSets .equalToSet fun listed given => given = listed
  | containsAllOf : RelatesSets .containsAllOfSet fun listed given => listed ⊆ given
  | containsAnyOf : RelatesSets .containsAnyOfSet fun listed given => (listed ∩ given).Nonempty
  | partOf : RelatesSets .partOfSet fun listed given => given ⊆ listed

namespace Attribute

/-- The texts of the items of an array. -/
def texts (items : List Attribute) : Set String := {text | ∃ item ∈ items, item.text = text}

theorem toSet?_eq_some_iff {value : Attribute} {values : List String} :
    value.toSet? = some values ↔
      ∃ items, value = .array items ∧ items ≠ [] ∧ Text.distinct (items.map text) = values := by
  unfold toSet?
  split
  · simp
  · next notFull =>
      simp only [reduceCtorEq, false_iff]
      rintro ⟨items, rfl, nonempty, -⟩
      cases items with
      | nil => exact nonempty rfl
      | cons item rest => exact notFull item rest rfl

theorem setOf_mem_distinct (items : List Attribute) :
    {value | value ∈ Text.distinct (items.map text)} = texts items := by
  simp [texts]

end Attribute

namespace CompiledMatcher

section

variable [PatternLanguage] {definition : MatcherDefinition} {kind : MatcherKind}
  {listed : List String} {relation : Set String → Set String → Prop}

theorem exists_predicate_of_relatesSets (known : definition.kindName = kind.name)
    (relates : kind.RelatesSets relation) (lists : definition.whitelist = some listed) :
    ∃ predicate,
      ofDefinition definition =
        .ok ⟨.ofPayload definition kind (.whitelist listed, .set), predicate⟩ ∧
      predicate.query? = none ∧
      ∀ values : List String, values.Nodup →
        (predicate.holdsAlone (.set values) = true ↔
          relation {text | text ∈ listed} {text | text ∈ values}) := by
  have found : Matcher.payload definition kind = .ok (.whitelist listed, .set) := by
    cases relates
    all_goals
      simp only [Matcher.payload, lists]
      rfl
  cases relates with
  | equalTo =>
      refine ⟨_, ofDefinition_of_payload known found rfl, rfl, ?_⟩
      intro values distinct
      exact Predicate.holdsAlone_equalToSet_iff distinct
  | containsAllOf =>
      refine ⟨_, ofDefinition_of_payload known found rfl, rfl, ?_⟩
      intro values _
      exact Predicate.holdsAlone_containsAllOfSet_iff
  | containsAnyOf =>
      refine ⟨_, ofDefinition_of_payload known found rfl, rfl, ?_⟩
      intro values _
      exact Predicate.holdsAlone_containsAnyOfSet_iff
  | partOf =>
      refine ⟨_, ofDefinition_of_payload known found rfl, rfl, ?_⟩
      intro values _
      exact Predicate.holdsAlone_partOfSet_iff

/-- A set matcher holds if it is given an array that is not empty, and the texts of its items are
related to the listed texts as sets. -/
theorem exists_holds_iff (known : definition.kindName = kind.name)
    (relates : kind.RelatesSets relation) (lists : definition.whitelist = some listed) :
    ∃ compiled, ofDefinition definition = .ok compiled ∧
      compiled.matcher.negate = definition.negate ∧
      ∀ context, ∃ held, compiled.holds context = .ready held ∧
        (held = true ↔ ∃ items, definition.subject? context = some (.array items) ∧ items ≠ [] ∧
          relation {text | text ∈ listed} (Attribute.texts items)) := by
  rcases exists_predicate_of_relatesSets known relates lists with
    ⟨predicate, compiles, alone, agrees⟩
  refine ⟨_, compiles, rfl, ?_⟩
  intro context
  have typed : (Matcher.ofPayload definition kind (.whitelist listed, .set)).valueType = .set := rfl
  refine ⟨_, holds_eq_any Attribute.toSet? (fun _ => rfl) typed (by simp) (by simp) rfl alone
    context, ?_⟩
  simp only [Option.any_eq_true, Option.bind_eq_some_iff, Attribute.toSet?_eq_some_iff]
  constructor
  · rintro ⟨_, ⟨_, supplied, items, rfl, nonempty, rfl⟩, held⟩
    have related := (agrees _ (Text.nodup_distinct _)).mp held
    rw [Attribute.setOf_mem_distinct] at related
    exact ⟨items, supplied, nonempty, related⟩
  · rintro ⟨items, supplied, nonempty, related⟩
    refine ⟨_, ⟨_, supplied, items, rfl, nonempty, rfl⟩, ?_⟩
    apply (agrees _ (Text.nodup_distinct _)).mpr
    rwa [Attribute.setOf_mem_distinct]

/-- The matchers for sets are relations between sets. They match if the texts of the items in an
array and the listed texts are equal as sets, or one set includes the other, or they have a text in
common; without an array, or with an empty one, they never match before negation. Neither the order
of items and listed texts nor how often they are repeated makes a difference. -/
theorem compares_as_sets (known : definition.kindName = kind.name)
    (relates : kind.RelatesSets relation) (lists : definition.whitelist = some listed) :
    ∃ compiled, ofDefinition definition = .ok compiled ∧
      (∀ context, ∃ held, compiled.holds context = .ready held ∧
        compiled.isMatch context = .ready (held != definition.negate) ∧
        (held = true ↔ ∃ items, definition.subject? context = some (.array items) ∧ items ≠ [] ∧
          relation {text | text ∈ listed} (Attribute.texts items))) ∧
      ∀ otherListed : List String, (∀ text, text ∈ otherListed ↔ text ∈ listed) →
        ∃ otherCompiled,
          ofDefinition { definition with whitelist := some otherListed } = .ok otherCompiled ∧
          ∀ context otherContext items otherItems,
            definition.subject? context = some (.array items) →
            definition.subject? otherContext = some (.array otherItems) →
            (∀ item, item ∈ otherItems ↔ item ∈ items) →
              otherCompiled.isMatch otherContext = compiled.isMatch context := by
  rcases exists_holds_iff known relates lists with ⟨compiled, compiles, negated, answers⟩
  refine ⟨compiled, compiles, ?_, ?_⟩
  · intro context
    rcases answers context with ⟨held, settled, related⟩
    refine ⟨held, settled, ?_, related⟩
    rw [isMatch, settled, negated]
    rfl
  · intro otherListed sameListed
    have otherKnown : { definition with whitelist := some otherListed }.kindName = kind.name :=
      known
    rcases exists_holds_iff otherKnown relates rfl with
      ⟨otherCompiled, otherCompiles, otherNegated, otherAnswers⟩
    refine ⟨otherCompiled, otherCompiles, ?_⟩
    intro context otherContext items otherItems supplied otherSupplied sameItems
    rcases answers context with ⟨held, settled, related⟩
    rcases otherAnswers otherContext with ⟨otherHeld, otherSettled, otherRelated⟩
    have sameSet : {text | text ∈ otherListed} = {text | text ∈ listed} := Set.ext sameListed
    have sameTexts : Attribute.texts otherItems = Attribute.texts items := by
      simp only [Attribute.texts, sameItems]
    have sameNonempty : otherItems ≠ [] ↔ items ≠ [] := by
      simp only [ne_eq, List.eq_nil_iff_forall_not_mem, sameItems]
    have sameHeld : otherHeld = held := by
      change MatcherDefinition.subject? { definition with whitelist := some otherListed }
        otherContext = _ at otherSupplied
      rw [Bool.eq_iff_iff, otherRelated, related, sameSet, otherSupplied, supplied]
      simp [sameTexts, sameNonempty]
    rw [isMatch, isMatch, otherSettled, settled, otherNegated, negated, sameHeld]

end

/-- A matcher for those who have just two codes, one of them listed twice. -/
def twoCodes : MatcherDefinition where
  kindName := "EQUAL_TO_SET"
  keySelector := some ⟨none, some "codes"⟩
  whitelist := some ["1", "null", "1"]

/-- A key with codes. -/
def withCodes (codes : List Attribute) : Context :=
  ⟨.ofMatching "alice", [("codes", .array codes)], .unavailable⟩

theorem compares_as_sets_twoCodes :
    twoCodes.kindName = MatcherKind.equalToSet.name ∧ twoCodes.whitelist = some ["1", "null", "1"] ∧
      ∃ compiled otherCompiled, ofDefinition twoCodes = .ok compiled ∧
        ofDefinition { twoCodes with whitelist := some ["null", "1"] } = .ok otherCompiled ∧
        compiled.isMatch (withCodes [.null, .number (.ofInt 1), .string "1"]) = .ready true ∧
        otherCompiled.isMatch (withCodes [.string "1", .null, .number (.ofInt 1), .null]) =
          .ready true := by
  have known : twoCodes.kindName = MatcherKind.equalToSet.name := rfl
  rcases compares_as_sets known .equalTo rfl with ⟨compiled, compiles, answers, repeats⟩
  have sameListed : ∀ text, text ∈ ["null", "1"] ↔ text ∈ ["1", "null", "1"] := by
    simp [or_comm]
  rcases repeats ["null", "1"] sameListed with ⟨otherCompiled, otherCompiles, alike⟩
  have isMatch : compiled.isMatch (withCodes [.null, .number (.ofInt 1), .string "1"]) =
      .ready true := by
    rcases answers (withCodes [.null, .number (.ofInt 1), .string "1"]) with
      ⟨held, _, settled, related⟩
    have number : Attribute.numberText (.ofInt 1) = "1" := by decide +kernel
    have held : held = true := by
      apply related.mpr
      refine ⟨_, rfl, List.cons_ne_nil _ _, ?_⟩
      ext text
      simp [Attribute.texts, Attribute.text, number, eq_comm, or_comm]
    rw [settled, held]
    rfl
  refine ⟨known, rfl, compiled, otherCompiled, compiles, otherCompiles, isMatch, ?_⟩
  rw [← isMatch]
  refine alike _ _ _ _ rfl rfl ?_
  intro item
  simp
  tauto

end CompiledMatcher

end Targeting
