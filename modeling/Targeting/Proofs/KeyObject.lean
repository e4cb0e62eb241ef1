import Targeting.Proofs.Bucketing

/-!
# Objects that describe a key

An object with a matching and a bucketing part can be read in two ways: as a key, and as an
attribute that describes a key to matchers which evaluate another definition for it. The two readers
were not made for each other. A key takes its parts as they are given, and an attribute takes an
empty part for missing.

The first sections say what both readers come to on the fields of an object. After that it is a
matter of the matcher: one that compares a key as a whole cannot tell where it has the key from.
-/

namespace Targeting

namespace Record

variable {α : Type} (name : String) (read : Json → Option α) (fields : List (String × Json))

theorem required_named :
    required name read (.named fields) =
      ((fields.lookup name).bind read).map (·, .named fields) := by
  simp only [required, next, bind, StateT.bind, Option.bind]
  rcases fields.lookup name with _ | json
  · rfl
  · simp only [StateT.lift]
    rcases read json with _ | value
    · rfl
    · rfl

theorem optional_named :
    optional name read (.named fields) =
      ((fields.lookup name).elim (some none) (Json.asNullable? read)).map (·, .named fields) := by
  simp only [optional, defaulted, next, bind, StateT.bind, Option.bind]
  rcases fields.lookup name with _ | json
  · rfl
  · simp only [StateT.lift, Option.elim]
    rcases Json.asNullable? read json with _ | value
    · rfl
    · rfl

end Record

namespace Attribute

mutual

/-- The first kind of attribute that accepts a value is the kind that the value has. -/
theorem read?_eq_ofJson : (json : Json) → read? json = some (ofJson json)
  | .null => by simp [read?, ofJson, Json.asString?, Json.asDouble?, Json.asBool?]
  | .bool value => by simp [read?, ofJson, Json.asString?, Json.asDouble?, Json.asBool?]
  | .integer value => by simp [read?, ofJson, Json.asString?, Json.asDouble?]
  | .number value => by simp [read?, ofJson, Json.asString?, Json.asDouble?]
  | .string text => by simp [read?, ofJson, Json.asString?]
  | .array items => by
      simp [read?, ofJson, Json.asString?, readList?_eq_ofJsonList items]
  | .object fields => by
      simp [read?, ofJson, Json.asString?, Json.asDouble?, Json.asBool?,
        readFields?_eq_ofJsonFields fields]

theorem readList?_eq_ofJsonList : (items : List Json) → readList? items = some (ofJsonList items)
  | [] => by simp [readList?, ofJsonList]
  | item :: rest => by
      simp [readList?, ofJsonList, read?_eq_ofJson item, readList?_eq_ofJsonList rest]

theorem readFields?_eq_ofJsonFields :
    (fields : List (String × Json)) → readFields? fields = some (ofJsonFields fields)
  | [] => by simp [readFields?, ofJsonFields]
  | (name, value) :: rest => by
      simp [readFields?, ofJsonFields, read?_eq_ofJson value, readFields?_eq_ofJsonFields rest]

end

theorem lookup_ofJsonFields (name : String) (fields : List (String × Json)) :
    (ofJsonFields fields).lookup name = (fields.lookup name).map ofJson := by
  induction fields with
  | nil => simp [ofJsonFields]
  | cons field rest ih =>
      rcases field with ⟨other, value⟩
      simp only [ofJsonFields, List.lookup_cons]
      split
      · rfl
      · exact ih

theorem asString?_ofJson (json : Json) : (ofJson json).asString? = json.asString? := by
  cases json <;> simp [ofJson, asString?, Json.asString?]

/-- An attribute that one of the two readers takes a JSON value to. -/
def Reads (value : Attribute) (json : Json) : Prop :=
  value = ofJson json ∨ read? json = some value

theorem reads_iff {value : Attribute} {json : Json} :
    value.Reads json ↔ value = ofJson json := by
  constructor
  · rintro (same | same)
    · exact same
    · exact Option.some.inj (same.symm.trans (read?_eq_ofJson json))
  · exact .inl

theorem textField?_ofJson_object (name : String) (fields : List (String × Json)) :
    (ofJson (.object fields)).textField? name =
      ((fields.lookup name).bind Json.asString?).filter (!·.isEmpty) := by
  have field : (ofJson (.object fields)).field? name = (fields.lookup name).map ofJson := by
    rw [ofJson, field?, lookup_ofJsonFields]
  rw [textField?, field, Option.bind_map]
  congr 2
  funext json
  exact asString?_ofJson json

end Attribute

namespace Key

/-- The key with nothing in place of an empty bucketing part. -/
def withoutEmptyBucketing (key : Key) : Key :=
  { key with bucketing? := key.bucketing?.filter (!·.isEmpty) }

theorem withoutEmptyBucketing_of_ne {key : Key} (given : key.bucketing? ≠ some "") :
    key.withoutEmptyBucketing = key := by
  rcases key with ⟨matching, _ | bucketing⟩
  · rfl
  · have nonempty : bucketing ≠ "" := fun empty => given (congrArg some empty)
    simp [withoutEmptyBucketing, Option.filter, nonempty]

theorem bucketing_withoutEmptyBucketing_of_empty {key : Key} (empty : key.bucketing? = some "") :
    key.withoutEmptyBucketing.bucketing = key.matching := by
  simp [withoutEmptyBucketing, bucketing, empty, Option.filter]

theorem ofJson?_object (fields : List (String × Json)) :
    ofJson? (.object fields) =
      ((fields.lookup "matchingKey").bind Json.asString?).bind fun matching =>
        ((fields.lookup "bucketingKey").elim (some none) (Json.asNullable? Json.asString?)).map
          fun bucketing? => ⟨matching, bucketing?⟩ := by
  have matchingField := Record.required_named "matchingKey" Json.asString? fields
  have bucketingField := Record.optional_named "bucketingKey" Json.asString? fields
  simp only [ofJson?, Record.read?, bind, StateT.bind, matchingField]
  rcases (fields.lookup "matchingKey").bind Json.asString? with _ | matching
  · rfl
  · simp only [Option.map_some, Option.bind_some, bucketingField]
    rcases (fields.lookup "bucketingKey").elim (some none) (Json.asNullable? Json.asString?) with
      _ | bucketing?
    · rfl
    · rfl

theorem fields_of_ofJson? {fields : List (String × Json)} {key : Key}
    (reads : ofJson? (.object fields) = some key) :
    (fields.lookup "matchingKey").bind Json.asString? = some key.matching ∧
      (fields.lookup "bucketingKey").bind Json.asString? = key.bucketing? := by
  rw [ofJson?_object, Option.bind_eq_some_iff] at reads
  rcases reads with ⟨matching, matchingField, reads⟩
  rcases Option.map_eq_some_iff.mp reads with ⟨bucketing?, bucketingField, rfl⟩
  refine ⟨matchingField, ?_⟩
  generalize fields.lookup "bucketingKey" = field? at bucketingField ⊢
  rcases field? with _ | json
  · exact Option.some.inj bucketingField
  · cases json with
    | null => exact Option.some.inj bucketingField
    | string text => exact Option.some.inj bucketingField
    | bool _ | integer _ | number _ | array _ | object _ => cases bucketingField

end Key

theorem Attribute.toKey?_of_ofJson? {fields : List (String × Json)} {key : Key}
    (reads : Key.ofJson? (.object fields) = some key) (given : key.matching ≠ "") :
    (Attribute.ofJson (.object fields)).toKey? = some key.withoutEmptyBucketing := by
  rcases Key.fields_of_ofJson? reads with ⟨matchingField, bucketingField⟩
  rw [toKey?, textField?_ofJson_object, textField?_ofJson_object, matchingField, bucketingField]
  simp [Option.filter, given, Key.withoutEmptyBucketing]

namespace MatcherDefinition

/-- A matcher that evaluates another definition for the key that it compares. -/
def IsDependent (definition : MatcherDefinition) : Prop :=
  definition.kindName = MatcherKind.inSplitTreatment.name ∨
    definition.kindName = MatcherKind.inRuleBasedSegment.name

/-- The matcher for the key itself. -/
def withoutSelector (definition : MatcherDefinition) : MatcherDefinition :=
  { definition with keySelector := none }

end MatcherDefinition

theorem Matcher.valueType_of_isDependent {definition : MatcherDefinition} {matcher : Matcher}
    (normalizes : Matcher.ofDefinition definition = .ok matcher)
    (dependent : definition.IsDependent) : matcher.valueType = .notSpecified := by
  rcases ofDefinition_eq_ok_iff.mp normalizes with ⟨named, found, _, _⟩
  rcases dependent with known | known
  all_goals
    rw [known, MatcherKind.ofName?_name] at named
    rw [← Option.some.inj named] at found
    rcases Outcome.map_eq_ok_iff.mp found with ⟨payload, _, same⟩
    exact (congrArg Prod.snd same).symm

namespace CompiledMatcher

/-- The compiled matcher for the key itself. -/
def onKey (compiled : CompiledMatcher) : CompiledMatcher :=
  { compiled with matcher := { compiled.matcher with attribute? := none } }

theorem ofDefinition_withoutSelector [PatternLanguage] {definition : MatcherDefinition}
    {compiled : CompiledMatcher} (compiles : ofDefinition definition = .ok compiled) :
    ofDefinition definition.withoutSelector = .ok compiled.onKey := by
  rcases ofDefinition_eq_ok_iff.mp compiles with ⟨normalizes, prepares⟩
  rcases Matcher.ofDefinition_eq_ok_iff.mp normalizes with ⟨named, found, _, negated⟩
  refine ofDefinition_eq_ok_iff.mpr ⟨?_, prepares⟩
  exact Matcher.ofDefinition_eq_ok_iff.mpr ⟨named, found, rfl, negated⟩

/-- A matcher that takes its key from an attribute does what it would do for that key. -/
theorem isMatch_of_selected [PatternLanguage] {definition : MatcherDefinition}
    {compiled : CompiledMatcher} (compiles : ofDefinition definition = .ok compiled)
    (dependent : definition.IsDependent)
    {name : String} (selects : definition.attribute? = some name) {context : Context}
    {value : Attribute} (held : context.attributes.lookup name = some value) {key : Key}
    (described : value.toKey? = some key) :
    compiled.isMatch context = compiled.onKey.isMatch { context with key } := by
  have normalizes := (ofDefinition_eq_ok_iff.mp compiles).1
  have wanted := Matcher.valueType_of_isDependent normalizes dependent
  have selects' := (Matcher.ofDefinition_eq_ok_iff.mp normalizes).2.2.1.trans selects
  have selected : compiled.matcher.value? context.key context.attributes = some (.key key) := by
    simp only [Matcher.value?, selects', held, wanted, Option.bind_some, MatchValue.ofAttribute?,
      described, Option.some_or, Option.map_some, MatchValue.truncateFor]
  have given : compiled.onKey.matcher.value? key context.attributes = some (.key key) := by
    simp only [Matcher.value?, onKey, wanted, MatchValue.ofKey?, Option.map_some,
      MatchValue.truncateFor]
  simp only [isMatch, holds, selected, given]
  rfl

theorem isMatch_context_of_matching [PatternLanguage] (compiled : CompiledMatcher)
    {backend : Backend}
    (noFlag : ¬backend.storage.ReachesFlag compiled.predicate.query?.toList) (stack : Stack)
    {key key' : Key} (matching : key.matching = key'.matching) :
    compiled.isMatch (backend.context stack key) =
      compiled.isMatch (backend.context stack key') := by
  refine isMatch_of_matching ?_ matching
  intro query asked
  exact backend.ignoreBucketing_of_not_reachesFlag stack noFlag query (Option.mem_toList.mpr asked)

end CompiledMatcher

namespace Attribute

/-- The two readers of an object that describes a key agree on its matching part. They agree on its
bucketing part unless that is an empty text, which the reader of keys keeps and the reader of
attributes takes for missing. So a matcher that evaluates another definition for the key that an
attribute describes does the same as for that key itself with an empty bucketing part left out, and
where no flag can be reached nothing needs to be left out. -/
theorem described_key_alike_unless_bucketing_empty [PatternLanguage]
    {fields : List (String × Json)} {key : Key}
    (reads : Key.ofJson? (.object fields) = some key) (given : key.matching ≠ "")
    {value : Attribute} (describes : value.Reads (.object fields)) :
    value.toKey? = some key.withoutEmptyBucketing ∧
      key.withoutEmptyBucketing.matching = key.matching ∧
      (key.withoutEmptyBucketing.bucketing = key.bucketing ↔ key.bucketing? ≠ some "") ∧
      (key.bucketing? = some "" → key.withoutEmptyBucketing.bucketing = key.matching) ∧
      ∀ (definition : MatcherDefinition) (name : String) (selecting : CompiledMatcher),
        definition.IsDependent → definition.attribute? = some name →
        CompiledMatcher.ofDefinition definition = .ok selecting →
          ∃ plain, CompiledMatcher.ofDefinition definition.withoutSelector = .ok plain ∧
            (∀ context, context.attributes.lookup name = some value →
              selecting.isMatch context =
                  plain.isMatch { context with key := key.withoutEmptyBucketing } ∧
                (key.bucketing? ≠ some "" →
                  selecting.isMatch context = plain.isMatch { context with key })) ∧
            ∀ (backend : Backend) (stack : Stack) (evaluated : Key),
              backend.attributes.lookup name = some value →
              ¬backend.storage.ReachesFlag definition.query?.toList →
                selecting.isMatch (backend.context stack evaluated) =
                  plain.isMatch (backend.context stack key) := by
  have described : value.toKey? = some key.withoutEmptyBucketing := by
    rw [reads_iff.mp describes]
    exact toKey?_of_ofJson? reads given
  refine ⟨described, rfl, ⟨?_, ?_⟩, Key.bucketing_withoutEmptyBucketing_of_empty, ?_⟩
  · intro same empty
    rw [Key.bucketing_withoutEmptyBucketing_of_empty empty, Key.bucketing, empty] at same
    exact given same
  · intro nonempty
    rw [Key.withoutEmptyBucketing_of_ne nonempty]
  · intro definition name selecting dependent selects compiles
    refine ⟨selecting.onKey, CompiledMatcher.ofDefinition_withoutSelector compiles, ?_, ?_⟩
    · intro context held
      rw [CompiledMatcher.isMatch_of_selected compiles dependent selects held described]
      refine ⟨rfl, ?_⟩
      intro nonempty
      rw [Key.withoutEmptyBucketing_of_ne nonempty]
    · intro backend stack evaluated held noFlag
      have held' : (backend.context stack evaluated).attributes.lookup name = some value := held
      have matching : key.withoutEmptyBucketing.matching = key.matching := rfl
      rw [CompiledMatcher.isMatch_of_selected compiles dependent selects held' described]
      rw [← CompiledMatcher.query?_of_ofDefinition compiles] at noFlag
      exact selecting.onKey.isMatch_context_of_matching noFlag stack matching

/-- The object that describes a key with both parts. -/
def keyObject (matching bucketing : String) : List (String × Json) :=
  [("matchingKey", .string matching), ("bucketingKey", .string bucketing)]

theorem ofJson?_keyObject (matching bucketing : String) :
    Key.ofJson? (.object (keyObject matching bucketing)) = some ⟨matching, some bucketing⟩ := by
  rw [Key.ofJson?_object]
  rfl

/-- Whether the household of a guardian may borrow. -/
def guardianMayBorrow : MatcherDefinition where
  kindName := "IN_SPLIT_TREATMENT"
  keySelector := some ⟨none, some "guardian"⟩
  dependency := some ⟨"loans", ["on"]⟩

/-- A key whose guardian is part of a household, with a custom evaluator that looks at households
alone. -/
def ward : Context :=
  Backend.context
    { storage := Memory.toStorage {} {}
      attributes := [("guardian", ofJson (.object (keyObject "alice" "household")))]
      evaluator? := some
        { answer? := fun _ key =>
            if key.bucketing = "household" then some (.ready (.ofTreatment "on" ""))
            else some (.ready (.ofTreatment "off" "")) } }
    {} (.ofMatching "bob")

theorem described_key_alike_unless_bucketing_empty_household :
    Key.ofJson? (.object (keyObject "alice" "household")) = some ⟨"alice", some "household"⟩ ∧
      (ofJson (.object (keyObject "alice" "household"))).toKey? =
        some ⟨"alice", some "household"⟩ ∧
      guardianMayBorrow.IsDependent ∧
      ∃ selecting plain, CompiledMatcher.ofDefinition guardianMayBorrow = .ok selecting ∧
        CompiledMatcher.ofDefinition guardianMayBorrow.withoutSelector = .ok plain ∧
        selecting.isMatch ward =
          plain.isMatch { ward with key := ⟨"alice", some "household"⟩ } := by
  have reads := ofJson?_keyObject "alice" "household"
  rcases described_key_alike_unless_bucketing_empty reads (by decide) (.inl rfl) with
    ⟨described, _, _, _, dependents⟩
  rcases dependents guardianMayBorrow "guardian" _ (.inl rfl) rfl rfl with
    ⟨plain, compiles, agree, _⟩
  refine ⟨reads, described, .inl rfl, _, plain, rfl, compiles, ?_⟩
  exact (agree ward rfl).2 (by decide)

/-- A key with an empty bucketing part is put into the bucket of the empty text, and the key that an
attribute describes in the same way into that of its matching part. -/
theorem empty_bucketing_described_apart :
    ¬∀ (fields : List (String × Json)) (key : Key),
      Key.ofJson? (.object fields) = some key → key.matching ≠ "" →
        ∃ described, (ofJson (.object fields)).toKey? = some described ∧
          described.matching = key.matching ∧ described.bucketing = key.bucketing := by
  intro agree
  have reads := ofJson?_keyObject "alice" ""
  rcases agree _ _ reads (by decide) with ⟨described, found, _, same⟩
  rw [toKey?_of_ofJson? reads (by decide)] at found
  cases found
  exact absurd same (by decide)

end Attribute

end Targeting
