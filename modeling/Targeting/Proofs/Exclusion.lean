import Targeting.Pattern.Standard
import Targeting.Proofs.Decision
import Targeting.Proofs.Nested

/-!
# Exclusion from rule-based segments

Whether a key belongs to a rule-based segment, read off the definition of the segment. The excluded
segments come before the conditions and close the door: the first of them that has the key, or
cannot answer, settles the membership, and the segments and conditions behind it are not asked for
anything. A failure is not taken for a plain no here. It is in a condition, where it counts as a
matcher that does not hold.

The order of the questions is part of the statement. `ExcludedSegment.FirstAnswer` singles out the
excluded segment that settles a membership, and the segments that were asked in vain before it. How
an excluded segment is asked is a parameter of these definitions; for the segments of a backend it
is `Backend.askExcluded`, which asks the storage as the kind of the segment wants.
-/

namespace Targeting

/-- The first of several excluded segments that does not answer with a plain no, and the segments
before it. -/
structure ExcludedSegment.FirstAnswer
    (ask : ExcludedSegment → Lookup Call (Except EvaluationError Bool))
    (segments before : List ExcludedSegment) (decisive : ExcludedSegment) : Prop where
  position : before ++ [decisive] <+: segments
  passed : ∀ earlier ∈ before, (ask earlier).value = .ok false
  answers : (ask decisive).value ≠ .ok false

namespace ExcludedSegment

variable {context : Context} {segments before : List ExcludedSegment} {decisive : ExcludedSegment}

theorem anyHasKey_cons_of_passed {segment : ExcludedSegment}
    (passed : (segment.hasKey context).value = .ok false) (rest : List ExcludedSegment) :
    anyHasKey context (segment :: rest) =
      (segment.hasKey context).andThen (anyHasKey context rest) := by
  rw [anyHasKey, Lookup.bind, passed]

theorem anyHasKey_cons_of_answers (answers : (decisive.hasKey context).value ≠ .ok false)
    (after : List ExcludedSegment) :
    anyHasKey context (decisive :: after) = decisive.hasKey context := by
  rw [anyHasKey, Lookup.bind]
  split
  · next plain => exact absurd plain answers
  · exact (decisive.hasKey context).bind_ready

/-- Segments that answer with a plain no are asked one after the other and then left behind. -/
theorem anyHasKey_append_of_passed
    (passed : ∀ earlier ∈ before, (earlier.hasKey context).value = .ok false)
    (rest : List ExcludedSegment) :
    anyHasKey context (before ++ rest) =
      (Lookup.collect (before.map (·.hasKey context))).andThen (anyHasKey context rest) := by
  induction before with
  | nil => exact (Lookup.ready_andThen _ _).symm
  | cons segment later ih =>
      have first := passed segment List.mem_cons_self
      have others := ih fun earlier member => passed earlier (List.mem_cons_of_mem segment member)
      rw [List.cons_append, anyHasKey_cons_of_passed first, others, List.map_cons,
        Lookup.collect_cons_andThen]

theorem anyHasKey_of_passed
    (passed : ∀ excluded ∈ segments, (excluded.hasKey context).value = .ok false) :
    anyHasKey context segments =
      (Lookup.collect (segments.map (·.hasKey context))).andThen (.ready (.ok false)) := by
  have asked := anyHasKey_append_of_passed passed []
  rwa [List.append_nil] at asked

theorem anyHasKey_of_firstAnswer (first : FirstAnswer (·.hasKey context) segments before decisive) :
    anyHasKey context segments =
      (Lookup.collect (before.map (·.hasKey context))).andThen (decisive.hasKey context) := by
  rcases first with ⟨⟨after, rfl⟩, passed, answers⟩
  rw [List.append_assoc, List.singleton_append, anyHasKey_append_of_passed passed,
    anyHasKey_cons_of_answers answers]

theorem passed_or_exists_firstAnswer (context : Context) (segments : List ExcludedSegment) :
    (∀ excluded ∈ segments, (excluded.hasKey context).value = .ok false) ∨
      ∃ before decisive, FirstAnswer (·.hasKey context) segments before decisive := by
  induction segments with
  | nil => simp
  | cons segment rest ih =>
      by_cases plain : (segment.hasKey context).value = .ok false
      · rcases ih with passed | ⟨before, decisive, ⟨after, rfl⟩, passed, answers⟩
        · left
          intro excluded member
          rcases List.mem_cons.mp member with rfl | further
          · exact plain
          · exact passed excluded further
        · right
          refine ⟨segment :: before, decisive, ⟨after, rfl⟩, ?_, answers⟩
          intro earlier member
          rcases List.mem_cons.mp member with rfl | further
          · exact plain
          · exact passed earlier further
      · right
        exact ⟨[], segment, ⟨rest, rfl⟩, by simp, plain⟩

end ExcludedSegment

namespace CompiledGroup

theorem value_anyIsMatch_cons {context : Context} {group : CompiledGroup}
    {groups : List CompiledGroup} :
    (anyIsMatch context (group :: groups)).value = true ↔
      (group.isMatch context).value = true ∨ (anyIsMatch context groups).value = true := by
  simp only [anyIsMatch, Lookup.value_map, Lookup.firstDecision_cons, Lookup.value_orElse,
    Option.isSome_or, Bool.or_eq_true]
  rcases (group.isMatch context).value with _ | _
  · simp
  · simp

end CompiledGroup

section

variable [PatternLanguage]

namespace RuleBasedSegment

variable {segment : RuleBasedSegment} {context : Context}

/-- The membership is up to the excluded segments: the key is not excluded by itself, and the
matchers of the conditions are all supported. -/
structure AsksSegments (segment : RuleBasedSegment) (context : Context) : Prop where
  unlisted : context.key.matching ∉ segment.excluded.keys
  supported : ∀ condition ∈ segment.conditions, ¬condition.Unsupported

/-- What the membership of a context's key settles to. -/
inductive Settles (segment : RuleBasedSegment)
    (ask : ExcludedSegment → Lookup Call (Except EvaluationError Bool)) (context : Context) :
    Except EvaluationError Bool → Prop where
  | excludedKey (listed : context.key.matching ∈ segment.excluded.keys) :
      Settles segment ask context (.ok false)
  | unsupported {condition : Condition} (stored : condition ∈ segment.conditions)
      (unsupported : condition.Unsupported) : Settles segment ask context (.ok false)
  | excludedSegment {before : List ExcludedSegment} {decisive : ExcludedSegment}
      (asks : segment.AsksSegments context)
      (first : ExcludedSegment.FirstAnswer ask segment.excluded.segments before decisive)
      (has : (ask decisive).value = .ok true) : Settles segment ask context (.ok false)
  | unanswered {before : List ExcludedSegment} {decisive : ExcludedSegment}
      {error : EvaluationError} (asks : segment.AsksSegments context)
      (first : ExcludedSegment.FirstAnswer ask segment.excluded.segments before decisive)
      (fails : (ask decisive).value = .error error) : Settles segment ask context (.error error)
  | conditions {matched : Bool} (asks : segment.AsksSegments context)
      (passed : ∀ excluded ∈ segment.excluded.segments, (ask excluded).value = .ok false)
      (decides : matched = true ↔ ∃ condition ∈ segment.conditions,
        ∀ definition ∈ condition.matchers, definition.Matches context) :
      Settles segment ask context (.ok matched)

theorem compiledGroups_of_supported
    (supported : ∀ condition ∈ segment.conditions, ¬condition.Unsupported) :
    ∃ groups, segment.compiledGroups = .ok groups := by
  rw [← Outcome.not_fails_iff, compiledGroups, Outcome.fails_mapM_iff]
  rintro ⟨condition, stored, fails⟩
  exact supported condition stored (CompiledGroup.fails_ofDefinitions_iff.mp fails)

theorem value_anyIsMatch_iff {groups : List CompiledGroup}
    (compiles : segment.compiledGroups = .ok groups) :
    (CompiledGroup.anyIsMatch context groups).value = true ↔
      ∃ condition ∈ segment.conditions,
        ∀ definition ∈ condition.matchers, definition.Matches context := by
  have pairs := Outcome.mapM_eq_ok_iff.mp compiles
  generalize segment.conditions = conditions at pairs ⊢
  clear compiles
  induction pairs with
  | nil => simp [CompiledGroup.anyIsMatch, Lookup.firstDecision]
  | cons first later ih =>
      simp only [CompiledGroup.value_anyIsMatch_cons, CompiledGroup.value_isMatch_iff first, ih,
        List.exists_mem_cons_iff]

theorem hasKey_of_listed (listed : context.key.matching ∈ segment.excluded.keys) :
    segment.hasKey context = .ready (.ok false) := by
  have excluded : segment.excludesKey context.key.matching = true := by
    simpa [excludesKey] using listed
  rw [hasKey, if_pos excluded]

theorem hasKey_of_unsupported {condition : Condition} (stored : condition ∈ segment.conditions)
    (unsupported : condition.Unsupported) : segment.hasKey context = .ready (.ok false) := by
  have fails : Outcome.Fails segment.compiledGroups :=
    Outcome.fails_mapM_iff.mpr
      ⟨condition, stored, CompiledGroup.fails_ofDefinitions_iff.mpr unsupported⟩
  rcases fails with ⟨error, fails⟩
  rw [hasKey, fails]
  split
  · rfl
  · rfl

theorem hasKey_of_asksSegments (asks : segment.AsksSegments context) {groups : List CompiledGroup}
    (compiles : segment.compiledGroups = .ok groups) :
    segment.hasKey context =
      (ExcludedSegment.anyHasKey context segment.excluded.segments).bind fun excluded =>
        match excluded with
        | .ok false => (CompiledGroup.anyIsMatch context groups).map .ok
        | .ok true => .ready (.ok false)
        | .error error => .ready (.error error) := by
  have unlisted : ¬segment.excludesKey context.key.matching = true := by
    simpa [excludesKey] using asks.unlisted
  rw [hasKey, if_neg unlisted]
  split
  · next fails => cases compiles.symm.trans fails
  · next found =>
      cases compiles.symm.trans found
      rfl

/-- Once an excluded segment gives another answer than no, the rest is not asked: neither the
excluded segments behind it nor the conditions. -/
theorem hasKey_of_firstAnswer (asks : segment.AsksSegments context)
    {before : List ExcludedSegment} {decisive : ExcludedSegment}
    (first : ExcludedSegment.FirstAnswer (·.hasKey context) segment.excluded.segments before
      decisive) :
    segment.hasKey context =
      (Lookup.collect (before.map (·.hasKey context))).andThen
        ((decisive.hasKey context).map (Except.map fun _ => false)) := by
  rcases compiledGroups_of_supported asks.supported with ⟨groups, compiles⟩
  rw [hasKey_of_asksSegments asks compiles, ExcludedSegment.anyHasKey_of_firstAnswer first,
    Lookup.bind, Lookup.value_andThen, Lookup.andThen_assoc,
    Lookup.map_eq_andThen (Except.map fun _ => false)]
  rcases answered : (decisive.hasKey context).value with error | _ | _
  · rfl
  · exact absurd answered first.answers
  · rfl

theorem hasKey_of_passed (asks : segment.AsksSegments context)
    (passed : ∀ excluded ∈ segment.excluded.segments, (excluded.hasKey context).value = .ok false)
    {groups : List CompiledGroup} (compiles : segment.compiledGroups = .ok groups) :
    segment.hasKey context =
      (Lookup.collect (segment.excluded.segments.map (·.hasKey context))).andThen
        ((CompiledGroup.anyIsMatch context groups).map .ok) := by
  rw [hasKey_of_asksSegments asks compiles, ExcludedSegment.anyHasKey_of_passed passed,
    Lookup.bind, Lookup.value_andThen, Lookup.value_ready, Lookup.andThen_assoc,
    Lookup.ready_andThen]

theorem value_hasKey_of_settles {answer : Except EvaluationError Bool}
    (settles : segment.Settles (·.hasKey context) context answer) :
    (segment.hasKey context).value = answer := by
  cases settles with
  | excludedKey listed => rw [hasKey_of_listed listed, Lookup.value_ready]
  | unsupported stored unsupported =>
      rw [hasKey_of_unsupported stored unsupported, Lookup.value_ready]
  | excludedSegment asks first has =>
      rw [hasKey_of_firstAnswer asks first, Lookup.value_andThen, Lookup.value_map, has]
      rfl
  | unanswered asks first fails =>
      rw [hasKey_of_firstAnswer asks first, Lookup.value_andThen, Lookup.value_map, fails]
      rfl
  | conditions asks passed decides =>
      rcases compiledGroups_of_supported asks.supported with ⟨groups, compiles⟩
      rw [hasKey_of_passed asks passed compiles, Lookup.value_andThen, Lookup.value_map,
        Except.ok.injEq, Bool.eq_iff_iff, value_anyIsMatch_iff compiles, decides]

theorem exists_settles (segment : RuleBasedSegment) (context : Context) :
    ∃ answer, segment.Settles (·.hasKey context) context answer := by
  by_cases listed : context.key.matching ∈ segment.excluded.keys
  · exact ⟨_, .excludedKey listed⟩
  by_cases supported : ∀ condition ∈ segment.conditions, ¬condition.Unsupported
  · have asks : segment.AsksSegments context := ⟨listed, supported⟩
    rcases ExcludedSegment.passed_or_exists_firstAnswer context segment.excluded.segments with
      passed | ⟨before, decisive, first⟩
    · rcases compiledGroups_of_supported supported with ⟨groups, compiles⟩
      exact ⟨_, .conditions asks passed (value_anyIsMatch_iff compiles)⟩
    · rcases answered : (decisive.hasKey context).value with error | _ | _
      · exact ⟨_, .unanswered asks first answered⟩
      · exact absurd answered first.answers
      · exact ⟨_, .excludedSegment asks first answered⟩
  · push Not at supported
    rcases supported with ⟨condition, stored, unsupported⟩
    exact ⟨_, .unsupported stored unsupported⟩

theorem value_hasKey_iff_settles {answer : Except EvaluationError Bool} :
    (segment.hasKey context).value = answer ↔
      segment.Settles (·.hasKey context) context answer := by
  constructor
  · rintro rfl
    rcases segment.exists_settles context with ⟨answer, settles⟩
    rwa [value_hasKey_of_settles settles]
  · exact value_hasKey_of_settles

/-- The key is excluded, by itself or by a segment that it belongs to. -/
def Excludes (segment : RuleBasedSegment)
    (ask : ExcludedSegment → Lookup Call (Except EvaluationError Bool)) (key : Key) : Prop :=
  key.matching ∈ segment.excluded.keys ∨
    ∃ excluded ∈ segment.excluded.segments, (ask excluded).value = .ok true

theorem not_member_of_excludes (excludes : segment.Excludes (·.hasKey context) context.key) :
    (segment.hasKey context).value ≠ .ok true := by
  intro member
  cases value_hasKey_iff_settles.mp member with
  | conditions asks passed _ =>
      rcases excludes with listed | ⟨excluded, inList, has⟩
      · exact asks.unlisted listed
      · cases has.symm.trans (passed excluded inList)

/-- What is asked for a membership, and in which order. Before an answer that settles it lie the
excluded segments that answered no, each asked once; nothing is asked after it. -/
structure AsksInOrder (segment : RuleBasedSegment)
    (ask : ExcludedSegment → Lookup Call (Except EvaluationError Bool)) (context : Context) :
    Prop where
  nothing : ¬segment.AsksSegments context → segment.hasKey context = .ready (.ok false)
  upToFirst : segment.AsksSegments context → ∀ {before decisive},
    ExcludedSegment.FirstAnswer ask segment.excluded.segments before decisive →
      segment.hasKey context =
        (Lookup.collect (before.map ask)).andThen
          ((ask decisive).map (Except.map fun _ => false))
  everything : segment.AsksSegments context →
    (∀ excluded ∈ segment.excluded.segments, (ask excluded).value = .ok false) →
      ∃ groups, segment.compiledGroups = .ok groups ∧
        segment.hasKey context =
          (Lookup.collect (segment.excluded.segments.map ask)).andThen
            ((CompiledGroup.anyIsMatch context groups).map .ok)

theorem asksInOrder (segment : RuleBasedSegment) (context : Context) :
    segment.AsksInOrder (·.hasKey context) context where
  nothing closed := by
    by_cases listed : context.key.matching ∈ segment.excluded.keys
    · exact hasKey_of_listed listed
    · have unsupported : ∃ condition ∈ segment.conditions, condition.Unsupported := by
        by_contra supported
        push Not at supported
        exact closed ⟨listed, supported⟩
      rcases unsupported with ⟨condition, stored, unsupported⟩
      exact hasKey_of_unsupported stored unsupported
  upToFirst asks _ _ first := hasKey_of_firstAnswer asks first
  everything asks passed := by
    rcases compiledGroups_of_supported asks.supported with ⟨groups, compiles⟩
    exact ⟨groups, compiles, hasKey_of_passed asks passed compiles⟩

end RuleBasedSegment

namespace Backend

variable {backend : Backend} {stack : Stack} {name : String}

/-- What is asked for an excluded segment. The storage is asked by the matching part of the key
whether a segment or a large segment has it. A rule-based segment is evaluated for the whole key,
inside of the segments on the stack. -/
def askExcluded (backend : Backend) (stack : Stack) (key : Key) (excluded : ExcludedSegment) :
    Lookup Call (Except EvaluationError Bool) :=
  match excluded.kind with
  | .standard =>
      Lookup.ask (.segment excluded.name key.matching)
        ((backend.storage.segment excluded.name key.matching).map (Except.mapError .storage))
  | .large =>
      Lookup.ask (.largeSegment excluded.name key.matching)
        ((backend.storage.largeSegment excluded.name key.matching).map (Except.mapError .storage))
  | .ruleBased => (backend.surroundings stack).inRuleBased excluded.name key

theorem hasKey_context (backend : Backend) (stack : Stack) (key : Key) :
    (·.hasKey (backend.context stack key)) = backend.askExcluded stack key := by
  funext excluded
  rcases excluded with ⟨kind, name⟩
  cases kind with
  | standard =>
      rw [ExcludedSegment.hasKey, context, surroundings_eq_layer]
      rfl
  | large =>
      rw [ExcludedSegment.hasKey, context, surroundings_eq_layer]
      rfl
  | ruleBased => rfl

/-- What the membership in the rule-based segment with a name settles to. -/
inductive SettlesMembership (backend : Backend) (stack : Stack) (name : String) (key : Key) :
    Except EvaluationError Bool → Prop where
  | cycle (entered : name ∈ stack.segments) :
      SettlesMembership backend stack name key (.error (.ruleBasedSegmentCycle name))
  | unreadable {error : StorageError} (fresh : name ∉ stack.segments)
      (fails : (backend.storage.ruleBased name).value = .error error) :
      SettlesMembership backend stack name key (.error (.storage error))
  | missing (fresh : name ∉ stack.segments)
      (absent : (backend.storage.ruleBased name).value = .ok none) :
      SettlesMembership backend stack name key (.ok false)
  | stored {segment : RuleBasedSegment} {answer : Except EvaluationError Bool}
      (fresh : name ∉ stack.segments)
      (found : (backend.storage.ruleBased name).value = .ok (some segment))
      (settles : segment.Settles (backend.askExcluded (stack.enterSegment name) key)
        (backend.context (stack.enterSegment name) key) answer) :
      SettlesMembership backend stack name key answer

theorem inRuleBased_of_entered (entered : name ∈ stack.segments) (key : Key) :
    (backend.surroundings stack).inRuleBased name key =
      .ready (.error (.ruleBasedSegmentCycle name)) := by
  rw [surroundings_eq_layer]
  simp only [layer, Storage.hasKey_eq, if_pos entered]

theorem inRuleBased_of_fresh (fresh : name ∉ stack.segments) (key : Key) :
    (backend.surroundings stack).inRuleBased name key =
      (Lookup.ask (.ruleBased name) (backend.storage.ruleBased name)).bind
        (Storage.foundRuleBased backend.attributes backend.surroundings stack name key) := by
  rw [surroundings_eq_layer]
  simp only [layer, Storage.hasKey_eq, if_neg fresh]

theorem inRuleBased_of_stored (fresh : name ∉ stack.segments) {segment : RuleBasedSegment}
    (found : (backend.storage.ruleBased name).value = .ok (some segment)) (key : Key) :
    (backend.surroundings stack).inRuleBased name key =
      (Lookup.ask (.ruleBased name) (backend.storage.ruleBased name)).andThen
        (segment.hasKey (backend.context (stack.enterSegment name) key)) := by
  rw [inRuleBased_of_fresh fresh, Lookup.bind, Lookup.value_ask, found]
  rfl

theorem value_inRuleBased_of_settles {key : Key} {answer : Except EvaluationError Bool}
    (settles : backend.SettlesMembership stack name key answer) :
    ((backend.surroundings stack).inRuleBased name key).value = answer := by
  cases settles with
  | cycle entered => rw [inRuleBased_of_entered entered, Lookup.value_ready]
  | unreadable fresh fails =>
      rw [inRuleBased_of_fresh fresh, Lookup.value_bind, Lookup.value_ask, fails]
      rfl
  | missing fresh absent =>
      rw [inRuleBased_of_fresh fresh, Lookup.value_bind, Lookup.value_ask, absent]
      rfl
  | stored fresh found settles =>
      rw [← hasKey_context] at settles
      rw [inRuleBased_of_stored fresh found, Lookup.value_andThen]
      exact RuleBasedSegment.value_hasKey_of_settles settles

theorem exists_settlesMembership (backend : Backend) (stack : Stack) (name : String) (key : Key) :
    ∃ answer, backend.SettlesMembership stack name key answer := by
  by_cases entered : name ∈ stack.segments
  · exact ⟨_, .cycle entered⟩
  · rcases found : (backend.storage.ruleBased name).value with error | _ | segment
    · exact ⟨_, .unreadable entered found⟩
    · exact ⟨_, .missing entered found⟩
    · rcases segment.exists_settles (backend.context (stack.enterSegment name) key) with
        ⟨answer, settles⟩
      rw [hasKey_context] at settles
      exact ⟨answer, .stored entered found settles⟩

/-- The membership of a key in a rule-based segment is settled by the clauses of
`Backend.SettlesMembership`, and asked for in the order of `RuleBasedSegment.AsksInOrder`. An
excluded key is never a member, whatever fails or is pending and whatever the conditions say. The
storage has finitely many definitions, so that exclusions of exclusions come to an end. -/
theorem exclusions_come_first (backend : Backend) (stack : Stack) (name : String) (key : Key) :
    (∀ answer, ((backend.surroundings stack).inRuleBased name key).value = answer ↔
      backend.SettlesMembership stack name key answer) ∧
    ∀ segment, (backend.storage.ruleBased name).value = .ok (some segment) →
      (name ∉ stack.segments →
        (backend.surroundings stack).inRuleBased name key =
          (Lookup.ask (.ruleBased name) (backend.storage.ruleBased name)).andThen
            (segment.hasKey (backend.context (stack.enterSegment name) key)) ∧
        segment.AsksInOrder (backend.askExcluded (stack.enterSegment name) key)
          (backend.context (stack.enterSegment name) key)) ∧
      (segment.Excludes (backend.askExcluded (stack.enterSegment name) key) key →
        ((backend.surroundings stack).inRuleBased name key).value ≠ .ok true) := by
  refine ⟨?_, ?_⟩
  · intro answer
    constructor
    · rintro rfl
      rcases backend.exists_settlesMembership stack name key with ⟨answer, settles⟩
      rwa [value_inRuleBased_of_settles settles]
    · exact value_inRuleBased_of_settles
  · intro segment found
    refine ⟨?_, ?_⟩
    · intro fresh
      rw [← hasKey_context]
      exact ⟨inRuleBased_of_stored fresh found key, segment.asksInOrder _⟩
    · intro excluded
      rw [← hasKey_context] at excluded
      by_cases entered : name ∈ stack.segments
      · rw [inRuleBased_of_entered entered, Lookup.value_ready]
        simp
      · rw [inRuleBased_of_stored entered found, Lookup.value_andThen]
        exact RuleBasedSegment.not_member_of_excludes excluded

end Backend

end

namespace Backend

/-- Everyone but interns, former employees and the banned. -/
def employees : RuleBasedSegment where
  name := "employees"
  excluded := { segments := [⟨.standard, "interns"⟩, ⟨.ruleBased, "alumni"⟩, ⟨.large, "banned"⟩] }
  conditions := [⟨.rollout, [{ kindName := "ALL_KEYS" }], [], ""⟩]

/-- Former employees have a key of their own kind. -/
def alumni : RuleBasedSegment where
  name := "alumni"
  conditions :=
    [⟨.rollout, [{ kindName := "STARTS_WITH", whitelist := some ["former."] }], [], ""⟩]

/-- A storage in which every answer is pending. Who is banned may be impossible to say. -/
def staff (failure? : Query → Option String) : Backend where
  storage :=
    Memory.toStorage
      { ruleBased := [employees, alumni], largeSegments := [("banned", ["mallory"])] }
      { failure?, isPending := fun _ => true }

/-- The large segment is the third that is asked, and decides by its answer as well as by its
failure. -/
theorem exclusions_come_first_staff :
    ((staff fun _ => none).storage.ruleBased "employees").value = .ok (some employees) ∧
      "employees" ∉ Stack.segments {} ∧
      employees.AsksSegments
        ((staff fun _ => none).context ⟨[], ["employees"]⟩ (.ofMatching "mallory")) ∧
      ExcludedSegment.FirstAnswer
        ((staff fun _ => none).askExcluded ⟨[], ["employees"]⟩ (.ofMatching "mallory"))
        employees.excluded.segments [⟨.standard, "interns"⟩, ⟨.ruleBased, "alumni"⟩]
        ⟨.large, "banned"⟩ ∧
      (((staff fun _ => none).surroundings {}).inRuleBased "employees"
          (.ofMatching "mallory")).calls =
        [.ruleBased "employees", .segment "interns" "mallory", .ruleBased "alumni",
          .largeSegment "banned" "mallory"] ∧
      (((staff fun _ => none).surroundings {}).inRuleBased "employees"
          (.ofMatching "mallory")).value ≠ .ok true ∧
      (staff fun query =>
          if query = .largeSegment "banned" then some "timeout" else none).SettlesMembership {}
        "employees" (.ofMatching "alice") (.error (.storage (.backend "timeout"))) := by
  have found : ((staff fun _ => none).storage.ruleBased "employees").value =
      .ok (some employees) := rfl
  have fresh : "employees" ∉ Stack.segments {} := List.not_mem_nil
  have first : ExcludedSegment.FirstAnswer
      ((staff fun _ => none).askExcluded ⟨[], ["employees"]⟩ (.ofMatching "mallory"))
      employees.excluded.segments [⟨.standard, "interns"⟩, ⟨.ruleBased, "alumni"⟩]
      ⟨.large, "banned"⟩ := by
    refine ⟨by decide, ?_, by decide +kernel⟩
    simp only [List.forall_mem_cons, List.not_mem_nil, false_implies, implies_true, and_true]
    exact ⟨by decide +kernel, by decide +kernel⟩
  have asks : employees.AsksSegments
      ((staff fun _ => none).context ⟨[], ["employees"]⟩ (.ofMatching "mallory")) := by
    refine ⟨List.not_mem_nil, ?_⟩
    intro condition stored
    rw [← CompiledGroup.fails_ofDefinitions_iff, List.mem_singleton.mp stored]
    exact Outcome.not_fails_ok _
  have settled := (exclusions_come_first (staff fun _ => none) {} "employees"
    (.ofMatching "mallory")).2 employees found
  have asked := settled.1 fresh
  refine ⟨found, fresh, asks, first, ?_, settled.2 ?_, ?_⟩
  · rw [asked.1, asked.2.upToFirst asks first]
    decide +kernel
  · right
    exact ⟨⟨.large, "banned"⟩, by decide, by decide +kernel⟩
  · apply ((exclusions_come_first _ {} "employees" (.ofMatching "alice")).1 _).mp
    decide +kernel

end Backend

end Targeting
