import Targeting.Evaluate
import Targeting.Proofs.Queries

/-!
# Nested evaluations

The surroundings of an evaluation are defined by recursion on the names that have not been entered.
This file takes one level of that recursion out, with any surroundings further inside in place of
the recursive ones and without the proofs that make it end. `Backend.layer` is that level, and
`Backend.unrolled` puts levels into each other.

`Backend.surroundings_alike_of_compared` is the induction over all levels that comparisons of two
evaluations share. Two backends may answer differently, have other attributes, and may be inside of
different evaluations, as long as none of this can be told from a set of queries that nothing leads
out of.
-/

namespace Targeting

variable {congruence : Lookup.Congruence Call} {inside inside' : Stack → Surroundings}
  {attributes attributes' : Attributes}

namespace Storage

variable [PatternLanguage]

/-- What a flag comes to once its definition has been read. -/
def foundFlag (attributes : Attributes) (inside : Stack → Surroundings) (stack : Stack)
    (key : Key) : Except StorageError (Option Flag) → Lookup Call Evaluation
  | .error _ => .ready (.ofControl Label.exception)
  | .ok none => .ready (.ofControl Label.notFound)
  | .ok (some flag) =>
      match CompiledFlag.ofFlag flag with
      | .error _ => .ready flag.failedEvaluation
      | .ok compiled =>
          if flag.name ∈ stack.flags then .ready flag.failedEvaluation
          else compiled.evaluateIn ⟨key, attributes, inside (stack.enterFlag flag.name)⟩

/-- What the membership in a rule-based segment comes to once its definition has been read. -/
def foundRuleBased (attributes : Attributes) (inside : Stack → Surroundings) (stack : Stack)
    (name : String) (key : Key) :
    Except StorageError (Option RuleBasedSegment) → Lookup Call (Except EvaluationError Bool)
  | .error error => .ready (.error (.storage error))
  | .ok none => .ready (.ok false)
  | .ok (some segment) => segment.hasKey ⟨key, attributes, inside (stack.enterSegment name)⟩

theorem evaluateFlag_eq (storage : Storage) (attributes : Attributes)
    (inside : Stack → Surroundings) (stack : Stack) (name : String) (key : Key) :
    storage.evaluateFlag attributes stack (fun name _ _ => inside (stack.enterFlag name)) name
        key =
      (Lookup.ask (.flag name) (storage.flag name)).bind
        (foundFlag attributes inside stack key) := by
  simp only [evaluateFlag, Lookup.bind, Lookup.value_ask]
  congr 1
  split
  · next error found => rw [found, foundFlag]
  · next found => rw [found, foundFlag]
  · next flag found =>
      rw [found, foundFlag]
      rcases CompiledFlag.ofFlag flag with error | compiled
      · rfl
      · simp only [dite_eq_ite]

theorem hasKey_eq (storage : Storage) (attributes : Attributes)
    (inside : Stack → Surroundings) (stack : Stack) (name : String) (key : Key) :
    storage.hasKey attributes stack (fun name _ _ => inside (stack.enterSegment name)) name key =
      if name ∈ stack.segments then .ready (.error (.ruleBasedSegmentCycle name))
      else
        (Lookup.ask (.ruleBased name) (storage.ruleBased name)).bind
          (foundRuleBased attributes inside stack name key) := by
  unfold hasKey
  split
  · rfl
  · simp only [Lookup.bind, Lookup.value_ask]
    congr 1
    split
    · next error found => rw [found, foundRuleBased]
    · next found => rw [found, foundRuleBased]
    · next segment found => rw [found, foundRuleBased]

theorem related_foundFlag {stack stack' : Stack} {key : Key}
    {found : Except StorageError (Option Flag)}
    (entered : ∀ flag, found = .ok (some flag) →
      (flag.name ∈ stack.flags ↔ flag.name ∈ stack'.flags))
    (evaluated : ∀ flag compiled, found = .ok (some flag) →
      CompiledFlag.ofFlag flag = .ok compiled → flag.name ∉ stack.flags →
        congruence.Related Eq
          (compiled.evaluateIn ⟨key, attributes, inside (stack.enterFlag flag.name)⟩)
          (compiled.evaluateIn ⟨key, attributes', inside' (stack'.enterFlag flag.name)⟩)) :
    congruence.Related Eq (foundFlag attributes inside stack key found)
      (foundFlag attributes' inside' stack' key found) := by
  rcases found with error | _ | flag
  · exact Lookup.Congruence.related_ready rfl
  · exact Lookup.Congruence.related_ready rfl
  · simp only [foundFlag]
    rcases compiles : CompiledFlag.ofFlag flag with error | compiled
    · exact Lookup.Congruence.related_ready rfl
    · by_cases inFlag : flag.name ∈ stack.flags
      · have inFlag' := (entered flag rfl).mp inFlag
        simp only [inFlag, inFlag', if_true]
        exact Lookup.Congruence.related_ready rfl
      · have fresh' : flag.name ∉ stack'.flags := mt (entered flag rfl).mpr inFlag
        simp only [inFlag, fresh', if_false]
        exact evaluated flag compiled rfl compiles inFlag

theorem related_foundRuleBased {stack stack' : Stack} {name : String} {key : Key}
    {found : Except StorageError (Option RuleBasedSegment)}
    (decided : ∀ segment, found = .ok (some segment) →
      congruence.Related Eq (segment.hasKey ⟨key, attributes, inside (stack.enterSegment name)⟩)
        (segment.hasKey ⟨key, attributes', inside' (stack'.enterSegment name)⟩)) :
    congruence.Related Eq (foundRuleBased attributes inside stack name key found)
      (foundRuleBased attributes' inside' stack' name key found) := by
  rcases found with error | _ | segment
  · exact Lookup.Congruence.related_ready rfl
  · exact Lookup.Congruence.related_ready rfl
  · exact decided segment rfl

end Storage

namespace Backend

variable [PatternLanguage]

/-- Surroundings in which everything further inside has given surroundings. -/
def layer (backend : Backend) (inside : Stack → Surroundings) (stack : Stack) : Surroundings where
  inSegment name key := Storage.asked (.segment name key) (backend.storage.segment name key)
  inLargeSegment name key :=
    Storage.asked (.largeSegment name key) (backend.storage.largeSegment name key)
  inRuleBased :=
    backend.storage.hasKey backend.attributes stack fun name _ _ => inside (stack.enterSegment name)
  evaluation :=
    dependency backend.evaluator? <|
      backend.storage.evaluateFlag backend.attributes stack
        fun name _ _ => inside (stack.enterFlag name)

theorem layer_evaluation {backend : Backend} (default : backend.evaluator? = none)
    (inside : Stack → Surroundings) (stack : Stack) (name : String) (key : Key) :
    (backend.layer inside stack).evaluation name key =
      (Lookup.ask (.flag name) (backend.storage.flag name)).bind
        (Storage.foundFlag backend.attributes inside stack key) := by
  rw [layer, default]
  exact backend.storage.evaluateFlag_eq backend.attributes inside stack name key

/-- So many levels of nested evaluations, with given surroundings for whatever is nested deeper. -/
def unrolled (backend : Backend) (innermost : Stack → Surroundings) :
    Nat → Stack → Surroundings
  | 0 => innermost
  | levels + 1 => backend.layer (backend.unrolled innermost levels)

theorem surroundings_eq_layer (backend : Backend) (stack : Stack) :
    backend.surroundings stack = backend.layer backend.surroundings stack := by
  rw [surroundings]
  rfl

theorem evaluation_eq (backend : Backend) (stack : Stack) :
    (backend.surroundings stack).evaluation =
      dependency backend.evaluator? (backend.evaluate stack) := by
  rw [surroundings_eq_layer]
  rfl

/-- With more levels than there are names left to enter, nothing is nested deeper. -/
theorem unrolled_eq_surroundings (backend : Backend) (innermost : Stack → Surroundings)
    {levels : Nat} {stack : Stack} (enough : backend.storage.depth stack < levels) :
    backend.unrolled innermost levels stack = backend.surroundings stack := by
  induction levels generalizing stack with
  | zero => omega
  | succ levels ih =>
      have flags : ∀ name, name ∈ backend.storage.flagNames → name ∉ stack.flags →
          backend.unrolled innermost levels (stack.enterFlag name) =
            backend.surroundings (stack.enterFlag name) := by
        intro name member fresh
        have deeper := backend.storage.depth_enterFlag_lt member fresh
        exact ih (by omega)
      have segments : ∀ name, name ∈ backend.storage.ruleBasedNames → name ∉ stack.segments →
          backend.unrolled innermost levels (stack.enterSegment name) =
            backend.surroundings (stack.enterSegment name) := by
        intro name member fresh
        have deeper := backend.storage.depth_enterSegment_lt member fresh
        exact ih (by omega)
      rw [surroundings_eq_layer, unrolled, layer, layer]
      congr 1
      · congr 1
        funext name member fresh
        exact segments name member fresh
      · congr 2
        funext name member fresh
        exact flags name member fresh

end Backend

/-- Known queries that nothing leads out of, and what evaluations of them enter. A flag is entered
under its own name, a rule-based segment under the name that it is asked for by. -/
structure Storage.Closed (storage : Storage) (known entered : Query → Prop) : Prop where
  flag : ∀ {name flag}, known (.flag name) → (storage.flag name).value = .ok (some flag) →
    entered (.flag flag.name) ∧ ∀ query ∈ flag.queries, known query
  segment : ∀ {name}, known (.ruleBased name) → entered (.ruleBased name)
  ruleBased : ∀ {name segment}, known (.ruleBased name) →
    (storage.ruleBased name).value = .ok (some segment) → ∀ query ∈ segment.queries, known query

/-- Two stacks that hold the same of some names. -/
structure Stack.Alike (entered : Query → Prop) (left right : Stack) : Prop where
  flags : ∀ {name}, entered (.flag name) → (name ∈ left.flags ↔ name ∈ right.flags)
  segments : ∀ {name}, entered (.ruleBased name) → (name ∈ left.segments ↔ name ∈ right.segments)

namespace Stack.Alike

variable {entered : Query → Prop} {left right : Stack}

theorem refl (entered : Query → Prop) (stack : Stack) : stack.Alike entered stack :=
  ⟨fun _ => Iff.rfl, fun _ => Iff.rfl⟩

theorem enterFlag (alike : left.Alike entered right) (name : String) :
    (left.enterFlag name).Alike entered (right.enterFlag name) := by
  constructor
  · intro other counts
    simp [Stack.enterFlag, alike.flags counts]
  · intro other counts
    exact alike.segments counts

theorem enterSegment (alike : left.Alike entered right) (name : String) :
    (left.enterSegment name).Alike entered (right.enterSegment name) := by
  constructor
  · intro other counts
    exact alike.flags counts
  · intro other counts
    simp [Stack.enterSegment, alike.segments counts]

end Stack.Alike

/-- Two custom evaluators whose answers are related. -/
structure FlagEvaluator.Alike (congruence : Lookup.Congruence Call)
    (left right : FlagEvaluator) : Prop where
  answer : ∀ name key,
    Option.Rel
      (fun answer answer' => congruence.Related Eq (Lookup.ask (.evaluator name key) answer)
        (Lookup.ask (.evaluator name key) answer'))
      (left.answer? name key) (right.answer? name key)
  handOver : ∀ name key, left.answer? name key = none →
    congruence.Related Eq (Lookup.ask (.evaluator name key) (.ready ()))
      (Lookup.ask (.evaluator name key) (.ready ()))
  handBack : ∀ name evaluation,
    congruence.Related Eq (Lookup.ask (.handedBack name evaluation) (.ready evaluation))
      (Lookup.ask (.handedBack name evaluation) (.ready evaluation))

/-- Two backends that answer the known queries alike. -/
structure Backend.AnswersAlike (congruence : Lookup.Congruence Call) (known : Query → Prop)
    (left right : Backend) : Prop where
  flag : ∀ {name}, known (.flag name) →
    congruence.Related Eq (Lookup.ask (.flag name) (left.storage.flag name))
      (Lookup.ask (.flag name) (right.storage.flag name))
  segment : ∀ {name}, known (.segment name) → ∀ key,
    congruence.Related Eq (Storage.asked (.segment name key) (left.storage.segment name key))
      (Storage.asked (.segment name key) (right.storage.segment name key))
  largeSegment : ∀ {name}, known (.largeSegment name) → ∀ key,
    congruence.Related Eq
      (Storage.asked (.largeSegment name key) (left.storage.largeSegment name key))
      (Storage.asked (.largeSegment name key) (right.storage.largeSegment name key))
  ruleBased : ∀ {name}, known (.ruleBased name) →
    congruence.Related Eq (Lookup.ask (.ruleBased name) (left.storage.ruleBased name))
      (Lookup.ask (.ruleBased name) (right.storage.ruleBased name))
  evaluator : Option.Rel (FlagEvaluator.Alike congruence) left.evaluator? right.evaluator?

/-- Two backends with the same attributes that answer the known queries alike. -/
structure Backend.Alike (congruence : Lookup.Congruence Call) (known : Query → Prop)
    (left right : Backend) : Prop extends left.AnswersAlike congruence known right where
  attributes : left.attributes = right.attributes

namespace Backend

theorem closed_everything (storage : Storage) :
    storage.Closed (fun _ => True) (fun _ => True) where
  flag _ _ := ⟨trivial, fun _ _ => trivial⟩
  segment _ := trivial
  ruleBased _ _ _ _ := trivial

variable {known entered : Query → Prop} {left right : Backend}

theorem related_dependency {evaluator? evaluator?' : Option FlagEvaluator}
    {fromStorage fromStorage' : String → Key → Lookup Call Evaluation} {name : String} {key : Key}
    (evaluators : Option.Rel (FlagEvaluator.Alike congruence) evaluator? evaluator?')
    (related : congruence.Related Eq (fromStorage name key) (fromStorage' name key)) :
    congruence.Related Eq (dependency evaluator? fromStorage name key)
      (dependency evaluator?' fromStorage' name key) := by
  cases evaluators with
  | none => exact related
  | @some evaluator evaluator' alike =>
      have answers := alike.answer name key
      unfold dependency
      dsimp only
      rcases answered : evaluator.answer? name key with _ | answer
      · rw [answered] at answers
        rcases answered' : evaluator'.answer? name key with _ | answer'
        · apply (alike.handOver name key answered).andThen
          apply related.bind
          intro same
          rw [same]
          exact alike.handBack name _
        · rw [answered'] at answers
          cases answers
      · rw [answered] at answers
        rcases answered' : evaluator'.answer? name key with _ | answer'
        · rw [answered'] at answers
          cases answers
        · rw [answered'] at answers
          cases answers with
          | some same => exact same

variable [PatternLanguage]

/-- A flag is evaluated alike if it compares the same attributes, and if the queries that it leads
to are answered alike further inside. -/
theorem related_evaluateFlag {storage storage' : Storage} {stack stack' : Stack} {name : String}
    (asked : congruence.Related Eq (Lookup.ask (.flag name) (storage.flag name))
      (Lookup.ask (.flag name) (storage'.flag name)))
    (entered : ∀ flag, (storage.flag name).value = .ok (some flag) →
      (flag.name ∈ stack.flags ↔ flag.name ∈ stack'.flags))
    (compared : ∀ flag, (storage.flag name).value = .ok (some flag) →
      ∀ selected ∈ flag.attributes, attributes.lookup selected = attributes'.lookup selected)
    (deeper : ∀ flag, (storage.flag name).value = .ok (some flag) → flag.name ∉ stack.flags →
      ∀ query ∈ flag.queries, (inside (stack.enterFlag flag.name)).Alike congruence
        (inside' (stack'.enterFlag flag.name)) query) (key : Key) :
    congruence.Related Eq
      (storage.evaluateFlag attributes stack (fun name _ _ => inside (stack.enterFlag name)) name
        key)
      (storage'.evaluateFlag attributes' stack' (fun name _ _ => inside' (stack'.enterFlag name))
        name key) := by
  rw [Storage.evaluateFlag_eq, Storage.evaluateFlag_eq]
  apply asked.bind
  intro same
  rw [← same]
  apply Storage.related_foundFlag entered
  intro flag compiled found compiles fresh
  apply CompiledFlag.related_evaluateIn_of_flag compiles
  exact ⟨rfl, compared flag found, deeper flag found fresh⟩

/-- A membership is decided alike if the segment compares the same attributes, and if the queries
that it leads to are answered alike further inside. -/
theorem related_hasKey {storage storage' : Storage} {stack stack' : Stack} {name : String}
    (asked : congruence.Related Eq (Lookup.ask (.ruleBased name) (storage.ruleBased name))
      (Lookup.ask (.ruleBased name) (storage'.ruleBased name)))
    (entered : name ∈ stack.segments ↔ name ∈ stack'.segments)
    (compared : ∀ segment, (storage.ruleBased name).value = .ok (some segment) →
      ∀ selected ∈ segment.attributes, attributes.lookup selected = attributes'.lookup selected)
    (deeper : ∀ segment, (storage.ruleBased name).value = .ok (some segment) →
      name ∉ stack.segments → ∀ query ∈ segment.queries,
        (inside (stack.enterSegment name)).Alike congruence (inside' (stack'.enterSegment name))
          query) (key : Key) :
    congruence.Related Eq
      (storage.hasKey attributes stack (fun name _ _ => inside (stack.enterSegment name)) name key)
      (storage'.hasKey attributes' stack' (fun name _ _ => inside' (stack'.enterSegment name)) name
        key) := by
  rw [Storage.hasKey_eq, Storage.hasKey_eq]
  by_cases inSegment : name ∈ stack.segments
  · have inSegment' := entered.mp inSegment
    simp only [inSegment, inSegment', if_true]
    exact Lookup.Congruence.related_ready rfl
  · have fresh' : name ∉ stack'.segments := mt entered.mpr inSegment
    simp only [inSegment, fresh', if_false]
    apply asked.bind
    intro same
    rw [← same]
    apply Storage.related_foundRuleBased
    intro segment found
    apply RuleBasedSegment.related_hasKey_of_segment
    exact ⟨rfl, compared segment found, deeper segment found inSegment⟩

section Compared

variable (closed : left.storage.Closed known entered)
  (alike : left.AnswersAlike congruence known right)
  (compared : ∀ name, left.storage.Compares known name →
    left.attributes.lookup name = right.attributes.lookup name)

include closed alike compared

/-- One level of the induction for a flag. -/
theorem evaluate_alike_of_deeper {stack stack' : Stack}
    (sameNames : stack.Alike entered stack') {name : String} (queried : known (.flag name))
    (deeper : ∀ flag, (left.storage.flag name).value = .ok (some flag) →
      flag.name ∉ stack.flags → ∀ query, known query →
        (left.surroundings (stack.enterFlag flag.name)).Alike congruence
          (right.surroundings (stack'.enterFlag flag.name)) query) (key : Key) :
    congruence.Related Eq (left.evaluate stack name key) (right.evaluate stack' name key) := by
  apply related_evaluateFlag (alike.flag queried)
  · intro flag found
    exact sameNames.flags (closed.flag queried found).1
  · intro flag found selected compares
    exact compared selected (.flag queried found compares)
  · intro flag found fresh next asked
    exact deeper flag found fresh next ((closed.flag queried found).2 next asked)

/-- Backends that answer the known queries alike, and agree on the attributes that are compared on
the way, have surroundings that answer the known queries alike. -/
theorem surroundings_alike_of_compared {stack stack' : Stack}
    (sameNames : stack.Alike entered stack') {query : Query} (queried : known query) :
    (left.surroundings stack).Alike congruence (right.surroundings stack') query := by
  -- The induction is on the names that can still be entered: every level inwards enters one.
  cases query with
  | flag name =>
      intro key
      rw [evaluation_eq, evaluation_eq]
      apply related_dependency alike.evaluator
      apply evaluate_alike_of_deeper closed alike compared sameNames queried
      intro flag found fresh next asked
      have deeper := left.storage.depth_enterFlag_lt (left.storage.flag_mem found) fresh
      exact surroundings_alike_of_compared (sameNames.enterFlag flag.name) asked
  | ruleBased name =>
      intro key
      rw [surroundings_eq_layer, surroundings_eq_layer]
      apply related_hasKey (alike.ruleBased queried) (sameNames.segments (closed.segment queried))
      · intro segment found selected compares
        exact compared selected (.ruleBased queried found compares)
      · intro segment found fresh next asked
        have deeper := left.storage.depth_enterSegment_lt (left.storage.ruleBased_mem found) fresh
        exact surroundings_alike_of_compared (sameNames.enterSegment name)
          (closed.ruleBased queried found next asked)
  | segment name =>
      rw [surroundings_eq_layer, surroundings_eq_layer]
      exact alike.segment queried
  | largeSegment name =>
      rw [surroundings_eq_layer, surroundings_eq_layer]
      exact alike.largeSegment queried
termination_by left.storage.depth stack

theorem evaluate_alike_of_compared {stack stack' : Stack}
    (sameNames : stack.Alike entered stack') {name : String} (queried : known (.flag name))
    (key : Key) :
    congruence.Related Eq (left.evaluate stack name key) (right.evaluate stack' name key) := by
  apply evaluate_alike_of_deeper closed alike compared sameNames queried
  intro flag _ _ next asked
  exact surroundings_alike_of_compared closed alike compared (sameNames.enterFlag flag.name) asked

end Compared

theorem surroundings_alike (closed : left.storage.Closed known entered)
    (alike : left.Alike congruence known right) {stack stack' : Stack}
    (sameNames : stack.Alike entered stack') {query : Query} (queried : known query) :
    (left.surroundings stack).Alike congruence (right.surroundings stack') query :=
  surroundings_alike_of_compared closed alike.toAnswersAlike (fun _ _ => by rw [alike.attributes])
    sameNames queried

theorem evaluate_alike (closed : left.storage.Closed known entered)
    (alike : left.Alike congruence known right) {stack stack' : Stack}
    (sameNames : stack.Alike entered stack') {name : String} (queried : known (.flag name))
    (key : Key) :
    congruence.Related Eq (left.evaluate stack name key) (right.evaluate stack' name key) :=
  evaluate_alike_of_compared closed alike.toAnswersAlike (fun _ _ => by rw [alike.attributes])
    sameNames queried key

theorem context_alike (alike : left.Alike congruence (fun _ => True) right) (stack : Stack)
    (key : Key) (queries : List Query) :
    Context.Alike congruence queries (left.context stack key) (right.context stack key) where
  key := rfl
  attributes := alike.attributes
  surroundings _ _ := surroundings_alike (closed_everything _) alike (.refl _ stack) trivial

end Backend

end Targeting
