import Targeting.Pattern.Standard
import Targeting.Proofs.Nested

/-!
# What an evaluation depends on

Whatever else a storage holds and whatever else is known of a key, the evaluation of a flag depends
on nothing but the definitions and segments that the flag reaches, and on the attributes that the
definitions on the way compare. Where two backends agree on these, they cannot be told apart: not by
the result, not by what is pending, and not by the calls.

This holds for definitions that are stored under other names than their own as well. The two
evaluations have the same stack to begin with, and enter the same names, so that no name is cut off
in one of them only.
-/

namespace Targeting

open Lookup.Congruence

namespace Storage

variable {storage : Storage}

/-- Nothing leads out of what can be reached, whatever names are entered on the way. -/
theorem closed_reaches_of_any_name (storage : Storage) (start : Query) :
    storage.Closed (storage.Reaches start) (fun _ => True) where
  flag reached found := ⟨trivial, fun _ asked => reached.tail (.flag found asked)⟩
  segment _ := trivial
  ruleBased reached found _ asked := reached.tail (.ruleBased found asked)

theorem Closed.leads {known entered : Query → Prop} (closed : storage.Closed known entered)
    {query next : Query} (leads : storage.Leads query next) (queried : known query) :
    known next := by
  cases leads with
  | flag found asked => exact (closed.flag queried found).2 next asked
  | ruleBased found asked => exact closed.ruleBased queried found next asked

theorem Closed.reaches {known entered : Query → Prop} (closed : storage.Closed known entered)
    {start query : Query} (reached : storage.Reaches start query) (queried : known start) :
    known query := by
  induction reached with
  | refl => exact queried
  | tail _ leads ih => exact closed.leads leads ih

end Storage

namespace Backend

variable {left right : Backend}

theorem answersAlike_of_agrees (default : left.evaluator? = none)
    (default' : right.evaluator? = none) {known : Query → Prop}
    (agree : ∀ query, known query → left.storage.Agrees right.storage query) :
    left.AnswersAlike (identical Call) known right where
  flag {name} queried := by
    have same : left.storage.flag name = right.storage.flag name := agree _ queried
    rw [same, related_identical_iff]
  segment {name} queried key := by
    have same : ∀ key, left.storage.segment name key = right.storage.segment name key :=
      agree _ queried
    rw [same, related_identical_iff]
  largeSegment {name} queried key := by
    have same : ∀ key, left.storage.largeSegment name key = right.storage.largeSegment name key :=
      agree _ queried
    rw [same, related_identical_iff]
  ruleBased {name} queried := by
    have same : left.storage.ruleBased name = right.storage.ruleBased name := agree _ queried
    rw [same, related_identical_iff]
  evaluator := by
    rw [default, default']
    exact .none

/-- An evaluation depends on nothing but what its flag reaches. Two storages that agree on every
flag and every segment of any kind that a flag leads to, in any number of steps, and attributes that
agree wherever a definition on the way compares them, give the flag the same evaluation, pending or
at hand, after the same calls in the same order. Either storage has finitely many definitions. -/
theorem evaluation_within_reach [PatternLanguage] (default : left.evaluator? = none)
    (default' : right.evaluator? = none) {name : String}
    (agree : ∀ query, left.storage.Reaches (.flag name) query →
      left.storage.Agrees right.storage query)
    (compared : ∀ selected, left.storage.Compares (left.storage.Reaches (.flag name)) selected →
      left.attributes.lookup selected = right.attributes.lookup selected)
    (stack : Stack) (key : Key) :
    left.evaluate stack name key = right.evaluate stack name key := by
  apply related_identical_iff.mp
  exact evaluate_alike_of_compared (left.storage.closed_reaches_of_any_name (.flag name))
    (answersAlike_of_agrees default default' agree) compared (.refl _ stack) .refl key

/-- A reading room for librarians and for students of this year, once there is a catalogue. -/
def readingRoom : Flag where
  name := "reading room"
  prerequisites := [⟨"catalogue", ["on"]⟩]
  conditions :=
    [⟨.whitelist, [{ kindName := "IN_SEGMENT", segment := some "librarians" }], [⟨"on", 100⟩],
        "librarian"⟩,
      ⟨.whitelist, [{ kindName := "IN_RULE_BASED_SEGMENT", segment := some "students" }],
        [⟨"on", 100⟩], "student"⟩]

/-- The catalogue is there for everyone. -/
def catalogue : Flag where
  name := "catalogue"
  conditions := [⟨.whitelist, [{ kindName := "ALL_KEYS" }], [⟨"on", 100⟩], "everyone"⟩]

/-- Students of this year, unless they are banned. -/
def students : RuleBasedSegment where
  name := "students"
  excluded := { segments := [⟨.large, "banned"⟩] }
  conditions :=
    [⟨.whitelist,
        [{ kindName := "WHITELIST", keySelector := some ⟨none, some "year"⟩,
           whitelist := some ["2024"] }], [], ""⟩]

/-- A library. -/
def library : Backend where
  storage :=
    Memory.toStorage
      { flags := [readingRoom, catalogue], ruleBased := [students]
        segments := [("librarians", ["alice"])] } {}
  attributes := [("year", .string "2024")]

/-- The library after it has got a café, for which it has to know the age of its visitors. -/
def libraryWithCafe : Backend where
  storage :=
    Memory.toStorage
      { flags := [{ name := "cafe" }, readingRoom, catalogue], ruleBased := [students]
        segments := [("waiters", ["bob"]), ("librarians", ["alice"])] }
      { isPending := fun query => query = .segment "waiters" }
  attributes := [("age", .number (Double.ofInt 20)), ("year", .string "2024")]

/-- What the reading room reaches. -/
def aroundReadingRoom : List Query :=
  [.flag "reading room", .flag "catalogue", .segment "librarians", .ruleBased "students",
    .largeSegment "banned"]

theorem flag_library {name : String} {flag : Flag} (queried : .flag name ∈ aroundReadingRoom)
    (found : (library.storage.flag name).value = .ok (some flag)) :
    flag = readingRoom ∨ flag = catalogue := by
  simp only [aroundReadingRoom, List.mem_cons, Query.flag.injEq, reduceCtorEq, List.not_mem_nil,
    or_false] at queried
  rcases queried with rfl | rfl
  · cases Except.ok.inj found
    exact .inl rfl
  · cases Except.ok.inj found
    exact .inr rfl

theorem ruleBased_library {name : String} {segment : RuleBasedSegment}
    (queried : .ruleBased name ∈ aroundReadingRoom)
    (found : (library.storage.ruleBased name).value = .ok (some segment)) :
    segment = students := by
  simp only [aroundReadingRoom, List.mem_cons, Query.ruleBased.injEq, reduceCtorEq,
    List.not_mem_nil, or_false, false_or] at queried
  subst queried
  cases Except.ok.inj found
  rfl

theorem closed_library :
    library.storage.Closed (· ∈ aroundReadingRoom) (fun _ => True) where
  flag queried found := by
    refine ⟨trivial, ?_⟩
    rcases flag_library queried found with rfl | rfl
    · decide
    · decide
  segment _ := trivial
  ruleBased queried found := by
    rw [ruleBased_library queried found]
    decide

theorem evaluation_within_reach_library :
    (∀ query, library.storage.Reaches (.flag "reading room") query →
      library.storage.Agrees libraryWithCafe.storage query) ∧
      ¬library.storage.Agrees libraryWithCafe.storage (.flag "cafe") ∧
      (∀ key, library.evaluate {} "reading room" key =
        libraryWithCafe.evaluate {} "reading room" key) ∧
      (library.evaluate {} "reading room" (.ofMatching "bob")).value.label = "student" := by
  have agree : ∀ query, library.storage.Reaches (.flag "reading room") query →
      library.storage.Agrees libraryWithCafe.storage query := by
    intro query reached
    have near : query ∈ aroundReadingRoom := closed_library.reaches reached (by decide)
    simp only [aroundReadingRoom, List.mem_cons, List.not_mem_nil, or_false] at near
    rcases near with rfl | rfl | rfl | rfl | rfl
    · rfl
    · rfl
    · exact fun _ => rfl
    · rfl
    · exact fun _ => rfl
  have compared : ∀ name,
      library.storage.Compares (library.storage.Reaches (.flag "reading room")) name →
        library.attributes.lookup name = libraryWithCafe.attributes.lookup name := by
    intro name compares
    have year : name = "year" := by
      cases compares with
      | flag reached found compares =>
          rcases flag_library (closed_library.reaches reached (by decide)) found with rfl | rfl
          · cases compares
          · cases compares
      | ruleBased reached found compares =>
          rw [ruleBased_library (closed_library.reaches reached (by decide)) found] at compares
          exact List.mem_singleton.mp compares
    rw [year]
    rfl
  refine ⟨agree, ?_, ?_, ?_⟩
  · intro same
    cases congrArg Answer.value same
  · exact evaluation_within_reach rfl rfl agree compared {}
  · decide +kernel

end Backend

end Targeting
