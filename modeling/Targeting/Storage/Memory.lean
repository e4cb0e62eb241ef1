import Targeting.Storage.Basic

/-!
# Definitions in memory

Flags and segments kept in lists, as a storage. Which questions fail and which answers are pending
is given from outside, so that the behaviour of a slow or broken backend can be had as well.
-/

namespace Targeting

/-- A question to a storage, apart from the key. -/
inductive Query where
  | flag (name : String)
  | segment (name : String)
  | largeSegment (name : String)
  | ruleBased (name : String)
deriving DecidableEq, Repr

/-- Flags and segments by name. -/
structure Memory where
  flags : List Flag := []
  ruleBased : List RuleBasedSegment := []
  /-- The keys of each segment. -/
  segments : List (String × List String) := []
  /-- The keys of each large segment. -/
  largeSegments : List (String × List String) := []

namespace Memory

/-- Store a flag under its name. -/
def putFlag (memory : Memory) (flag : Flag) : Memory :=
  { memory with flags := flag :: memory.flags.filter (·.name != flag.name) }

/-- Remove the flag with a name. -/
def removeFlag (memory : Memory) (name : String) : Memory :=
  { memory with flags := memory.flags.filter (·.name != name) }

/-- The flag with a name. -/
def flag? (memory : Memory) (name : String) : Option Flag :=
  memory.flags.find? (·.name == name)

/-- Store a rule-based segment under its name. -/
def putRuleBased (memory : Memory) (segment : RuleBasedSegment) : Memory :=
  { memory with ruleBased := segment :: memory.ruleBased.filter (·.name != segment.name) }

/-- Remove the rule-based segment with a name. -/
def removeRuleBased (memory : Memory) (name : String) : Memory :=
  { memory with ruleBased := memory.ruleBased.filter (·.name != name) }

/-- The rule-based segment with a name. -/
def ruleBased? (memory : Memory) (name : String) : Option RuleBasedSegment :=
  memory.ruleBased.find? (·.name == name)

/-- Replace the keys of a segment. -/
def setSegment (memory : Memory) (name : String) (keys : List String) : Memory :=
  { memory with segments := (name, keys) :: memory.segments }

/-- Replace the keys of a large segment. -/
def setLargeSegment (memory : Memory) (name : String) (keys : List String) : Memory :=
  { memory with largeSegments := (name, keys) :: memory.largeSegments }

/-- Whether one of the named lists of keys has a key. -/
def hasKey (segments : List (String × List String)) (name key : String) : Bool :=
  (segments.lookup name).any (·.contains key)

theorem name_of_flag? {memory : Memory} {name : String} {flag : Flag}
    (found : memory.flag? name = some flag) : flag.name = name := by
  simpa using List.find?_some found

theorem name_of_ruleBased? {memory : Memory} {name : String} {segment : RuleBasedSegment}
    (found : memory.ruleBased? name = some segment) : segment.name = name := by
  simpa using List.find?_some found

end Memory

/-- How a backend answers its questions. -/
structure Availability where
  /-- The message with which a question fails. -/
  failure? : Query → Option String := fun _ => none
  /-- Whether the answer to a question is pending. -/
  isPending : Query → Bool := fun _ => false

namespace Availability

variable {α : Type}

/-- The answer to a question, given what it would be. -/
def answer (availability : Availability) (query : Query) (value : α) :
    Answer (Except StorageError α) :=
  let result :=
    match availability.failure? query with
    | some message => .error (.backend message)
    | none => .ok value
  if availability.isPending query then .pending result else .ready result

theorem eq_of_answer_ok {availability : Availability} {query : Query} {value found : α}
    (answered : (availability.answer query value).value = .ok found) : value = found := by
  simp only [answer] at answered
  cases failure : availability.failure? query <;> cases pending : availability.isPending query <;>
    simp_all

end Availability

namespace Memory

/-- Definitions in memory as a storage. -/
def toStorage (memory : Memory) (availability : Availability) : Storage where
  flag name := availability.answer (.flag name) (memory.flag? name)
  segment name key := availability.answer (.segment name) (hasKey memory.segments name key)
  largeSegment name key :=
    availability.answer (.largeSegment name) (hasKey memory.largeSegments name key)
  ruleBased name := availability.answer (.ruleBased name) (memory.ruleBased? name)
  flagNames := memory.flags.map (·.name)
  ruleBasedNames := memory.ruleBased.map (·.name)
  flag_mem answered :=
    List.mem_map_of_mem (List.mem_of_find?_eq_some (Availability.eq_of_answer_ok answered))
  ruleBased_mem answered := by
    have found := Availability.eq_of_answer_ok answered
    rw [← name_of_ruleBased? found]
    exact List.mem_map_of_mem (List.mem_of_find?_eq_some found)

end Memory

end Targeting
