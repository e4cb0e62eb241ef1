import Targeting.Proofs.Congruence

/-!
# Choosing among alternatives

How far `Lookup.firstDecision` goes through its alternatives, and what it makes of their answers. A
decision that is pending may turn out to be none, so that the choice has to look at what comes after
it; it looks no further than the first decision at hand. What it settles to is the first decision in
order all the same, and it is pending exactly if an answer that it looked at is.

`Lookup.gather` is the same choice as one pass over the alternatives. It keeps what may still
decide, and in the end awaits all of it together. Its invariant is that everything kept so far is
pending: the first decision at hand ends the pass.
-/

namespace Targeting

/-- A list up to and including the first item of which something holds, or the whole list if it
holds of none. -/
inductive UpToFirst {ι : Type} (Holds : ι → Prop) : List ι → List ι → Prop where
  | found {before after : List ι} {first : ι} (earlier : ∀ item ∈ before, ¬Holds item)
      (holds : Holds first) : UpToFirst Holds (before ++ first :: after) (before ++ [first])
  | exhausted {items : List ι} (never : ∀ item ∈ items, ¬Holds item) : UpToFirst Holds items items

theorem exists_upToFirst {ι : Type} (Holds : ι → Prop) (items : List ι) :
    ∃ taken, UpToFirst Holds items taken := by
  induction items with
  | nil => exact ⟨[], .exhausted (by simp)⟩
  | cons item rest ih =>
      by_cases holds : Holds item
      · refine ⟨[item], ?_⟩
        change UpToFirst Holds ([] ++ item :: rest) ([] ++ [item])
        exact .found (by simp) holds
      · rcases ih with ⟨taken, upTo⟩
        cases upTo with
        | @found before after first earlier found =>
            refine ⟨item :: before ++ [first], ?_⟩
            rw [← List.cons_append]
            exact .found (List.forall_mem_cons.mpr ⟨holds, earlier⟩) found
        | exhausted never => exact ⟨_, .exhausted (List.forall_mem_cons.mpr ⟨holds, never⟩)⟩

namespace Lookup

variable {ε α ι : Type} {first second : Lookup ε (Option α)} {decision : ι → Lookup ε (Option α)}

/-- There is a decision, and it is at hand. -/
def DecidesAtHand (lookup : Lookup ε (Option α)) : Prop :=
  lookup.isReady = true ∧ lookup.value.isSome = true

theorem orElse_of_decidesAtHand (decides : first.DecidesAtHand) : first.orElse second = first := by
  rcases decides with ⟨atHand, decided⟩
  apply ext_of
  · rw [value_orElse, Option.or_of_isSome decided]
  · rw [isReady_orElse, atHand, decided]
    rfl
  · rw [calls_orElse, atHand, decided]
    rfl

theorem isReady_orElse_of_open (stillOpen : ¬first.DecidesAtHand) :
    (first.orElse second).isReady = (first.isReady && second.isReady) := by
  rw [isReady_orElse]
  rcases atHand : first.isReady with _ | _
  · rfl
  · have abstains : first.value.isSome = false := by
      simpa [DecidesAtHand, atHand] using stillOpen
    rw [abstains, Bool.false_or]

theorem calls_orElse_of_open (stillOpen : ¬first.DecidesAtHand) :
    (first.orElse second).calls = first.calls ++ second.calls := by
  rw [calls_orElse, if_neg]
  simpa [DecidesAtHand] using stillOpen

theorem orElse_ready_none (lookup : Lookup ε (Option α)) : lookup.orElse (ready none) = lookup := by
  apply ext_of
  · simp
  · simp [isReady_orElse]
  · simp [calls_orElse]

theorem value_firstDecision (decision : ι → Lookup ε (Option α)) (alternatives : List ι) :
    (firstDecision decision alternatives).value =
      alternatives.findSome? fun alternative => (decision alternative).value := by
  induction alternatives with
  | nil => rfl
  | cons alternative rest ih =>
      rw [firstDecision_cons, value_orElse, ih, List.findSome?_cons]
      rcases (decision alternative).value with _ | chosen
      · rfl
      · rfl

/-- Alternatives without a decision at hand are looked up one after the other. -/
theorem firstDecision_append_of_open {before : List ι}
    (stillOpen : ∀ alternative ∈ before, ¬(decision alternative).DecidesAtHand) (rest : List ι) :
    (firstDecision decision (before ++ rest)).calls =
        (before.flatMap fun alternative => (decision alternative).calls) ++
          (firstDecision decision rest).calls ∧
      (firstDecision decision (before ++ rest)).isReady =
        (before.all (fun alternative => (decision alternative).isReady) &&
          (firstDecision decision rest).isReady) := by
  induction before with
  | nil => simp
  | cons alternative later ih =>
      rcases List.forall_mem_cons.mp stillOpen with ⟨first, others⟩
      rcases ih others with ⟨calls, readiness⟩
      rw [List.cons_append, firstDecision_cons, calls_orElse_of_open first,
        isReady_orElse_of_open first, calls, readiness]
      simp [Bool.and_assoc]

theorem firstDecision_of_upToFirst {alternatives asked : List ι}
    (upTo : UpToFirst (fun alternative => (decision alternative).DecidesAtHand) alternatives
      asked) :
    (firstDecision decision alternatives).calls =
        (asked.flatMap fun alternative => (decision alternative).calls) ∧
      (firstDecision decision alternatives).isReady =
        asked.all fun alternative => (decision alternative).isReady := by
  cases upTo with
  | @found before after decisive earlier decides =>
      have stops : firstDecision decision (decisive :: after) = decision decisive := by
        rw [firstDecision_cons, orElse_of_decidesAtHand decides]
      rw [(firstDecision_append_of_open earlier _).1, (firstDecision_append_of_open earlier _).2,
        stops]
      simp
  | exhausted never =>
      have all := firstDecision_append_of_open never []
      simpa [firstDecision] using all

/-- A lookup before which other calls were made. -/
def after (lookup : Lookup ε α) (earlier : List ε) : Lookup ε α :=
  ⟨lookup.answer, earlier ++ lookup.calls⟩

/-- The first decision among answers that are awaited together. -/
def awaited (answers : List (Answer (Option α))) : Lookup ε (Option α) where
  answer := (Answer.collect answers).map fun decisions => decisions.findSome? id
  calls := []

/-- One pass over alternatives. A pending answer is gathered, and so is a decision at hand that
comes after one; it ends the pass. A decision at hand before anything is gathered is the result. -/
def gather (decision : ι → Lookup ε (Option α)) (gathered : List (Answer (Option α))) :
    List ι → Lookup ε (Option α)
  | [] => if gathered.isEmpty then ready none else awaited gathered
  | alternative :: rest =>
      let lookup := decision alternative
      match lookup.answer with
      | .ready none => (gather decision gathered rest).after lookup.calls
      | .ready (some chosen) =>
          if gathered.isEmpty then lookup
          else (awaited (gathered ++ [.ready (some chosen)])).after lookup.calls
      | .pending chosen =>
          (gather decision (gathered ++ [.pending chosen]) rest).after lookup.calls

@[simp]
theorem value_after (lookup : Lookup ε α) (earlier : List ε) :
    (lookup.after earlier).value = lookup.value := rfl

@[simp]
theorem isReady_after (lookup : Lookup ε α) (earlier : List ε) :
    (lookup.after earlier).isReady = lookup.isReady := rfl

@[simp]
theorem calls_after (lookup : Lookup ε α) (earlier : List ε) :
    (lookup.after earlier).calls = earlier ++ lookup.calls := rfl

@[simp]
theorem value_awaited (answers : List (Answer (Option α))) :
    (awaited answers : Lookup ε (Option α)).value = answers.findSome? Answer.value := by
  rw [value, awaited, Answer.value_map, Answer.value_collect, List.findSome?_map]
  rfl

@[simp]
theorem isReady_awaited (answers : List (Answer (Option α))) :
    (awaited answers : Lookup ε (Option α)).isReady = answers.all Answer.isReady := by
  rw [isReady, awaited, Answer.isReady_map, Answer.isReady_collect]

@[simp]
theorem calls_awaited (answers : List (Answer (Option α))) :
    (awaited answers : Lookup ε (Option α)).calls = [] := rfl

/-- What has been gathered decides nothing yet. -/
theorem open_awaited {gathered : List (Answer (Option α))}
    (waiting : ∀ answer ∈ gathered, answer.isReady = false) :
    ¬(awaited gathered : Lookup ε (Option α)).DecidesAtHand := by
  rintro ⟨atHand, decided⟩
  rw [value_awaited] at decided
  rw [isReady_awaited] at atHand
  rcases gathered with _ | ⟨answer, others⟩
  · cases decided
  · rw [List.all_cons, waiting answer List.mem_cons_self] at atHand
    cases atHand

/-- A pass that has gathered nothing but pending answers goes on as the choice among the remaining
alternatives would, for the case that what it has gathered decides nothing. -/
theorem gather_eq_orElse (decision : ι → Lookup ε (Option α)) {gathered : List (Answer (Option α))}
    (waiting : ∀ answer ∈ gathered, answer.isReady = false) (alternatives : List ι) :
    gather decision gathered alternatives =
      (awaited gathered).orElse (firstDecision decision alternatives) := by
  induction alternatives generalizing gathered with
  | nil =>
      rw [gather, firstDecision, orElse_ready_none]
      rcases gathered with _ | ⟨answer, others⟩
      · rfl
      · rfl
  | cons alternative rest ih =>
      have stillOpen := open_awaited (ε := ε) waiting
      rw [gather, firstDecision_cons]
      rcases answered : (decision alternative).answer with (_ | chosen) | chosen
      · have abstains : (decision alternative).value = none := congrArg Answer.value answered
        have atHand : (decision alternative).isReady = true := congrArg Answer.isReady answered
        dsimp only
        rw [ih waiting]
        apply ext_of
        · simp [abstains]
        · simp [isReady_orElse_of_open stillOpen, isReady_orElse, abstains, atHand]
        · simp [calls_orElse_of_open stillOpen, calls_orElse, abstains]
      · have decided : (decision alternative).value = some chosen :=
          congrArg Answer.value answered
        have atHand : (decision alternative).isReady = true := congrArg Answer.isReady answered
        have decides : (decision alternative).DecidesAtHand := ⟨atHand, by rw [decided]; rfl⟩
        rw [orElse_of_decidesAtHand decides]
        dsimp only
        split
        · next nothing =>
            rw [List.isEmpty_iff.mp nothing]
            rfl
        · apply ext_of
          · simp [decided]
          · simp [isReady_orElse_of_open stillOpen, atHand]
          · simp [calls_orElse_of_open stillOpen]
      · have chooses : (decision alternative).value = chosen := congrArg Answer.value answered
        have pending : (decision alternative).isReady = false := congrArg Answer.isReady answered
        have undecided : ¬(decision alternative).DecidesAtHand := by simp [DecidesAtHand, pending]
        have waiting' : ∀ answer ∈ gathered ++ [.pending chosen], answer.isReady = false := by
          simpa [or_imp, forall_and] using waiting
        have stillOpen' := open_awaited (ε := ε) waiting'
        dsimp only
        rw [ih waiting']
        apply ext_of
        · simp [chooses, Option.or_assoc]
        · simp [isReady_orElse_of_open stillOpen, isReady_orElse_of_open stillOpen',
            isReady_orElse_of_open undecided, pending]
        · simp [calls_orElse_of_open stillOpen, calls_orElse_of_open stillOpen',
            calls_orElse_of_open undecided]

/-- The same alternatives, with nothing but themselves as their calls. -/
def recording (decision : ι → Lookup ε (Option α)) (alternative : ι) : Lookup ι (Option α) :=
  ⟨(decision alternative).answer, [alternative]⟩

/-- A choice settles to the first decision in order. It looks up the alternatives up to and
including the first that decides at hand, or all of them if none does, each once and in order, and
is at hand exactly if all of these are. The pass that awaits pending answers together comes to the
same. -/
theorem takes_first_decision (decision : ι → Lookup ε (Option α)) (alternatives : List ι) :
    (firstDecision decision alternatives).value =
        (alternatives.findSome? fun alternative => (decision alternative).value) ∧
      (∃ asked,
        UpToFirst (fun alternative => (decision alternative).DecidesAtHand) alternatives asked ∧
          (firstDecision (recording decision) alternatives).calls = asked ∧
          (firstDecision decision alternatives).calls =
            (asked.flatMap fun alternative => (decision alternative).calls) ∧
          ((firstDecision decision alternatives).isReady = true ↔
            ∀ alternative ∈ asked, (decision alternative).isReady = true)) ∧
      gather decision [] alternatives = firstDecision decision alternatives := by
  refine ⟨value_firstDecision decision alternatives, ?_, ?_⟩
  · rcases exists_upToFirst (fun alternative => (decision alternative).DecidesAtHand)
      alternatives with ⟨asked, upTo⟩
    have upTo' : UpToFirst (fun alternative => (recording decision alternative).DecidesAtHand)
        alternatives asked := upTo
    have recorded := firstDecision_of_upToFirst upTo'
    have looked := firstDecision_of_upToFirst upTo
    refine ⟨asked, upTo, ?_, looked.1, ?_⟩
    · rw [recorded.1]
      exact List.flatMap_singleton' asked
    · rw [looked.2, List.all_eq_true]
  · rw [gather_eq_orElse decision (by simp)]
    rfl

example :
    firstDecision (ε := Nat) id
      [⟨.pending none, [1]⟩, ⟨.ready (some "on"), [2]⟩, ⟨.ready (some "off"), [3]⟩] =
      ⟨.pending (some "on"), [1, 2]⟩ := rfl

end Lookup

end Targeting
