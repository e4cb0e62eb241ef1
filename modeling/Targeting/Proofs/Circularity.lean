import Targeting.Proofs.Precedence

/-!
# Where the order of versions runs in a circle

The order of versions is not transitive. Two numbers are compared by value, but a number and another
identifier by their bytes, which put "10" before "1a" and "1a" before "9" although nine is less than
ten. Any comparison of just two versions looks right, and it is the reverse of the comparison the
other way round.

This is the only way in which transitivity fails. Of two numbers the one with more digits is larger,
and if its bytes come first nevertheless, a word may stand between them (`Wedged`). Three versions
of which none is after the next run in a circle exactly if their numbers are the same and the first
identifiers in which they differ are two such numbers and such a word (`order_runs_in_circle`). The
word starts with a digit, so nothing goes wrong where only numbers do.
-/

namespace Targeting.Version

/-! ## Identifiers in a circle -/

/-- A word that is after the larger of two numbers and before the smaller one. -/
structure Wedged (low high word : List Char) : Prop where
  lowNumeric : isNumeric low
  highNumeric : isNumeric high
  noNumber : isNumeric word = false
  longer : low.length < high.length
  afterHigh : compareText high word = .lt
  beforeLow : compareText word low = .lt

/-- Three identifiers of which each is before the next and the last before the first. -/
inductive Circular : List Char → List Char → List Char → Prop
  | fromLow {low high word : List Char} (wedged : Wedged low high word) : Circular low high word
  | fromHigh {low high word : List Char} (wedged : Wedged low high word) : Circular high word low
  | fromWord {low high word : List Char} (wedged : Wedged low high word) : Circular word low high

theorem compareIdentifiers_of_numbers {left right : List Char} (leftNumeric : isNumeric left = true)
    (rightNumeric : isNumeric right = true) :
    compareIdentifiers left right = compareLex (compareOn List.length) compareText left right := by
  rw [compareIdentifiers, leftNumeric, rightNumeric]
  rfl

theorem compareIdentifiers_of_left_word {word : List Char} (noNumber : isNumeric word = false)
    (other : List Char) : compareIdentifiers word other = compareText word other := by
  rw [compareIdentifiers, noNumber]
  rfl

theorem compareIdentifiers_of_right_word {word : List Char} (noNumber : isNumeric word = false)
    (other : List Char) : compareIdentifiers other word = compareText other word := by
  rw [compareIdentifiers, noNumber, Bool.and_false]
  rfl

/-- A transitive order never runs in a circle. -/
theorem no_circle {α : Type} {cmp : α → α → Ordering} [Std.TransCmp cmp] {first second third : α}
    (firstSecond : cmp first second = .lt) (secondThird : cmp second third = .lt) :
    cmp third first ≠ .lt := by
  intro thirdFirst
  have firstThird := Std.TransCmp.lt_trans firstSecond secondThird
  rw [← Std.OrientedCmp.gt_iff_lt, firstThird] at thirdFirst
  cases thirdFirst

theorem Wedged.steps {low high word : List Char} (wedged : Wedged low high word) :
    compareIdentifiers low high = .lt ∧ compareIdentifiers high word = .lt ∧
      compareIdentifiers word low = .lt := by
  refine ⟨?_, ?_, ?_⟩
  · rw [compareIdentifiers_of_numbers wedged.lowNumeric wedged.highNumeric, compareLex, compareOn,
      Nat.compare_eq_lt.mpr wedged.longer]
    rfl
  · rw [compareIdentifiers_of_right_word wedged.noNumber, wedged.afterHigh]
  · rw [compareIdentifiers_of_left_word wedged.noNumber, wedged.beforeLow]

theorem wedged_of_steps {low high word : List Char} (lowNumeric : isNumeric low = true)
    (highNumeric : isNumeric high = true) (noNumber : isNumeric word = false)
    (lowHigh : compareIdentifiers low high = .lt) (highWord : compareIdentifiers high word = .lt)
    (wordLow : compareIdentifiers word low = .lt) : Wedged low high word := by
  rw [compareIdentifiers_of_right_word noNumber] at highWord
  rw [compareIdentifiers_of_left_word noNumber] at wordLow
  rw [compareIdentifiers_of_numbers lowNumeric highNumeric, compareLex, Ordering.then_eq_lt]
    at lowHigh
  rcases lowHigh with longer | ⟨_, lowHigh⟩
  · exact ⟨lowNumeric, highNumeric, noNumber, Nat.compare_eq_lt.mp longer, highWord, wordLow⟩
  · exact absurd wordLow (no_circle lowHigh highWord)

theorem circular_iff {first second third : List Char} :
    Circular first second third ↔
      compareIdentifiers first second = .lt ∧ compareIdentifiers second third = .lt ∧
        compareIdentifiers third first = .lt := by
  constructor
  · intro circular
    cases circular with
    | fromLow wedged => exact wedged.steps
    | fromHigh wedged => exact ⟨wedged.steps.2.1, wedged.steps.2.2, wedged.steps.1⟩
    | fromWord wedged => exact ⟨wedged.steps.2.2, wedged.steps.1, wedged.steps.2.1⟩
  · rintro ⟨firstSecond, secondThird, thirdFirst⟩
    -- Only two numbers and a word are compared in both ways.
    cases firstNumeric : isNumeric first <;> cases secondNumeric : isNumeric second <;>
      cases thirdNumeric : isNumeric third
    case false.true.true =>
      exact .fromWord (wedged_of_steps secondNumeric thirdNumeric firstNumeric secondThird
        thirdFirst firstSecond)
    case true.false.true =>
      exact .fromHigh (wedged_of_steps thirdNumeric firstNumeric secondNumeric thirdFirst
        firstSecond secondThird)
    case true.true.false =>
      exact .fromLow (wedged_of_steps firstNumeric secondNumeric thirdNumeric firstSecond
        secondThird thirdFirst)
    case true.true.true =>
      rw [compareIdentifiers_of_numbers firstNumeric secondNumeric] at firstSecond
      rw [compareIdentifiers_of_numbers secondNumeric thirdNumeric] at secondThird
      rw [compareIdentifiers_of_numbers thirdNumeric firstNumeric] at thirdFirst
      exact absurd thirdFirst (no_circle firstSecond secondThird)
    all_goals
      simp only [compareIdentifiers, firstNumeric, secondNumeric, thirdNumeric, Bool.and_false,
        Bool.false_and, Bool.false_eq_true, if_false] at firstSecond secondThird thirdFirst
      exact absurd thirdFirst (no_circle firstSecond secondThird)

/-- What the order of three first identifiers leaves to the identifiers after them. -/
theorem then_eq_gt_iff_circular {first second third : List Char}
    {firstSecond secondThird firstThird : Ordering}
    (notAfterSecond : (compareIdentifiers first second).then firstSecond ≠ .gt)
    (notAfterThird : (compareIdentifiers second third).then secondThird ≠ .gt) :
    (compareIdentifiers first third).then firstThird = .gt ↔
      Circular first second third ∨ (first = second ∧ second = third ∧ firstThird = .gt) := by
  have different : ∀ {left right}, compareIdentifiers left right = .lt → left ≠ right := by
    rintro left _ less rfl
    rw [compareIdentifiers_self] at less
    cases less
  rw [circular_iff, ← Std.OrientedCmp.gt_iff_lt (a := first)]
  cases left : compareIdentifiers first second with
  | gt => exact absurd (by rw [left]; rfl) notAfterSecond
  | eq =>
      cases Std.LawfulEqCmp.eq_of_compare left
      cases right : compareIdentifiers first third with
      | gt => exact absurd (by rw [right]; rfl) notAfterThird
      | eq =>
          cases Std.LawfulEqCmp.eq_of_compare right
          simp
      | lt => simp [different right]
  | lt =>
      cases right : compareIdentifiers second third with
      | gt => exact absurd (by rw [right]; rfl) notAfterThird
      | eq =>
          cases Std.LawfulEqCmp.eq_of_compare right
          simp [left, different left]
      | lt =>
          have notEqual : compareIdentifiers first third ≠ .eq := by
            intro equal
            cases Std.LawfulEqCmp.eq_of_compare equal
            rw [← Std.OrientedCmp.gt_iff_lt, left] at right
            cases right
          simp [Ordering.then_eq_gt, notEqual, different left]

/-! ## Versions in a circle -/

/-- Lists of identifiers that run in a circle where they differ first. -/
inductive CircularLists : List (List Char) → List (List Char) → List (List Char) → Prop
  | here {first second third : List Char} (circular : Circular first second third)
      (firstRest secondRest thirdRest : List (List Char)) :
      CircularLists (first :: firstRest) (second :: secondRest) (third :: thirdRest)
  | later (shared : List Char) {first second third : List (List Char)}
      (circular : CircularLists first second third) :
      CircularLists (shared :: first) (shared :: second) (shared :: third)

/-- Versions with the same numbers whose identifiers run in a circle. -/
structure RunInCircle (first second third : Version) : Prop where
  major : first.major = second.major ∧ second.major = third.major
  minor : first.minor = second.minor ∧ second.minor = third.minor
  patch : first.patch = second.patch ∧ second.patch = third.patch
  preRelease : CircularLists first.preRelease second.preRelease third.preRelease

theorem circularLists_cons_iff {first second third : List Char}
    {firstRest secondRest thirdRest : List (List Char)} :
    CircularLists (first :: firstRest) (second :: secondRest) (third :: thirdRest) ↔
      Circular first second third ∨
        (first = second ∧ second = third ∧ CircularLists firstRest secondRest thirdRest) := by
  constructor
  · intro circular
    cases circular with
    | here circular => exact .inl circular
    | later shared circular => exact .inr ⟨rfl, rfl, circular⟩
  · rintro (circular | ⟨rfl, rfl, circular⟩)
    · exact .here circular _ _ _
    · exact .later _ circular

theorem compareLex_eq_gt_iff {first second third : List (List Char)}
    (firstSecond : List.compareLex compareIdentifiers first second ≠ .gt)
    (secondThird : List.compareLex compareIdentifiers second third ≠ .gt) :
    List.compareLex compareIdentifiers first third = .gt ↔ CircularLists first second third := by
  induction first generalizing second third with
  | nil =>
      constructor
      · cases third <;> nofun
      · nofun
  | cons one ones ih =>
      cases second with
      | nil => exact absurd rfl firstSecond
      | cons two twos =>
          cases third with
          | nil => exact absurd rfl secondThird
          | cons three threes =>
              rw [List.compareLex_cons_cons] at firstSecond secondThird ⊢
              rw [then_eq_gt_iff_circular firstSecond secondThird, circularLists_cons_iff]
              apply or_congr_right
              apply and_congr_right
              rintro rfl
              apply and_congr_right
              rintro rfl
              rw [compareIdentifiers_self, Ordering.eq_then] at firstSecond secondThird
              exact ih firstSecond secondThird

/-- The order of the numbers of two versions and of their stability, which is transitive. -/
def compareCore : Version → Version → Ordering :=
  compareLex (compareOn fun version => Numeral.value version.major) <|
    compareLex (compareOn fun version => Numeral.value version.minor) <|
      compareLex (compareOn fun version => Numeral.value version.patch) (compareOn isStable)

instance : Std.TransCmp compareCore := inferInstanceAs (Std.TransCmp (compareLex _ _))

/-- Where a transitive order has the first say, the second one may reverse the result only if the
first one finds all three equal. -/
theorem then_eq_gt_iff {α : Type} {cmp : α → α → Ordering} [Std.TransCmp cmp]
    {first second third : α} {firstSecond secondThird firstThird : Ordering}
    (notAfterSecond : (cmp first second).then firstSecond ≠ .gt)
    (notAfterThird : (cmp second third).then secondThird ≠ .gt) :
    (cmp first third).then firstThird = .gt ↔
      cmp first second = .eq ∧ cmp second third = .eq ∧ firstThird = .gt := by
  cases left : cmp first second with
  | gt => exact absurd (by rw [left]; rfl) notAfterSecond
  | lt =>
      have notGreater : (cmp second third).isLE := by
        rw [Ordering.isLE_iff_ne_gt]
        intro greater
        exact notAfterThird (by rw [greater]; rfl)
      rw [Std.TransCmp.lt_of_lt_of_isLE left notGreater]
      simp
  | eq =>
      rw [Std.TransCmp.congr_left left]
      cases right : cmp second third with
      | gt => exact absurd (by rw [right]; rfl) notAfterThird
      | lt => simp
      | eq => simp

theorem CircularLists.isEmpty_eq {first second third : List (List Char)}
    (circular : CircularLists first second third) :
    first.isEmpty = second.isEmpty ∧ second.isEmpty = third.isEmpty := by
  cases circular with
  | here => exact ⟨rfl, rfl⟩
  | later => exact ⟨rfl, rfl⟩

namespace Canonical

variable {first second third : Version}

theorem order_eq_then (firstCanonical : first.Canonical) (secondCanonical : second.Canonical) :
    first.order second = (compareCore first second).then
      (List.compareLex compareIdentifiers first.preRelease second.preRelease) := by
  have ⟨major, minor, patch⟩ := firstCanonical.compareNumbers secondCanonical
  rw [firstCanonical.order_eq_compareParts secondCanonical, compareParts, major, minor, patch]
  simp only [compareCore, compareLex, compareOn, Ordering.then_assoc]

theorem compareCore_eq_eq_iff (firstCanonical : first.Canonical)
    (secondCanonical : second.Canonical) :
    compareCore first second = .eq ↔
      first.major = second.major ∧ first.minor = second.minor ∧ first.patch = second.patch ∧
        first.isStable = second.isStable := by
  have ⟨major, minor, patch⟩ := firstCanonical.compareNumbers secondCanonical
  simp only [compareCore, compareLex, compareOn, Ordering.then_eq_eq]
  rw [← major, ← minor, ← patch]
  simp only [Std.LawfulEqCmp.compare_eq_iff_eq]

theorem order_eq_gt_iff (firstCanonical : first.Canonical) (secondCanonical : second.Canonical)
    (thirdCanonical : third.Canonical) (firstSecond : first.order second ≠ .gt)
    (secondThird : second.order third ≠ .gt) :
    first.order third = .gt ↔ RunInCircle first second third := by
  rw [firstCanonical.order_eq_then secondCanonical] at firstSecond
  rw [secondCanonical.order_eq_then thirdCanonical] at secondThird
  rw [firstCanonical.order_eq_then thirdCanonical, then_eq_gt_iff firstSecond secondThird]
  have sameFirst := firstCanonical.compareCore_eq_eq_iff secondCanonical
  have sameSecond := secondCanonical.compareCore_eq_eq_iff thirdCanonical
  constructor
  · rintro ⟨left, right, greater⟩
    rw [left, Ordering.eq_then] at firstSecond
    rw [right, Ordering.eq_then] at secondThird
    rcases sameFirst.mp left with ⟨major, minor, patch, _⟩
    rcases sameSecond.mp right with ⟨laterMajor, laterMinor, laterPatch, _⟩
    exact ⟨⟨major, laterMajor⟩, ⟨minor, laterMinor⟩, ⟨patch, laterPatch⟩,
      (compareLex_eq_gt_iff firstSecond secondThird).mp greater⟩
  · rintro ⟨major, minor, patch, circular⟩
    have unstable := circular.isEmpty_eq
    have left : compareCore first second = .eq :=
      sameFirst.mpr ⟨major.1, minor.1, patch.1, unstable.1⟩
    have right : compareCore second third = .eq :=
      sameSecond.mpr ⟨major.2, minor.2, patch.2, unstable.2⟩
    rw [left, Ordering.eq_then] at firstSecond
    rw [right, Ordering.eq_then] at secondThird
    exact ⟨left, right, (compareLex_eq_gt_iff firstSecond secondThird).mpr circular⟩

theorem order_swap (firstCanonical : first.Canonical) (secondCanonical : second.Canonical) :
    second.order first = (first.order second).swap := by
  have core : compareCore second first = (compareCore first second).swap :=
    Std.OrientedCmp.eq_swap
  have identifiers : List.compareLex compareIdentifiers second.preRelease first.preRelease =
      (List.compareLex compareIdentifiers first.preRelease second.preRelease).swap :=
    Std.OrientedCmp.eq_swap
  rw [secondCanonical.order_eq_then firstCanonical, firstCanonical.order_eq_then secondCanonical,
    core, identifiers, Ordering.swap_then]

end Canonical

/-! ## Versions without such words -/

/-- An identifier that starts with a digit but is no number. -/
@[mk_iff mixed_iff]
structure Mixed (identifier : List Char) : Prop where
  startsWithDigit : identifier.head?.any Numeral.isDigit = true
  noNumber : isNumeric identifier = false

instance : DecidablePred Mixed := fun _ => decidable_of_iff' _ (mixed_iff _)

theorem Wedged.mixed {low high word : List Char} (wedged : Wedged low high word) : Mixed word := by
  refine ⟨?_, wedged.noNumber⟩
  have lowDigits := isNumeric_iff.mp wedged.lowNumeric
  have highDigits := isNumeric_iff.mp wedged.highNumeric
  have afterHigh := wedged.afterHigh
  have beforeLow := wedged.beforeLow
  cases word with
  | nil => cases high <;> cases afterHigh
  | cons first rest =>
      cases high with
      | nil => exact absurd rfl highDigits.1
      | cons highFirst highRest =>
          cases low with
          | nil => exact absurd rfl lowDigits.1
          | cons lowFirst lowRest =>
              have least := Numeral.isDigit_iff.mp (highDigits.2 highFirst List.mem_cons_self)
              have most := Numeral.isDigit_iff.mp (lowDigits.2 lowFirst List.mem_cons_self)
              rw [compareText, Ordering.then_eq_lt, Nat.compare_eq_lt, Nat.compare_eq_eq]
                at afterHigh beforeLow
              rw [List.head?_cons, Option.any_some, Numeral.isDigit_iff]
              omega

theorem Circular.exists_mixed {first second third : List Char}
    (circular : Circular first second third) : Mixed first ∨ Mixed second ∨ Mixed third := by
  cases circular with
  | fromLow wedged => exact .inr (.inr wedged.mixed)
  | fromHigh wedged => exact .inr (.inl wedged.mixed)
  | fromWord wedged => exact .inl wedged.mixed

theorem CircularLists.exists_mixed {first second third : List (List Char)}
    (circular : CircularLists first second third) :
    ∃ identifier, (identifier ∈ first ∨ identifier ∈ second ∨ identifier ∈ third) ∧
      Mixed identifier := by
  induction circular with
  | here circular firstRest secondRest thirdRest =>
      rcases circular.exists_mixed with mixed | mixed | mixed
      · exact ⟨_, .inl List.mem_cons_self, mixed⟩
      · exact ⟨_, .inr (.inl List.mem_cons_self), mixed⟩
      · exact ⟨_, .inr (.inr List.mem_cons_self), mixed⟩
  | later shared circular ih =>
      rcases ih with ⟨identifier, member, mixed⟩
      exact ⟨identifier, member.imp (.tail _) (.imp (.tail _) (.tail _)), mixed⟩

theorem not_runInCircle {first second third : Version}
    (unmixed : ∀ version ∈ [first, second, third], ∀ identifier ∈ version.preRelease,
      ¬ Mixed identifier) : ¬ RunInCircle first second third := by
  intro circle
  simp only [List.forall_mem_cons] at unmixed
  rcases unmixed with ⟨inFirst, inSecond, inThird, _⟩
  rcases circle.preRelease.exists_mixed with ⟨identifier, known | known | known, mixed⟩
  · exact inFirst identifier known mixed
  · exact inSecond identifier known mixed
  · exact inThird identifier known mixed

/-! ## The order -/

/-- Of two versions each is ordered as the reverse of the other. Of three versions of which none is
after the next, the first is after the last exactly if they run in a circle, and that never happens
without an identifier that starts with a digit but is no number. -/
theorem order_runs_in_circle {firstText secondText thirdText : String}
    {first second third : Version} (firstRead : parse firstText = .ok first)
    (secondRead : parse secondText = .ok second) (thirdRead : parse thirdText = .ok third) :
    second.order first = (first.order second).swap ∧
      (first.order second ≠ .gt → second.order third ≠ .gt →
        (first.order third = .gt ↔ RunInCircle first second third)) ∧
      ((∀ version ∈ [first, second, third], ∀ identifier ∈ version.preRelease,
          ¬ Mixed identifier) →
        first.order second ≠ .gt → second.order third ≠ .gt → first.order third ≠ .gt) := by
  have firstCanonical := canonical_of_parse firstRead
  have secondCanonical := canonical_of_parse secondRead
  have thirdCanonical := canonical_of_parse thirdRead
  have circle := firstCanonical.order_eq_gt_iff secondCanonical thirdCanonical
  refine ⟨firstCanonical.order_swap secondCanonical, circle, ?_⟩
  intro unmixed firstSecond secondThird
  rw [ne_eq, circle firstSecond secondThird]
  exact not_runInCircle unmixed

theorem order_runs_in_circle_nineTen :
    ∃ nine ten word candidate : Version,
      parse "1.0.0-9" = .ok nine ∧ parse "1.0.0-10" = .ok ten ∧ parse "1.0.0-1a" = .ok word ∧
      parse "1.0.0-rc.1" = .ok candidate ∧ ten.order nine = (nine.order ten).swap ∧
      RunInCircle nine ten word ∧ nine.order candidate ≠ .gt := by
  have nineRead : parse "1.0.0-9" = .ok ⟨['1'], ['0'], ['0'], [['9']], none⟩ := by decide +kernel
  have tenRead : parse "1.0.0-10" = .ok ⟨['1'], ['0'], ['0'], [['1', '0']], none⟩ := by
    decide +kernel
  have wordRead : parse "1.0.0-1a" = .ok ⟨['1'], ['0'], ['0'], [['1', 'a']], none⟩ := by
    decide +kernel
  have candidateRead : parse "1.0.0-rc.1" =
      .ok ⟨['1'], ['0'], ['0'], [['r', 'c'], ['1']], none⟩ := by
    decide +kernel
  have ⟨swapped, circle, _⟩ := order_runs_in_circle nineRead tenRead wordRead
  have ⟨_, _, transitive⟩ := order_runs_in_circle nineRead tenRead candidateRead
  exact ⟨_, _, _, _, nineRead, tenRead, wordRead, candidateRead, swapped,
    (circle (by decide +kernel) (by decide +kernel)).mp (by decide +kernel),
    transitive (by decide) (by decide +kernel) (by decide +kernel)⟩

/-- Not being after the next is not enough: nine, ten and a word between their bytes. -/
theorem order_not_transitive :
    ∃ nine ten word : Version,
      parse "1.0.0-9" = .ok nine ∧ parse "1.0.0-10" = .ok ten ∧ parse "1.0.0-1a" = .ok word ∧
      nine.order ten ≠ .gt ∧ ten.order word ≠ .gt ∧ nine.order word = .gt :=
  ⟨⟨['1'], ['0'], ['0'], [['9']], none⟩, ⟨['1'], ['0'], ['0'], [['1', '0']], none⟩,
    ⟨['1'], ['0'], ['0'], [['1', 'a']], none⟩, by decide +kernel, by decide +kernel,
    by decide +kernel, by decide +kernel, by decide +kernel, by decide +kernel⟩

end Targeting.Version
