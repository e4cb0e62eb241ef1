import Mathlib.Data.List.Forall2
import Targeting.Proofs.TextOrder

/-!
# The precedence of versions

The order of versions, said in numbers. Versions are compared by the values of their major, minor
and patch numbers, then an unstable version comes before a stable one, then the first identifiers
that differ decide, by value if both are numbers and by their bytes otherwise, and at last the
shorter list of identifiers comes first.

The order itself looks at digits, as numbers may be of any size, and takes equal canonical texts for
equal versions. Both are right because the parts of a version are in canonical form. Leading zeros
are gone by the time that versions are compared, and build metadata is not looked at.
-/

namespace Targeting.Version

/-- Numbers are compared by value, anything else by its bytes. -/
def compareByValue (left right : List Char) : Ordering :=
  if isNumeric left && isNumeric right then compare (Numeral.value left) (Numeral.value right)
  else compare (Text.bytes left) (Text.bytes right)

/-- The precedence of two versions. Of two lists of identifiers, the first pair that differs
decides, or else the shorter list comes first. -/
def precedence (left right : Version) : Ordering :=
  (compare (Numeral.value left.major) (Numeral.value right.major)).then <|
    (compare (Numeral.value left.minor) (Numeral.value right.minor)).then <|
      (compare (Numeral.value left.patch) (Numeral.value right.patch)).then <|
        (compare left.isStable right.isStable).then <|
          List.compareLex compareByValue left.preRelease right.preRelease

/-- A version without its build metadata. -/
def release (version : Version) : Version := { version with metadata := none }

/-! ## Identifiers -/

instance : Std.OrientedCmp compareIdentifiers where
  eq_swap {left right} := by
    unfold compareIdentifiers
    rw [Bool.and_comm]
    split
    · rw [Ordering.swap_then, ← Std.OrientedOrd.eq_swap, ← Std.OrientedCmp.eq_swap]
    · exact Std.OrientedCmp.eq_swap

instance : Std.LawfulEqCmp compareIdentifiers where
  compare_self {identifier} := by
    have same : compareText identifier identifier = .eq := Std.ReflCmp.compare_self
    have lengths : compare identifier.length identifier.length = .eq := Nat.compare_eq_eq.mpr rfl
    unfold compareIdentifiers
    split
    · rw [lengths, same]
      rfl
    · exact same
  eq_of_compare {left right} same := by
    unfold compareIdentifiers at same
    split at same
    · exact Std.LawfulEqCmp.eq_of_compare (Ordering.then_eq_eq.mp same).2
    · exact Std.LawfulEqCmp.eq_of_compare same

@[simp]
theorem compareIdentifiers_self (identifier : List Char) :
    compareIdentifiers identifier identifier = .eq :=
  Std.ReflCmp.compare_self

theorem compareIdentifiers_eq_compareByValue {left right : List Char}
    (leftCanonical : canonicalIdentifier left = left)
    (rightCanonical : canonicalIdentifier right = right) :
    compareIdentifiers left right = compareByValue left right := by
  unfold compareIdentifiers compareByValue
  split
  · next numeric =>
      rw [Bool.and_eq_true] at numeric
      rw [canonicalIdentifier, if_pos numeric.1] at leftCanonical
      rw [canonicalIdentifier, if_pos numeric.2] at rightCanonical
      exact compare_length_then_compareText numeric.1 numeric.2 leftCanonical rightCanonical
  · exact compareText_eq_bytes left right

theorem compareNumbers_eq {left right : List Char} (leftNumeric : isNumeric left)
    (rightNumeric : isNumeric right) (leftCanonical : stripZeros left = left)
    (rightCanonical : stripZeros right = right) :
    compareIdentifiers left right = compare (Numeral.value left) (Numeral.value right) := by
  rw [compareIdentifiers, leftNumeric, rightNumeric, Bool.and_self, if_pos rfl,
    compare_length_then_compareText leftNumeric rightNumeric leftCanonical rightCanonical]

/-- The first difference decides, or else the length. -/
theorem compareCommon_then (left right : List (List Char)) :
    (compareCommon left right).then (compare left.length right.length) =
      List.compareLex compareIdentifiers left right := by
  induction left generalizing right with
  | nil =>
      cases right with
      | nil => rfl
      | cons other others =>
          rw [List.compareLex_nil_cons]
          exact Nat.compare_eq_lt.mpr (Nat.succ_pos _)
  | cons first rest ih =>
      cases right with
      | nil =>
          rw [List.compareLex_cons_nil]
          exact Nat.compare_eq_gt.mpr (Nat.succ_pos _)
      | cons other others =>
          rw [List.compareLex_cons_cons, compareCommon, ← ih, Ordering.then_assoc]
          simp [Nat.compare_eq_ite_lt]

theorem compareLex_eq_compareByValue {left right : List (List Char)}
    (leftCanonical : left.map canonicalIdentifier = left)
    (rightCanonical : right.map canonicalIdentifier = right) :
    List.compareLex compareIdentifiers left right = List.compareLex compareByValue left right := by
  induction left generalizing right with
  | nil => cases right <;> rfl
  | cons first rest ih =>
      cases right with
      | nil => rfl
      | cons other others =>
          rw [List.map_cons, List.cons.injEq] at leftCanonical rightCanonical
          rw [List.compareLex_cons_cons, List.compareLex_cons_cons,
            compareIdentifiers_eq_compareByValue leftCanonical.1 rightCanonical.1,
            ih leftCanonical.2 rightCanonical.2]

/-! ## Versions -/

/-- The order of two versions, read off their parts alone. -/
def compareParts (left right : Version) : Ordering :=
  (compareIdentifiers left.major right.major).then <|
    (compareIdentifiers left.minor right.minor).then <|
      (compareIdentifiers left.patch right.patch).then <|
        (compare left.isStable right.isStable).then <|
          List.compareLex compareIdentifiers left.preRelease right.preRelease

theorem order_eq_ite (left right : Version) :
    left.order right =
      if left.canonical = right.canonical then .eq else left.compareParts right := by
  have stability : ∀ left right : Bool, compareBool left right = compare left right := by decide
  unfold order compareParts
  rw [stability, compareCommon_then]

theorem compareParts_eq_eq_iff {left right : Version} :
    left.compareParts right = .eq ↔ left.release = right.release := by
  rcases left with ⟨major, minor, patch, preRelease, metadata⟩
  rcases right with ⟨otherMajor, otherMinor, otherPatch, otherPreRelease, otherMetadata⟩
  simp only [compareParts, Ordering.then_eq_eq, Std.LawfulEqCmp.compare_eq_iff_eq, release,
    isStable, mk.injEq, and_true]
  constructor
  · rintro ⟨sameMajor, sameMinor, samePatch, _, samePreRelease⟩
    exact ⟨sameMajor, sameMinor, samePatch, samePreRelease⟩
  · rintro ⟨rfl, rfl, rfl, rfl⟩
    exact ⟨rfl, rfl, rfl, rfl, rfl⟩

namespace Canonical

variable {version left right : Version}

theorem release (canonical : version.Canonical) : version.release.Canonical where
  spelled := { canonical.spelled with metadata := nofun }
  normalized := congrArg Version.release canonical.normalized

/-- The numbers of versions are ordered by their values. -/
theorem compareNumbers (leftCanonical : left.Canonical) (rightCanonical : right.Canonical) :
    compareIdentifiers left.major right.major =
        compare (Numeral.value left.major) (Numeral.value right.major) ∧
      compareIdentifiers left.minor right.minor =
        compare (Numeral.value left.minor) (Numeral.value right.minor) ∧
      compareIdentifiers left.patch right.patch =
        compare (Numeral.value left.patch) (Numeral.value right.patch) := by
  have ⟨leftMajor, leftMinor, leftPatch⟩ := leftCanonical.stripped
  have ⟨rightMajor, rightMinor, rightPatch⟩ := rightCanonical.stripped
  have spelled := leftCanonical.spelled
  have otherSpelled := rightCanonical.spelled
  exact ⟨compareNumbers_eq spelled.major otherSpelled.major leftMajor rightMajor,
    compareNumbers_eq spelled.minor otherSpelled.minor leftMinor rightMinor,
    compareNumbers_eq spelled.patch otherSpelled.patch leftPatch rightPatch⟩

theorem compareParts_eq (leftCanonical : left.Canonical) (rightCanonical : right.Canonical) :
    left.compareParts right = left.precedence right := by
  have ⟨major, minor, patch⟩ := leftCanonical.compareNumbers rightCanonical
  rw [compareParts, precedence, major, minor, patch,
    compareLex_eq_compareByValue leftCanonical.preRelease rightCanonical.preRelease]

/-- Equal canonical texts make no exception: they belong to equal versions. -/
theorem order_eq_compareParts (leftCanonical : left.Canonical) (rightCanonical : right.Canonical) :
    left.order right = left.compareParts right := by
  rw [order_eq_ite]
  split
  · next same =>
      rw [(leftCanonical.canonical_inj rightCanonical).mp same]
      exact (compareParts_eq_eq_iff.mpr rfl).symm
  · rfl

theorem order_eq_precedence (leftCanonical : left.Canonical) (rightCanonical : right.Canonical) :
    left.order right = left.precedence right := by
  rw [leftCanonical.order_eq_compareParts rightCanonical,
    leftCanonical.compareParts_eq rightCanonical]

theorem order_eq_eq_iff (leftCanonical : left.Canonical) (rightCanonical : right.Canonical) :
    left.order right = .eq ↔ left.release.canonical = right.release.canonical := by
  rw [leftCanonical.order_eq_compareParts rightCanonical, compareParts_eq_eq_iff,
    leftCanonical.release.canonical_inj rightCanonical.release]

/-- Without build metadata the canonical text ends before the plus sign. -/
theorem canonical_release (canonical : version.Canonical) :
    version.release.canonical = String.ofList (Text.cut '+' version.canonical.toList).1 := by
  have noPlus := canonical.spelled.noPlus
  simp only [Version.canonical, String.toList_ofList, characters_eq, Text.cut_behind noPlus]
  rfl

end Canonical

/-! ## Spellings of one version -/

/-- The same identifier, but for leading zeros of a number. -/
inductive SameIdentifier : List Char → List Char → Prop
  | refl (identifier : List Char) : SameIdentifier identifier identifier
  | number {left right : List Char} (leftNumeric : isNumeric left) (rightNumeric : isNumeric right)
      (value : Numeral.value left = Numeral.value right) : SameIdentifier left right

/-- Two texts of versions that differ in leading zeros and in build metadata at most. -/
def SpelledAlike (text otherText : String) : Prop :=
  ∃ parts otherParts : Version, parts.Spelled ∧ otherParts.Spelled ∧
    parts.canonical = text ∧ otherParts.canonical = otherText ∧
    SameIdentifier parts.major otherParts.major ∧ SameIdentifier parts.minor otherParts.minor ∧
    SameIdentifier parts.patch otherParts.patch ∧
    List.Forall₂ SameIdentifier parts.preRelease otherParts.preRelease

theorem stripZeros_eq_of_value_eq {left right : List Char} (leftNumeric : isNumeric left)
    (rightNumeric : isNumeric right) (same : Numeral.value left = Numeral.value right) :
    stripZeros left = stripZeros right := by
  have equal := compareNumbers_eq (isNumeric_stripZeros leftNumeric)
    (isNumeric_stripZeros rightNumeric) (stripZeros_stripZeros left) (stripZeros_stripZeros right)
  rw [value_stripZeros, value_stripZeros, same, Nat.compare_eq_eq.mpr rfl] at equal
  exact Std.LawfulEqCmp.eq_of_compare equal

theorem SameIdentifier.stripZeros_eq {left right : List Char} (same : SameIdentifier left right) :
    stripZeros left = stripZeros right := by
  cases same with
  | refl => rfl
  | number leftNumeric rightNumeric value =>
      exact stripZeros_eq_of_value_eq leftNumeric rightNumeric value

theorem SameIdentifier.canonicalIdentifier_eq {left right : List Char}
    (same : SameIdentifier left right) : canonicalIdentifier left = canonicalIdentifier right := by
  cases same with
  | refl => rfl
  | number leftNumeric rightNumeric value =>
      rw [canonicalIdentifier, canonicalIdentifier, if_pos leftNumeric, if_pos rightNumeric,
        stripZeros_eq_of_value_eq leftNumeric rightNumeric value]

theorem map_canonicalIdentifier_eq {left right : List (List Char)}
    (same : List.Forall₂ SameIdentifier left right) :
    left.map canonicalIdentifier = right.map canonicalIdentifier := by
  induction same with
  | nil => rfl
  | cons first rest ih => rw [List.map_cons, List.map_cons, first.canonicalIdentifier_eq, ih]

/-- What is spelled alike reads as the same version, but for build metadata. -/
theorem SpelledAlike.release_eq {text otherText : String} {left right : Version}
    (alike : SpelledAlike text otherText) (leftRead : parse text = .ok left)
    (rightRead : parse otherText = .ok right) : left.release = right.release := by
  rcases alike with
    ⟨parts, otherParts, spelled, otherSpelled, rfl, rfl, major, minor, patch, preRelease⟩
  rw [parse_canonical_of_spelled spelled, Except.ok.injEq] at leftRead
  rw [parse_canonical_of_spelled otherSpelled, Except.ok.injEq] at rightRead
  rw [← leftRead, ← rightRead, normalized, normalized, release, release, major.stripZeros_eq,
    minor.stripZeros_eq, patch.stripZeros_eq, map_canonicalIdentifier_eq preRelease]

/-- The order of versions is their precedence. Versions are equal in it exactly if their canonical
texts are equal but for build metadata, and another spelling of a version is ordered as it is. -/
theorem order_is_precedence {text otherText : String} {left right : Version}
    (leftRead : parse text = .ok left) (rightRead : parse otherText = .ok right) :
    left.order right = left.precedence right ∧
      (left.order right = .eq ↔ left.release.canonical = right.release.canonical) ∧
      ∀ (alikeText : String) (alike : Version), parse alikeText = .ok alike →
        SpelledAlike text alikeText →
          alike.order right = left.order right ∧ right.order alike = right.order left := by
  have leftCanonical := canonical_of_parse leftRead
  have rightCanonical := canonical_of_parse rightRead
  refine ⟨leftCanonical.order_eq_precedence rightCanonical,
    leftCanonical.order_eq_eq_iff rightCanonical, ?_⟩
  intro alikeText alike alikeRead spelledAlike
  have alikeCanonical := canonical_of_parse alikeRead
  have sameRelease := spelledAlike.release_eq leftRead alikeRead
  -- The precedence of two versions does not look at their build metadata.
  have released : ∀ version other : Version,
      version.precedence other = version.release.precedence other.release := fun _ _ => rfl
  constructor
  · rw [alikeCanonical.order_eq_precedence rightCanonical,
      leftCanonical.order_eq_precedence rightCanonical, released, released left, sameRelease]
  · rw [rightCanonical.order_eq_precedence alikeCanonical,
      rightCanonical.order_eq_precedence leftCanonical, released, released right left, sameRelease]

theorem order_is_precedence_releaseCandidate :
    ∃ candidate later alike : Version,
      parse "01.2.0-rc.007+linux" = .ok candidate ∧ parse "1.2.0-rc.10" = .ok later ∧
      parse "1.02.0-rc.7" = .ok alike ∧ SpelledAlike "01.2.0-rc.007+linux" "1.02.0-rc.7" ∧
      candidate.order later = candidate.precedence later ∧
      (candidate.order later = .eq ↔ candidate.release.canonical = later.release.canonical) ∧
      alike.order later = candidate.order later ∧ later.order alike = later.order candidate ∧
      candidate.order later = .lt := by
  have candidateRead : parse "01.2.0-rc.007+linux" =
      .ok ⟨['1'], ['2'], ['0'], [['r', 'c'], ['7']], some ['l', 'i', 'n', 'u', 'x']⟩ := by
    decide +kernel
  have laterRead : parse "1.2.0-rc.10" =
      .ok ⟨['1'], ['2'], ['0'], [['r', 'c'], ['1', '0']], none⟩ := by
    decide +kernel
  have alikeRead : parse "1.02.0-rc.7" =
      .ok ⟨['1'], ['2'], ['0'], [['r', 'c'], ['7']], none⟩ := by
    decide +kernel
  have spelledAlike : SpelledAlike "01.2.0-rc.007+linux" "1.02.0-rc.7" := by
    refine ⟨⟨['0', '1'], ['2'], ['0'], [['r', 'c'], ['0', '0', '7']],
        some ['l', 'i', 'n', 'u', 'x']⟩,
      ⟨['1'], ['0', '2'], ['0'], [['r', 'c'], ['7']], none⟩, by decide, by decide,
      by decide +kernel, by decide +kernel, ?_, ?_, .refl _, .cons (.refl _) (.cons ?_ .nil)⟩
    all_goals exact .number (by decide) (by decide) (by decide)
  have ⟨precedence, equal, spellings⟩ := order_is_precedence candidateRead laterRead
  have ⟨left, right⟩ := spellings _ _ alikeRead spelledAlike
  exact ⟨_, _, _, candidateRead, laterRead, alikeRead, spelledAlike, precedence, equal, left, right,
    by decide +kernel⟩

end Targeting.Version
