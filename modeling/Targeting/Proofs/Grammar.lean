import Targeting.Proofs.Spelling

/-!
# The grammar of versions

Which texts are versions, and what is wrong with any other text, said without a reader. A version is
three numbers between points, then perhaps a hyphen with identifiers between points, then perhaps a
plus sign with build metadata. The hyphen that counts is the first one, the plus sign as well, and
neither of them has a meaning in what follows the first plus sign.

A text may have several defects. It is reported that nothing follows the plus sign, or else that an
identifier is empty, or else that the text is no version, which leaves the core as the only place
that can be wrong.
-/

namespace Targeting

namespace Text

/-- The parts of a text that stand between delimiters. -/
inductive Separated (delimiter : Char) : List Char → List (List Char) → Prop where
  | last {part : List Char} (free : delimiter ∉ part) : Separated delimiter part [part]
  | next {part rest : List Char} {parts : List (List Char)} (free : delimiter ∉ part)
      (later : Separated delimiter rest parts) :
      Separated delimiter (part ++ delimiter :: rest) (part :: parts)

theorem separated_join {delimiter : Char} {parts : List (List Char)} (nonempty : parts ≠ [])
    (free : ∀ part ∈ parts, delimiter ∉ part) :
    Separated delimiter (join delimiter parts) parts := by
  induction parts with
  | nil => exact absurd rfl nonempty
  | cons part others ih =>
      rw [List.forall_mem_cons] at free
      cases others with
      | nil => exact .last free.1
      | cons other rest =>
          have later := ih (by simp) free.2
          exact .next free.1 later

theorem pieces_eq_iff_separated {delimiter : Char} {text : List Char} {parts : List (List Char)} :
    pieces delimiter text = parts ↔ Separated delimiter text parts := by
  constructor
  · rintro rfl
    have separated := separated_join (pieces_ne_nil delimiter text)
      (delimiter_not_mem_pieces delimiter text)
    rwa [join_pieces] at separated
  · intro separated
    induction separated with
    | last free => exact pieces_of_not_mem free
    | next free _ ih => rw [pieces_append free, ih]

namespace Separated

variable {delimiter : Char} {text : List Char} {parts : List (List Char)}

theorem join_eq (separated : Separated delimiter text parts) : join delimiter parts = text := by
  rw [← pieces_eq_iff_separated.mpr separated, join_pieces]

theorem nonempty (separated : Separated delimiter text parts) : parts ≠ [] := by
  rw [← pieces_eq_iff_separated.mpr separated]
  exact pieces_ne_nil delimiter text

theorem free (separated : Separated delimiter text parts) : ∀ part ∈ parts, delimiter ∉ part := by
  rw [← pieces_eq_iff_separated.mpr separated]
  exact delimiter_not_mem_pieces delimiter text

end Separated

end Text

namespace Version

/-! ## The grammar -/

/-- One or more ASCII digits. -/
def IsNumber (text : List Char) : Prop :=
  text ≠ [] ∧ ∀ character ∈ text, '0' ≤ character ∧ character ≤ '9'

/-- Three numbers between points. -/
inductive IsCore : List Char → Prop where
  | numbers {major minor patch : List Char} (isMajor : IsNumber major) (isMinor : IsNumber minor)
      (isPatch : IsNumber patch) : IsCore (major ++ '.' :: minor ++ '.' :: patch)

/-- Identifiers between points, none of them empty and none with a plus sign. -/
inductive IsPreRelease (text : List Char) : Prop where
  | identifiers {identifiers : List (List Char)} (separated : Text.Separated '.' text identifiers)
      (nonempty : ∀ identifier ∈ identifiers, identifier ≠ [])
      (noPlus : ∀ identifier ∈ identifiers, '+' ∉ identifier) : IsPreRelease text

/-- A core, with a pre-release part behind a hyphen and metadata behind a plus sign if there are
any. -/
inductive IsVersion : List Char → Prop where
  | parts {core : List Char} {preRelease? metadata? : Option (List Char)} (isCore : IsCore core)
      (isPreRelease : ∀ preRelease ∈ preRelease?, IsPreRelease preRelease)
      (isMetadata : ∀ metadata ∈ metadata?, metadata ≠ []) :
      IsVersion (Text.behind '+' (Text.behind '-' core preRelease?) metadata?)

/-- The first plus sign is the last character. -/
inductive EndsWithPlus : List Char → Prop where
  | plus {release : List Char} (noPlus : '+' ∉ release) : EndsWithPlus (release ++ ['+'])

/-- One of the identifiers between the first hyphen and the first plus sign, or the end, is empty.
A hyphen behind the plus sign does not count. -/
inductive LacksIdentifier : List Char → Prop where
  | empty {core preRelease : List Char} {metadata? : Option (List Char)}
      {identifiers : List (List Char)} (noHyphen : '-' ∉ core) (noPlus : '+' ∉ core)
      (noPlusBehind : '+' ∉ preRelease) (separated : Text.Separated '.' preRelease identifiers)
      (empty : [] ∈ identifiers) :
      LacksIdentifier (Text.behind '+' (core ++ '-' :: preRelease) metadata?)

/-- What is reported for a text that is no version. -/
inductive Defect (text : String) : VersionError → Prop where
  | emptyMetadata (endsWithPlus : EndsWithPlus text.toList) : Defect text (.emptyMetadata text)
  | emptyPreRelease (notPlus : ¬EndsWithPlus text.toList)
      (lacksIdentifier : LacksIdentifier text.toList) : Defect text (.emptyPreRelease text)
  | invalidCore (notPlus : ¬EndsWithPlus text.toList)
      (notIdentifier : ¬LacksIdentifier text.toList) (noVersion : ¬IsVersion text.toList) :
      Defect text (.invalidCore text)

/-! ## Reading by the grammar -/

theorem isNumeric_iff_isNumber {text : List Char} : isNumeric text = true ↔ IsNumber text := by
  rw [isNumeric_iff, IsNumber]
  apply and_congr_right
  intro _
  apply forall_congr'
  intro character
  apply imp_congr_right
  intro _
  rw [Numeral.isDigit_iff, Char.le_def, Char.le_def, UInt32.le_iff_toNat_le,
    UInt32.le_iff_toNat_le]
  exact Iff.rfl

theorem isIdentifier_of_isPreRelease {text : List Char} (isPreRelease : IsPreRelease text) :
    ∃ identifiers, Text.Separated '.' text identifiers ∧
      ∀ identifier ∈ identifiers, IsIdentifier identifier := by
  rcases isPreRelease with ⟨separated, nonempty, noPlus⟩
  refine ⟨_, separated, ?_⟩
  intro identifier member
  exact ⟨nonempty identifier member, separated.free identifier member, noPlus identifier member⟩

theorem isCore_core {parts : Version} (spelled : parts.Spelled) : IsCore parts.core := by
  have joined : parts.core = parts.major ++ '.' :: parts.minor ++ '.' :: parts.patch := by
    simp [core, Text.join]
  rw [joined]
  exact .numbers (isNumeric_iff_isNumber.mp spelled.major)
    (isNumeric_iff_isNumber.mp spelled.minor) (isNumeric_iff_isNumber.mp spelled.patch)

theorem isPreRelease_of_suffix? {identifiers : List (List Char)}
    (suitable : ∀ identifier ∈ identifiers, IsIdentifier identifier) :
    ∀ text ∈ suffix? identifiers, IsPreRelease text := by
  cases identifiers with
  | nil => simp [suffix?]
  | cons first rest =>
      rintro _ ⟨⟩
      refine .identifiers (Text.separated_join (by simp) ?_) ?_ ?_
      · intro identifier member
        exact (suitable identifier member).noPoint
      · intro identifier member
        exact (suitable identifier member).nonempty
      · intro identifier member
        exact (suitable identifier member).noPlus

/-- The grammar admits what can be spelled from suitable parts. -/
theorem isVersion_iff_spelled {text : List Char} :
    IsVersion text ↔ ∃ parts : Version, parts.Spelled ∧ parts.characters = text := by
  constructor
  · rintro ⟨⟨isMajor, isMinor, isPatch⟩, isPreRelease, isMetadata⟩
    next preRelease? metadata? major minor patch =>
    have identified : ∃ identifiers, (∀ identifier ∈ identifiers, IsIdentifier identifier) ∧
        suffix? identifiers = preRelease? := by
      cases preRelease? with
      | none => exact ⟨[], by simp, rfl⟩
      | some preRelease =>
          rcases isIdentifier_of_isPreRelease (isPreRelease preRelease rfl) with
            ⟨identifiers, separated, suitable⟩
          refine ⟨identifiers, suitable, ?_⟩
          rw [suffix?_of_ne_nil separated.nonempty, separated.join_eq]
    rcases identified with ⟨identifiers, suitable, rfl⟩
    refine ⟨⟨major, minor, patch, identifiers, metadata?⟩, ?_, ?_⟩
    · refine ⟨isNumeric_iff_isNumber.mpr isMajor, isNumeric_iff_isNumber.mpr isMinor,
        isNumeric_iff_isNumber.mpr isPatch, suitable, ?_⟩
      rintro rfl
      exact isMetadata [] rfl rfl
    · simp [characters_eq, core, Text.join]
  · rintro ⟨parts, spelled, rfl⟩
    rw [characters_eq]
    refine .parts (isCore_core spelled) (isPreRelease_of_suffix? spelled.preRelease) ?_
    rintro _ present rfl
    exact spelled.metadata present

theorem exists_parse_iff_isVersion {text : String} :
    (∃ version, parse text = .ok version) ↔ IsVersion text.toList := by
  rw [isVersion_iff_spelled]
  constructor
  · rintro ⟨version, read⟩
    rcases parse_eq_ok_iff.mp read with ⟨parts, spelled, rfl, _⟩
    exact ⟨parts, spelled, by simp [canonical]⟩
  · rintro ⟨parts, spelled, same⟩
    refine ⟨parts.normalized, parse_eq_ok_iff.mpr ⟨parts, spelled, ?_, rfl⟩⟩
    rw [canonical, same, String.ofList_toList]

/-! ## Reporting by the grammar -/

theorem endsWithPlus_iff {text : List Char} :
    EndsWithPlus text ↔ (Text.cut '+' text).2 = some [] := by
  constructor
  · rintro ⟨noPlus⟩
    rw [Text.cut_append noPlus]
  · intro nothing
    have whole := Text.join_cut nothing
    rw [← whole]
    exact .plus (Text.delimiter_not_mem_cut '+' text)

theorem readPreRelease?_eq_none_iff {text? : Option (List Char)} :
    readPreRelease? text? = none ↔
      ∃ text identifiers, text? = some text ∧ Text.Separated '.' text identifiers ∧
        [] ∈ identifiers := by
  cases text? with
  | none => simp [readPreRelease?]
  | some text =>
      simp only [readPreRelease?, ← Text.pieces_eq_iff_separated]
      simp

theorem lacksIdentifier_iff {text : List Char} :
    LacksIdentifier text ↔ readPreRelease? (Text.cut '-' (Text.cut '+' text).1).2 = none := by
  rw [readPreRelease?_eq_none_iff]
  constructor
  · rintro ⟨noHyphen, noPlus, noPlusBehind, separated, empty⟩
    next core preRelease metadata? identifiers =>
    -- The plus sign is looked for first, so metadata may hold hyphens and points.
    have free : '+' ∉ core ++ '-' :: preRelease := by simp [noPlus, noPlusBehind]
    refine ⟨preRelease, identifiers, ?_, separated, empty⟩
    rw [Text.cut_behind free, Text.cut_append noHyphen]
  · rintro ⟨preRelease, identifiers, present, separated, empty⟩
    have whole := Text.behind_cut '+' text
    have parted := Text.join_cut present
    have noPlus := Text.delimiter_not_mem_cut '+' text
    rw [← parted] at noPlus
    simp only [List.mem_append, List.mem_cons, not_or] at noPlus
    rw [← whole, ← parted]
    exact .empty (Text.delimiter_not_mem_cut '-' _) noPlus.1 noPlus.2.2 separated empty

theorem defect_of_parse {text : String} {error : VersionError} (fails : parse text = .error error) :
    Defect text error := by
  have noVersion : ¬IsVersion text.toList := by
    rw [← exists_parse_iff_isVersion, fails]
    simp
  -- The reader asks for the defects in the order in which they take precedence.
  unfold parse at fails
  dsimp only at fails
  split at fails
  · next nothing =>
      cases fails
      exact .emptyMetadata (endsWithPlus_iff.mpr nothing)
  · next something =>
      have notPlus := mt endsWithPlus_iff.mp something
      split at fails
      · next unread =>
          cases fails
          exact .emptyPreRelease notPlus (lacksIdentifier_iff.mpr unread)
      · next identifiers read =>
          have notIdentifier : ¬LacksIdentifier text.toList := by
            rw [lacksIdentifier_iff, read]
            simp
          split at fails
          · cases fails
            exact .invalidCore notPlus notIdentifier noVersion
          · cases fails

theorem Defect.unique {text : String} {error other : VersionError} (defect : Defect text error)
    (otherDefect : Defect text other) : error = other := by
  cases defect <;> cases otherDefect <;> first | rfl | contradiction

theorem parse_eq_error_iff {text : String} {error : VersionError} :
    parse text = .error error ↔ Defect text error := by
  constructor
  · exact defect_of_parse
  · intro defect
    cases defect with
    | emptyMetadata endsWithPlus =>
        have nothing := endsWithPlus_iff.mp endsWithPlus
        simp [parse, nothing]
    | emptyPreRelease notPlus lacksIdentifier =>
        have something := mt endsWithPlus_iff.mpr notPlus
        have unread := lacksIdentifier_iff.mp lacksIdentifier
        simp [parse, something, unread]
    | invalidCore notPlus notIdentifier noVersion =>
        rcases read : parse text with other | version
        · have reported := defect_of_parse read
          rw [reported.unique (.invalidCore notPlus notIdentifier noVersion)]
        · exact absurd (exists_parse_iff_isVersion.mp ⟨version, read⟩) noVersion

/-- A text is read as a version exactly if the grammar admits it. Any other text is reported, as a
whole, with the first of its defects. -/
theorem read_by_grammar (text : String) :
    ((∃ version, parse text = .ok version) ↔ IsVersion text.toList) ∧
      ∀ error, parse text = .error error ↔ Defect text error :=
  ⟨exists_parse_iff_isVersion, fun _ => parse_eq_error_iff⟩

/-- Of three defects the one at the end of the text is reported. -/
example : parse "1.02-rc..1+" = .error (.emptyMetadata "1.02-rc..1+") := rfl

end Version

end Targeting
