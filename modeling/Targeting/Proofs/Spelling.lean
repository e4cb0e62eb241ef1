import Mathlib.Tactic.MkIffOfInductiveProp
import Targeting.Version.Order

/-!
# How versions are spelled

A text is a version exactly if it is spelled from suitable parts: three numbers, identifiers that
are neither empty nor hold a point or a plus sign, and build metadata that is not empty. The version
that is read has the same parts in canonical form, which are suitable again. So the canonical text
of a version reads back as that version, and no two versions share a canonical text. The order of
versions relies on this when it takes equal canonical texts for equal versions.
-/

namespace Targeting

namespace Text

/-- A text, and another one behind a delimiter if there is another. -/
def behind (delimiter : Char) (text : List Char) : Option (List Char) → List Char
  | none => text
  | some rest => text ++ delimiter :: rest

theorem cut_behind {delimiter : Char} {text : List Char} (absent : delimiter ∉ text)
    (rest? : Option (List Char)) : cut delimiter (behind delimiter text rest?) = (text, rest?) := by
  cases rest? with
  | none => exact cut_of_not_mem absent
  | some rest => exact cut_append absent rest

theorem behind_cut (delimiter : Char) (text : List Char) :
    behind delimiter (cut delimiter text).1 (cut delimiter text).2 = text := by
  cases present : (cut delimiter text).2 with
  | none => exact cut_eq_of_none present
  | some rest => exact join_cut present

end Text

namespace Version

theorem isNumeric_iff {identifier : List Char} :
    isNumeric identifier = true ↔
      identifier ≠ [] ∧ ∀ character ∈ identifier, Numeral.isDigit character = true := by
  simp [isNumeric]

theorem not_mem_of_isNumeric {identifier : List Char} (numeric : isNumeric identifier)
    {delimiter : Char} (noDigit : Numeral.isDigit delimiter = false) : delimiter ∉ identifier := by
  intro member
  have digit := (isNumeric_iff.mp numeric).2 delimiter member
  rw [noDigit] at digit
  cases digit

/-! ## Canonical identifiers -/

theorem stripZeros_of_first {first : Char} (rest : List Char) (nonzero : first ≠ '0') :
    stripZeros (first :: rest) = first :: rest := by
  simp [stripZeros, nonzero]

/-- A number is zero or starts with another digit than zero once its leading zeros are gone. -/
theorem stripZeros_eq_zero_or (identifier : List Char) :
    stripZeros identifier = ['0'] ∨
      ∃ first rest, stripZeros identifier = first :: rest ∧ first ≠ '0' := by
  unfold stripZeros
  cases remaining : identifier.dropWhile (· = '0') with
  | nil => exact .inl rfl
  | cons first rest =>
      have nonzero := List.head?_dropWhile_not (· = '0') identifier
      rw [remaining] at nonzero
      exact .inr ⟨first, rest, rfl, by simpa using nonzero⟩

@[simp]
theorem stripZeros_stripZeros (identifier : List Char) :
    stripZeros (stripZeros identifier) = stripZeros identifier := by
  rcases stripZeros_eq_zero_or identifier with zero | ⟨first, rest, same, nonzero⟩
  · rw [zero]
    rfl
  · rw [same, stripZeros_of_first rest nonzero]

theorem isNumeric_stripZeros {identifier : List Char} (numeric : isNumeric identifier) :
    isNumeric (stripZeros identifier) := by
  rw [isNumeric_iff] at numeric
  unfold stripZeros
  cases remaining : identifier.dropWhile (· = '0') with
  | nil => decide
  | cons first rest =>
      refine isNumeric_iff.mpr ⟨List.cons_ne_nil _ _, fun character member => ?_⟩
      apply numeric.2 character
      apply (List.dropWhile_sublist (· = '0')).subset
      rwa [remaining]

@[simp]
theorem canonicalIdentifier_canonicalIdentifier (identifier : List Char) :
    canonicalIdentifier (canonicalIdentifier identifier) = canonicalIdentifier identifier := by
  rcases numeric : isNumeric identifier with _ | _
  · simp [canonicalIdentifier, numeric]
  · simp [canonicalIdentifier, numeric, isNumeric_stripZeros numeric]

/-! ## Suitable parts -/

/-- An identifier that may stand between points. -/
@[mk_iff isIdentifier_iff]
structure IsIdentifier (identifier : List Char) : Prop where
  nonempty : identifier ≠ []
  noPoint : '.' ∉ identifier
  noPlus : '+' ∉ identifier

/-- Parts from which a version can be spelled. Their numbers may have leading zeros. -/
@[mk_iff spelled_iff]
structure Spelled (parts : Version) : Prop where
  major : isNumeric parts.major
  minor : isNumeric parts.minor
  patch : isNumeric parts.patch
  preRelease : ∀ identifier ∈ parts.preRelease, IsIdentifier identifier
  metadata : parts.metadata ≠ some []

instance : DecidablePred IsIdentifier := fun _ => decidable_of_iff' _ (isIdentifier_iff _)

instance : DecidablePred Spelled := fun _ => decidable_of_iff' _ (spelled_iff _)

/-- The parts in canonical form. -/
def normalized (parts : Version) : Version where
  major := stripZeros parts.major
  minor := stripZeros parts.minor
  patch := stripZeros parts.patch
  preRelease := parts.preRelease.map canonicalIdentifier
  metadata := parts.metadata

theorem isIdentifier_of_isNumeric {identifier : List Char} (numeric : isNumeric identifier) :
    IsIdentifier identifier where
  nonempty := (isNumeric_iff.mp numeric).1
  noPoint := not_mem_of_isNumeric numeric (by decide)
  noPlus := not_mem_of_isNumeric numeric (by decide)

theorem IsIdentifier.canonical {identifier : List Char} (suitable : IsIdentifier identifier) :
    IsIdentifier (canonicalIdentifier identifier) := by
  unfold canonicalIdentifier
  split
  · next numeric => exact isIdentifier_of_isNumeric (isNumeric_stripZeros numeric)
  · exact suitable

theorem Spelled.normalized {parts : Version} (spelled : parts.Spelled) :
    parts.normalized.Spelled where
  major := isNumeric_stripZeros spelled.major
  minor := isNumeric_stripZeros spelled.minor
  patch := isNumeric_stripZeros spelled.patch
  preRelease := by
    intro identifier member
    rcases List.mem_map.mp member with ⟨original, known, rfl⟩
    exact (spelled.preRelease original known).canonical
  metadata := spelled.metadata

@[simp]
theorem normalized_normalized (parts : Version) :
    parts.normalized.normalized = parts.normalized := by
  simp [normalized]

/-! ## Reading what is spelled -/

/-- The three numbers of a version, spelled with points. -/
def core (parts : Version) : List Char := Text.join '.' [parts.major, parts.minor, parts.patch]

/-- Identifiers as they are spelled, if there are any. -/
def suffix? : List (List Char) → Option (List Char)
  | [] => none
  | identifiers => some (Text.join '.' identifiers)

theorem suffix?_of_ne_nil {identifiers : List (List Char)} (nonempty : identifiers ≠ []) :
    suffix? identifiers = some (Text.join '.' identifiers) := by
  cases identifiers with
  | nil => exact absurd rfl nonempty
  | cons first rest => rfl

theorem characters_eq (parts : Version) :
    parts.characters =
      Text.behind '+' (Text.behind '-' parts.core (suffix? parts.preRelease)) parts.metadata := by
  unfold characters core
  rcases parts.preRelease with _ | ⟨identifier, rest⟩ <;> rcases parts.metadata with _ | metadata
  all_goals simp [Text.behind, suffix?]

theorem Spelled.numbers {parts : Version} (spelled : parts.Spelled) :
    ∀ number ∈ [parts.major, parts.minor, parts.patch], isNumeric number = true := by
  simp [spelled.major, spelled.minor, spelled.patch]

theorem Spelled.not_mem_core {parts : Version} (spelled : parts.Spelled) {delimiter : Char}
    (noDigit : Numeral.isDigit delimiter = false) (noPoint : delimiter ≠ '.') :
    delimiter ∉ parts.core := by
  intro member
  rcases Text.mem_join member with point | ⟨number, known, inside⟩
  · exact noPoint point
  · exact not_mem_of_isNumeric (spelled.numbers number known) noDigit inside

theorem Spelled.noPlus {parts : Version} (spelled : parts.Spelled) :
    '+' ∉ Text.behind '-' parts.core (suffix? parts.preRelease) := by
  have core : '+' ∉ parts.core := spelled.not_mem_core (by decide) (by decide)
  have suitable := spelled.preRelease
  generalize parts.preRelease = identifiers at suitable ⊢
  cases identifiers with
  | nil => exact core
  | cons first rest =>
      simp only [suffix?, Text.behind, List.mem_append, List.mem_cons, not_or]
      refine ⟨core, by decide, fun member => ?_⟩
      rcases Text.mem_join member with point | ⟨identifier, known, inside⟩
      · cases point
      · exact (suitable identifier known).noPlus inside

theorem readCore?_core {parts : Version} (spelled : parts.Spelled) :
    readCore? parts.core =
      some (stripZeros parts.major, stripZeros parts.minor, stripZeros parts.patch) := by
  have pieces : Text.pieces '.' parts.core = [parts.major, parts.minor, parts.patch] :=
    Text.pieces_join (List.cons_ne_nil _ _) fun number known =>
      not_mem_of_isNumeric (spelled.numbers number known) (by decide)
  simp [readCore?, pieces, spelled.major, spelled.minor, spelled.patch]

theorem readPreRelease?_suffix? {identifiers : List (List Char)}
    (suitable : ∀ identifier ∈ identifiers, IsIdentifier identifier) :
    readPreRelease? (suffix? identifiers) = some (identifiers.map canonicalIdentifier) := by
  cases identifiers with
  | nil => rfl
  | cons first rest =>
      have pieces : Text.pieces '.' (Text.join '.' (first :: rest)) = first :: rest :=
        Text.pieces_join (List.cons_ne_nil _ _) fun piece known => (suitable piece known).noPoint
      have full : (first :: rest).any List.isEmpty = false := by
        rw [List.any_eq_false]
        intro identifier member
        simpa using (suitable identifier member).nonempty
      simp only [readPreRelease?, suffix?, pieces, full]
      rfl

/-- What is spelled from suitable parts reads back as their canonical form. -/
theorem parse_canonical_of_spelled {parts : Version} (spelled : parts.Spelled) :
    parse parts.canonical = .ok parts.normalized := by
  have release : Text.cut '+' parts.characters =
      (Text.behind '-' parts.core (suffix? parts.preRelease), parts.metadata) := by
    rw [characters_eq, Text.cut_behind spelled.noPlus]
  have core : Text.cut '-' (Text.behind '-' parts.core (suffix? parts.preRelease)) =
      (parts.core, suffix? parts.preRelease) :=
    Text.cut_behind (spelled.not_mem_core (by decide) (by decide)) _
  simp only [parse, canonical, String.toList_ofList, release, core, if_neg spelled.metadata,
    readPreRelease?_suffix? spelled.preRelease, readCore?_core spelled]
  rfl

theorem core_of_readCore? {text : List Char} {numbers : List Char × List Char × List Char}
    (read : readCore? text = some numbers) :
    ∃ major minor patch, isNumeric major = true ∧ isNumeric minor = true ∧ isNumeric patch = true ∧
      text = Text.join '.' [major, minor, patch] ∧
      numbers = (stripZeros major, stripZeros minor, stripZeros patch) := by
  have joined := Text.join_pieces '.' text
  unfold readCore? at read
  split at read
  · next major minor patch pieces =>
      rw [Option.ite_none_right_eq_some, Bool.and_eq_true, Bool.and_eq_true] at read
      rcases read with ⟨⟨⟨majorNumeric, minorNumeric⟩, patchNumeric⟩, same⟩
      rw [pieces] at joined
      exact ⟨major, minor, patch, majorNumeric, minorNumeric, patchNumeric, joined.symm,
        (Option.some.inj same).symm⟩
  · cases read

theorem suffix?_of_readPreRelease? {text? : Option (List Char)} {found : List (List Char)}
    (noPlus : ∀ text ∈ text?, '+' ∉ text) (read : readPreRelease? text? = some found) :
    ∃ identifiers, (∀ identifier ∈ identifiers, IsIdentifier identifier) ∧
      text? = suffix? identifiers ∧ found = identifiers.map canonicalIdentifier := by
  cases text? with
  | none =>
      cases read
      exact ⟨[], by simp, rfl, rfl⟩
  | some text =>
      simp only [readPreRelease?, Option.ite_none_left_eq_some, Option.some.injEq] at read
      rcases read with ⟨full, rfl⟩
      refine ⟨Text.pieces '.' text, ?_, ?_, rfl⟩
      · intro identifier member
        refine ⟨?_, Text.delimiter_not_mem_pieces '.' text identifier member, ?_⟩
        · intro empty
          apply full
          rw [List.any_eq_true]
          exact ⟨identifier, member, by rw [empty]; rfl⟩
        · intro plus
          exact noPlus text rfl (Text.mem_of_mem_pieces member plus)
      · rw [suffix?_of_ne_nil (Text.pieces_ne_nil '.' text), Text.join_pieces]

/-- The steps of reading, each of which has succeeded. -/
theorem steps_of_parse {text : String} {version : Version} (read : parse text = .ok version) :
    ∃ core text? metadata? identifiers numbers,
      text.toList = Text.behind '+' (Text.behind '-' core text?) metadata? ∧
      '+' ∉ Text.behind '-' core text? ∧ metadata? ≠ some [] ∧
      readPreRelease? text? = some identifiers ∧ readCore? core = some numbers ∧
      version = ⟨numbers.1, numbers.2.1, numbers.2.2, identifiers, metadata?⟩ := by
  have whole := Text.behind_cut '+' text.toList
  have noPlus := Text.delimiter_not_mem_cut '+' text.toList
  have parted := Text.behind_cut '-' (Text.cut '+' text.toList).1
  unfold parse at read
  dsimp only at read
  split at read
  · cases read
  · next present =>
      split at read
      · cases read
      · next identifiers suffix =>
          split at read
          · cases read
          · next major minor patch core =>
              refine ⟨_, _, _, identifiers, (major, minor, patch), ?_, ?_, present, suffix, core,
                (Except.ok.inj read).symm⟩
              · rw [parted, whole]
              · rwa [parted]

/-- A text is a version exactly if it is spelled from suitable parts. -/
theorem parse_eq_ok_iff {text : String} {version : Version} :
    parse text = .ok version ↔
      ∃ parts : Version, parts.Spelled ∧ parts.canonical = text ∧ parts.normalized = version := by
  constructor
  · intro read
    rcases steps_of_parse read with
      ⟨core, text?, metadata?, found, numbers, whole, noPlus, present, suffix, three, rfl⟩
    have noPlusBehind : ∀ text ∈ text?, '+' ∉ text := by
      rintro rest ⟨⟩ member
      exact noPlus (List.mem_append_right core (List.mem_cons_of_mem '-' member))
    rcases core_of_readCore? three with ⟨major, minor, patch, majorNumeric, minorNumeric,
      patchNumeric, rfl, rfl⟩
    rcases suffix?_of_readPreRelease? noPlusBehind suffix with ⟨identifiers, suitable, rfl, rfl⟩
    refine ⟨⟨major, minor, patch, identifiers, metadata?⟩,
      ⟨majorNumeric, minorNumeric, patchNumeric, suitable, present⟩, ?_, rfl⟩
    rw [canonical, characters_eq, core, ← whole, String.ofList_toList]
  · rintro ⟨parts, spelled, rfl, rfl⟩
    exact parse_canonical_of_spelled spelled

/-! ## Versions that have been read -/

/-- What holds of the parts of a version once it has been read. -/
structure Canonical (version : Version) : Prop where
  spelled : version.Spelled
  normalized : version.normalized = version

theorem canonical_of_parse {text : String} {version : Version} (read : parse text = .ok version) :
    version.Canonical := by
  rcases parse_eq_ok_iff.mp read with ⟨parts, spelled, _, rfl⟩
  exact ⟨spelled.normalized, normalized_normalized parts⟩

namespace Canonical

variable {version left right : Version}

/-- The canonical text of a version reads back as that version. -/
theorem reads (canonical : version.Canonical) : parse version.canonical = .ok version := by
  rw [parse_canonical_of_spelled canonical.spelled, canonical.normalized]

theorem canonical_inj (leftCanonical : left.Canonical) (rightCanonical : right.Canonical) :
    left.canonical = right.canonical ↔ left = right := by
  constructor
  · intro same
    have both := leftCanonical.reads
    rw [same, rightCanonical.reads] at both
    exact (Except.ok.inj both).symm
  · rintro rfl
    rfl

theorem stripped (canonical : version.Canonical) :
    stripZeros version.major = version.major ∧ stripZeros version.minor = version.minor ∧
      stripZeros version.patch = version.patch :=
  ⟨congrArg major canonical.normalized, congrArg minor canonical.normalized,
    congrArg patch canonical.normalized⟩

theorem preRelease (canonical : version.Canonical) :
    version.preRelease.map canonicalIdentifier = version.preRelease :=
  congrArg Version.preRelease canonical.normalized

end Canonical

end Version

end Targeting
