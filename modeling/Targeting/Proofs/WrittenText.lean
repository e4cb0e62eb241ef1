import Mathlib.Data.List.TakeDrop
import Targeting.Json.Reader
import Targeting.Json.Writer

/-!
# Reading back what was written

A text that was written stands for a value in which nothing but the doubles may have changed. How a
double comes back is a question of the double alone, whatever is around it: the characters of a
number end where the number ends. So a value is restored if its numbers are.

The induction is over the value, and `Reads` is what it says of every part: as many steps are enough
as the part has characters, whatever stands behind it.
-/

namespace Targeting

namespace Json

mutual

/-- A value with other doubles in it. -/
def mapNumbers (change : Double → Double) : Json → Json
  | .null => .null
  | .bool value => .bool value
  | .integer value => .integer value
  | .number value => .number (change value)
  | .string text => .string text
  | .array items => .array (mapNumbersOfItems change items)
  | .object fields => .object (mapNumbersOfFields change fields)

/-- The items of an array with other doubles in them. -/
def mapNumbersOfItems (change : Double → Double) : List Json → List Json
  | [] => []
  | item :: rest => item.mapNumbers change :: mapNumbersOfItems change rest

/-- The fields of an object with other doubles in them. -/
def mapNumbersOfFields (change : Double → Double) : List (String × Json) → List (String × Json)
  | [] => []
  | (name, value) :: rest => (name, value.mapNumbers change) :: mapNumbersOfFields change rest

end

mutual

@[simp] theorem mapNumbers_id : (json : Json) → json.mapNumbers id = json
  | .null | .bool _ | .integer _ | .number _ | .string _ => by simp [mapNumbers]
  | .array items => by rw [mapNumbers, mapNumbersOfItems_id]
  | .object fields => by rw [mapNumbers, mapNumbersOfFields_id]

@[simp] theorem mapNumbersOfItems_id : (items : List Json) → mapNumbersOfItems id items = items
  | [] => by rw [mapNumbersOfItems]
  | item :: rest => by rw [mapNumbersOfItems, mapNumbers_id, mapNumbersOfItems_id]

@[simp] theorem mapNumbersOfFields_id :
    (fields : List (String × Json)) → mapNumbersOfFields id fields = fields
  | [] => by rw [mapNumbersOfFields]
  | (name, value) :: rest => by rw [mapNumbersOfFields, mapNumbers_id, mapNumbersOfFields_id]

end

/-- A value that is nested no more than so many levels deep, that has no object with two fields of
one name, and of which all numbers satisfy a condition. -/
inductive Fits (condition : Json → Prop) : Nat → Json → Prop
  | null {levels : Nat} : Fits condition levels .null
  | bool {levels : Nat} {value : Bool} : Fits condition levels (.bool value)
  | integer {levels : Nat} {value : Int} (holds : condition (.integer value)) :
      Fits condition levels (.integer value)
  | number {levels : Nat} {value : Double} (holds : condition (.number value)) :
      Fits condition levels (.number value)
  | string {levels : Nat} {text : String} : Fits condition levels (.string text)
  | array {levels : Nat} {items : List Json} (each : ∀ item ∈ items, Fits condition levels item) :
      Fits condition (levels + 1) (.array items)
  | object {levels : Nat} {fields : List (String × Json)} (distinct : (fields.map Prod.fst).Nodup)
      (each : ∀ field ∈ fields, Fits condition levels field.2) :
      Fits condition (levels + 1) (.object fields)

/-- A way to write values as texts and to read them back. -/
structure TextCodec where
  write : Json → String
  read? : String → Option Json

namespace TextCodec

/-- The way of this library. -/
def standard : TextCodec := ⟨Json.write, Json.read?⟩

/-- Whether a number that is written alone is read back: an integer as itself, a double as one that
may be another. -/
def Rereads (codec : TextCodec) (reread : Double → Double) (number : Json) : Prop :=
  codec.read? (codec.write number) = some (number.mapNumbers reread)

/-- A value is read back if its numbers are, where it is not nested too deeply. The fields of an
object keep the order in which they were written. -/
def Restores (codec : TextCodec) (levels : Nat) : Prop :=
  ∀ (json : Json) (reread : Double → Double), json.Fits (codec.Rereads reread) levels →
    codec.read? (codec.write json) = some (json.mapNumbers reread)

instance (value : Double) : (json? : Option Json) → Decidable (json? = some (.number value))
  | some (.number other) => decidable_of_iff (other = value) (by simp)
  | none | some .null | some (.bool _) | some (.integer _) | some (.string _) | some (.array _)
  | some (.object _) => isFalse nofun

instance (codec : TextCodec) (reread : Double → Double) (value : Double) :
    Decidable (codec.Rereads reread (.number value)) :=
  decidable_of_iff (codec.read? (codec.write (.number value)) = some (.number (reread value)))
    (by rw [Rereads, mapNumbers])

end TextCodec

theorem read?_write (json : Json) :
    read? (write json) =
      (readValue? levelLimit (json.writeValue.length + 1) json.writeValue).bind
        fun (value, rest) => if (skipBlanks rest).isEmpty then some value else none := by
  simp only [read?, write, String.toList_ofList]
  rcases readValue? levelLimit (json.writeValue.length + 1) json.writeValue with _ | read
  · rfl
  · rfl

/-! ## Strings -/

theorem skipBlanks_cons {first : Char} (notBlank : isBlank first = false) (rest : List Char) :
    skipBlanks (first :: rest) = first :: rest := by
  simp [skipBlanks, notBlank]

theorem readUnit?_digits (code : Nat) (rest : List Char) :
    readUnit? (Hex.digits 4 code ++ rest) = some (code % Nat.pow 16 4, rest) := by
  have four := Hex.length_digits 4 code
  rw [readUnit?, List.take_left' four, List.drop_left' four, if_neg (by simp [four]),
    Hex.read?_digits]
  rfl

/-- Escaped characters are far below the surrogates. -/
theorem readCodePoint?_digits {character : Char} (escaped : needsEscape character = true)
    (rest : List Char) :
    readCodePoint? (Hex.digits 4 character.toNat ++ rest) = some (character, rest) := by
  have small : character.toNat < 0xD800 := by
    simp only [needsEscape, Bool.or_eq_true, decide_eq_true_eq] at escaped
    rcases escaped with ((((control | rfl) | rfl) | _) | _) | _
    · omega
    · decide
    · decide
    all_goals omega
  have word : character.toNat % Nat.pow 16 4 = character.toNat :=
    Nat.mod_eq_of_lt (Nat.lt_trans small (by decide))
  have valid : character.toNat.isValidChar := .inl small
  have notHigh : ¬(0xD800 ≤ character.toNat ∧ character.toNat < 0xDC00) := by omega
  simp only [readCodePoint?, readUnit?_digits, word, Option.bind_eq_bind, Option.bind_some,
    if_neg notHigh, character?, if_pos valid, Char.ofNat_toNat]

/-- A written character is read as one, in one step. -/
theorem readString?_writeCharacter (steps : Nat) (seen : List Char) (character : Char)
    (rest : List Char) :
    readString? (steps + 1) seen (writeCharacter character ++ rest) =
      readString? steps (character :: seen) rest := by
  unfold writeCharacter
  split
  · next quote =>
      subst quote
      rfl
  · next notQuote =>
      split
      · next backslash =>
          subst backslash
          rfl
      · next notBackslash =>
          split
          · next escaped =>
              have read : readEscape? ('u' :: (Hex.digits 4 character.toNat ++ rest)) =
                  some (character, rest) := readCodePoint?_digits escaped rest
              rw [List.cons_append, List.cons_append, readString?, if_neg (by decide),
                if_pos rfl, read]
          · next plain =>
              have notControl : ¬character.toNat < 32 := by
                intro control
                exact plain (by simp [needsEscape, control])
              rw [List.singleton_append, readString?, if_neg notQuote, if_neg notBackslash,
                if_neg notControl]

theorem readString?_writeCharacters {steps : Nat} (seen : List Char) {characters : List Char}
    (enough : characters.length < steps) (rest : List Char) :
    readString? steps seen (characters.flatMap writeCharacter ++ '"' :: rest) =
      some (String.ofList (seen.reverse ++ characters), rest) := by
  induction characters generalizing steps seen with
  | nil =>
      rcases steps with _ | steps
      · cases enough
      · simp [readString?]
  | cons character others ih =>
      rcases steps with _ | steps
      · cases enough
      · rw [List.flatMap_cons, List.append_assoc, readString?_writeCharacter,
          ih _ (Nat.lt_of_succ_lt_succ enough)]
        simp

theorem length_le_length_flatMap_writeCharacter (characters : List Char) :
    characters.length ≤ (characters.flatMap writeCharacter).length := by
  induction characters with
  | nil => exact Nat.le_refl _
  | cons character others ih =>
      have positive : 0 < (writeCharacter character).length := by
        unfold writeCharacter
        repeat' split
        all_goals simp
      simp only [List.flatMap_cons, List.length_append, List.length_cons]
      omega

theorem readString?_writeString {steps : Nat} {text : String}
    (enough : (writeString text).length ≤ steps) (rest : List Char) :
    ∃ others, writeString text ++ rest = '"' :: others ∧
      readString? steps [] others = some (text, rest) := by
  refine ⟨text.toList.flatMap writeCharacter ++ '"' :: rest, by simp [writeString], ?_⟩
  have bound := length_le_length_flatMap_writeCharacter text.toList
  rw [readString?_writeCharacters]
  · simp
  · simp only [writeString, List.cons_append, List.length_cons, List.length_append] at enough
    omega

/-! ## Numbers -/

/-- A text that has characters, all of which may stand in a number. -/
structure IsNumeric (text : List Char) : Prop where
  nonempty : text ≠ []
  characters : ∀ character ∈ text, isNumberCharacter character = true

theorem IsNumeric.singleton {character : Char} (numeric : isNumberCharacter character = true) :
    IsNumeric [character] :=
  ⟨List.cons_ne_nil _ _, List.forall_mem_singleton.mpr numeric⟩

theorem IsNumeric.cons {text : List Char} (others : IsNumeric text) {character : Char}
    (numeric : isNumberCharacter character = true) : IsNumeric (character :: text) :=
  ⟨List.cons_ne_nil _ _, List.forall_mem_cons.mpr ⟨numeric, others.characters⟩⟩

/-- No number goes on into a text. -/
def Delimited (text : List Char) : Prop :=
  ∀ character ∈ text.head?, isNumberCharacter character = false

theorem delimited_nil : Delimited [] := by simp [Delimited]

theorem isNumberCharacter_of_mem_toDigits {value : Nat} {character : Char}
    (member : character ∈ Nat.toDigits 10 value) : isNumberCharacter character = true := by
  have digit := Nat.isDigit_of_mem_toDigits (by decide) (by decide) member
  simp only [Char.isDigit, Bool.and_eq_true, decide_eq_true_eq, ge_iff_le,
    UInt32.le_iff_toNat_le] at digit
  have isDigit : Numeral.isDigit character = true := Numeral.isDigit_iff.mpr digit
  rw [isNumberCharacter, isDigit, Bool.true_or]

theorem isNumeric_writeInteger (value : Int) : IsNumeric (writeInteger value) := by
  have digits : IsNumeric (Nat.toDigits 10 value.natAbs) :=
    ⟨Nat.toDigits_ne_nil, fun _ member => isNumberCharacter_of_mem_toDigits member⟩
  unfold writeInteger
  split
  · exact digits.cons (by decide)
  · exact digits

theorem isNumberCharacter_of_mem_significantDigits {value : Nat} {character : Char}
    (member : character ∈ Double.significantDigits value) : isNumberCharacter character = true := by
  apply isNumberCharacter_of_mem_toDigits
  have kept := List.dropWhile_sublist _ |>.mem (List.mem_reverse.mp member)
  exact List.mem_reverse.mp kept

section

variable {number : Double.Digits}
  (digits : ∀ character ∈ number.digits, isNumberCharacter character = true)

include digits

theorem isNumberCharacter_of_mem_positional :
    ∀ character ∈ number.positional, isNumberCharacter character = true := by
  have zeros : ∀ count, ∀ character ∈ List.replicate count '0',
      isNumberCharacter character = true := by
    intro count character member
    rw [List.eq_of_mem_replicate member]
    decide
  unfold Double.Digits.positional
  split
  · simp only [List.cons_append, List.forall_mem_cons, List.forall_mem_append]
    exact ⟨by decide, by decide, zeros _, digits⟩
  · split
    · exact List.forall_mem_append.mpr ⟨digits, zeros _⟩
    · simp only [List.forall_mem_append, List.forall_mem_cons]
      exact ⟨fun _ member => digits _ (List.mem_of_mem_take member), by decide,
        fun _ member => digits _ (List.mem_of_mem_drop member)⟩

theorem isNumberCharacter_of_mem_mantissa :
    ∀ character ∈ number.mantissa, isNumberCharacter character = true := by
  unfold Double.Digits.mantissa
  split
  · simp
  · next first same => rwa [same] at digits
  · next first rest _ same =>
      rw [same, List.forall_mem_cons] at digits
      simp only [List.forall_mem_cons]
      exact ⟨digits.1, by decide, digits.2⟩

theorem isNumeric_writeDigits : IsNumeric (writeDigits number) := by
  have positional := isNumberCharacter_of_mem_positional digits
  unfold writeDigits
  split
  · have fraction : IsNumeric ['.', '0'] := (IsNumeric.singleton (by decide)).cons (by decide)
    exact ⟨by simp, List.forall_mem_append.mpr ⟨positional, fraction.characters⟩⟩
  · split
    · refine ⟨?_, positional⟩
      unfold Double.Digits.positional
      repeat' split
      · simp
      · omega
      · simp
    · have mantissa := isNumberCharacter_of_mem_mantissa digits
      have exponent := (isNumeric_writeInteger (number.point - 1)).cons
        (show isNumberCharacter 'e' = true by decide)
      exact ⟨by simp, List.forall_mem_append.mpr ⟨mantissa, exponent.characters⟩⟩

end

theorem isNumeric_writeDouble {number : Double} (finite : number.isFinite) :
    IsNumeric (writeDouble number) := by
  have signed : ∀ {text}, IsNumeric text →
      IsNumeric ((if number.isNegative then ['-'] else []) ++ text) := by
    intro text numeric
    split
    · exact numeric.cons (by decide)
    · exact numeric
  simp only [writeDouble, finite, Bool.not_true, Bool.false_eq_true, if_false]
  by_cases zero : number.magnitude = 0
  · rw [if_pos zero]
    have fraction : IsNumeric ['.', '0'] := (IsNumeric.singleton (by decide)).cons (by decide)
    exact signed (fraction.cons (by decide))
  · rw [if_neg zero]
    apply signed
    apply isNumeric_writeDigits
    exact fun _ member => isNumberCharacter_of_mem_significantDigits member

theorem isBlank_eq_false_of_isNumberCharacter {character : Char}
    (numeric : isNumberCharacter character = true) : isBlank character = false := by
  rw [Bool.eq_false_iff]
  intro blank
  simp only [isBlank, Bool.or_eq_true, decide_eq_true_eq] at blank
  rcases blank with ((rfl | rfl) | rfl) | rfl <;> cases numeric

/-- A number is read up to its end. -/
theorem readValue?_of_isNumeric {text rest : List Char} (numeric : IsNumeric text)
    (delimited : Delimited rest) (levels steps : Nat) :
    readValue? levels (steps + 1) (text ++ rest) = (number? text).map (·, rest) := by
  have parts : (text ++ rest).span isNumberCharacter = (text, rest) := by
    have ends : rest.takeWhile isNumberCharacter = [] ∧
        rest.dropWhile isNumberCharacter = rest := by
      rcases rest with _ | ⟨character, others⟩
      · exact ⟨rfl, rfl⟩
      · have stops := delimited character rfl
        simp [stops]
    rw [List.span_eq_takeWhile_dropWhile, List.takeWhile_append_of_pos numeric.characters,
      List.dropWhile_append_of_pos numeric.characters, ends.1, ends.2, List.append_nil]
  rcases text with _ | ⟨first, others⟩
  · exact absurd rfl numeric.nonempty
  · have starts := numeric.characters first List.mem_cons_self
    have notBlank := isBlank_eq_false_of_isNumberCharacter starts
    rw [List.cons_append] at parts
    rw [readValue?, List.cons_append, skipBlanks_cons notBlank]
    split
    case h_8 => rw [parts]
    case h_1 same => cases same
    all_goals
      next same =>
        cases same
        exact absurd starts (by decide)

/-- A text is read as a value wherever it stands, given as many steps as it has characters. -/
def Reads (levels : Nat) (text : List Char) (value : Json) : Prop :=
  ∀ (steps : Nat) (rest : List Char), text.length ≤ steps → Delimited rest →
    readValue? levels steps (text ++ rest) = some (value, rest)

/-- A number that is read when it stands alone is also read in front of other text. -/
theorem reads_of_isNumeric {number value : Json} (numeric : IsNumeric number.writeValue)
    (alone : read? (write number) = some value) (levels : Nat) :
    Reads levels number.writeValue value := by
  have whole := readValue?_of_isNumeric numeric delimited_nil levelLimit number.writeValue.length
  have read : number? number.writeValue = some value := by
    rw [List.append_nil] at whole
    rw [← alone, read?_write, whole]
    rcases number? number.writeValue with _ | value
    · rfl
    · rfl
  intro steps rest enough delimited
  have positive := List.length_pos_iff.mpr numeric.nonempty
  rcases steps with _ | steps
  · omega
  rw [readValue?_of_isNumeric numeric delimited, read]
  rfl

/-! ## Arrays and objects -/

/-- How the reader goes on after an item of an array. -/
def continueItems (levels steps : Nat) (seen : List Json) (text : List Char) :
    Option (List Json × List Char) :=
  match skipBlanks text with
  | ',' :: rest => readItems? levels steps seen rest
  | ']' :: rest => some (seen.reverse, rest)
  | _ => none

theorem readItems?_of_item {levels steps : Nat} {text rest : List Char} {item : Json}
    (read : readValue? levels steps text = some (item, rest)) (seen : List Json) :
    readItems? levels (steps + 1) seen text = continueItems levels steps (item :: seen) rest := by
  rw [readItems?, read]
  rfl

theorem continueItems_comma (levels steps : Nat) (seen : List Json) (rest : List Char) :
    continueItems levels steps seen (',' :: rest) = readItems? levels steps seen rest := by
  rw [continueItems, skipBlanks_cons (by decide)]
  rfl

/-- How the reader goes on after a field of an object. -/
def continueFields (levels steps : Nat) (seen : List (String × Json)) (text : List Char) :
    Option (List (String × Json) × List Char) :=
  match skipBlanks text with
  | ',' :: rest => readFields? levels steps seen rest
  | '\x7d' :: rest => some (seen.reverse, rest)
  | _ => none

theorem readFields?_of_field {levels steps : Nat} {name : String} {text rest : List Char}
    {value : Json} (enough : (writeString name).length ≤ steps + 1)
    (read : readValue? levels steps text = some (value, rest)) (seen : List (String × Json)) :
    readFields? levels (steps + 1) seen (writeString name ++ ':' :: text) =
      continueFields levels steps ((name, value) :: seen) rest := by
  rcases readString?_writeString enough (':' :: text) with ⟨others, starts, named⟩
  rw [starts, readFields?, skipBlanks_cons (by decide)]
  simp only [named, skipBlanks_cons (show isBlank ':' = false by decide), read]
  rfl

theorem continueFields_comma (levels steps : Nat) (seen : List (String × Json))
    (rest : List Char) :
    continueFields levels steps seen (',' :: rest) = readFields? levels steps seen rest := by
  rw [continueFields, skipBlanks_cons (by decide)]
  rfl

/-- A written value starts with a character that is neither a blank nor a closing bracket. -/
theorem exists_cons_writeValue (json : Json) :
    ∃ first others, json.writeValue = first :: others ∧ isBlank first = false ∧ first ≠ ']' := by
  have numeric : ∀ {text : List Char}, IsNumeric text →
      ∃ first others, text = first :: others ∧ isBlank first = false ∧ first ≠ ']' := by
    intro text numeric
    rcases text with _ | ⟨first, others⟩
    · exact absurd rfl numeric.nonempty
    · have starts := numeric.characters first List.mem_cons_self
      refine ⟨first, others, rfl, isBlank_eq_false_of_isNumberCharacter starts, ?_⟩
      rintro rfl
      exact absurd starts (by decide)
  cases json with
  | null => exact ⟨_, _, by rw [writeValue], by decide, by decide⟩
  | bool value =>
      cases value
      · exact ⟨_, _, by rw [writeValue], by decide, by decide⟩
      · exact ⟨_, _, by rw [writeValue], by decide, by decide⟩
  | integer value =>
      rw [writeValue]
      exact numeric (isNumeric_writeInteger value)
  | number value =>
      rw [writeValue]
      by_cases finite : value.isFinite
      · exact numeric (isNumeric_writeDouble finite)
      · exact ⟨_, _, by rw [writeDouble, if_pos (by simpa using finite)], by decide, by decide⟩
  | string text => exact ⟨_, _, by rw [writeValue, writeString]; rfl, by decide, by decide⟩
  | array items =>
      cases items with
      | nil => exact ⟨_, _, by rw [writeValue], by decide, by decide⟩
      | cons item rest => exact ⟨_, _, by rw [writeValue]; rfl, by decide, by decide⟩
  | object fields =>
      cases fields with
      | nil => exact ⟨_, _, by rw [writeValue], by decide, by decide⟩
      | cons field rest => exact ⟨_, _, by rw [writeValue]; rfl, by decide, by decide⟩

theorem readValue?_of_items (levels steps : Nat) (item : Json) (rest : List Char) :
    readValue? (levels + 1) (steps + 1) ('[' :: (item.writeValue ++ rest)) =
      (readItems? levels steps [] (item.writeValue ++ rest)).map fun (items, rest) =>
        (.array items, rest) := by
  rcases exists_cons_writeValue item with ⟨first, others, written, notBlank, notClosed⟩
  rw [written, readValue?, skipBlanks_cons (by decide)]
  simp only [List.cons_append, skipBlanks_cons notBlank]
  split
  · contradiction
  · next closed _ =>
      cases closed
      contradiction
  · next deeper _ =>
      cases deeper
      rfl

theorem readValue?_of_fields (levels steps : Nat) (name : String) (rest : List Char) :
    readValue? (levels + 1) (steps + 1) ('\x7b' :: (writeString name ++ rest)) =
      (readFields? levels steps [] (writeString name ++ rest)).map fun (fields, rest) =>
        (.object fields, rest) := by
  rw [readValue?, skipBlanks_cons (by decide)]
  simp only [writeString, List.cons_append, skipBlanks_cons (show isBlank '"' = false by decide)]
  rfl

section

variable {levels steps : Nat}

/-- No number goes on into the next item, nor into the bracket at the end. -/
theorem delimited_writeItems (items : List Json) (rest : List Char) :
    Delimited (writeItems items ++ ']' :: rest) := by
  cases items with
  | nil => simp [writeItems, Delimited, isNumberCharacter, Numeral.isDigit]
  | cons item others => simp [writeItems, Delimited, isNumberCharacter, Numeral.isDigit]

/-- A text is read as the items after the first. -/
def ReadsItems (levels : Nat) (text : List Char) (items : List Json) : Prop :=
  ∀ (steps : Nat) (seen : List Json) (rest : List Char), text.length ≤ steps →
    continueItems levels steps seen (text ++ ']' :: rest) = some (seen.reverse ++ items, rest)

section

variable {item value : Json} {others values : List Json}
  (first : Reads levels item.writeValue value)
  (later : ReadsItems levels (writeItems others) values)

include first later

theorem readItems?_of_reads (seen : List Json) (rest : List Char)
    (enough : item.writeValue.length + (writeItems others).length < steps) :
    readItems? levels steps seen (item.writeValue ++ (writeItems others ++ ']' :: rest)) =
      some (seen.reverse ++ value :: values, rest) := by
  rcases steps with _ | steps
  · omega
  have read := first steps _ (by omega) (delimited_writeItems others rest)
  rw [readItems?_of_item read, later steps _ _ (by omega)]
  simp

theorem readsItems_cons : ReadsItems levels (writeItems (item :: others)) (value :: values) := by
  intro steps seen rest enough
  simp only [writeItems, List.cons_append, List.length_cons, List.length_append] at enough
  have text : writeItems (item :: others) ++ ']' :: rest =
      ',' :: (item.writeValue ++ (writeItems others ++ ']' :: rest)) := by
    simp [writeItems]
  rw [text, continueItems_comma, readItems?_of_reads first later _ _ (by omega)]

theorem reads_array :
    Reads (levels + 1) (writeValue (.array (item :: others))) (.array (value :: values)) := by
  intro steps rest enough _
  simp only [writeValue, List.cons_append, List.length_cons, List.length_append] at enough
  have text : writeValue (.array (item :: others)) ++ rest =
      '[' :: (item.writeValue ++ (writeItems others ++ ']' :: rest)) := by
    simp [writeValue]
  rcases steps with _ | steps
  · omega
  rw [text, readValue?_of_items, readItems?_of_reads first later _ _ (by omega)]
  rfl

end

theorem delimited_writeFields (fields : List (String × Json)) (rest : List Char) :
    Delimited (writeFields fields ++ '\x7d' :: rest) := by
  cases fields with
  | nil => simp [writeFields, Delimited, isNumberCharacter, Numeral.isDigit]
  | cons field others => simp [writeFields, Delimited, isNumberCharacter, Numeral.isDigit]

/-- A text is read as the fields after the first. -/
def ReadsFields (levels : Nat) (text : List Char) (fields : List (String × Json)) : Prop :=
  ∀ (steps : Nat) (seen : List (String × Json)) (rest : List Char), text.length ≤ steps →
    continueFields levels steps seen (text ++ '\x7d' :: rest) = some (seen.reverse ++ fields, rest)

section

variable {name : String} {written value : Json} {others values : List (String × Json)}
  (first : Reads levels written.writeValue value)
  (later : ReadsFields levels (writeFields others) values)

include first later

theorem readFields?_of_reads (seen : List (String × Json)) (rest : List Char)
    (enough : (writeString name).length + written.writeValue.length +
      (writeFields others).length < steps) :
    readFields? levels steps seen (writeString name ++ ':' ::
        (written.writeValue ++ (writeFields others ++ '\x7d' :: rest))) =
      some (seen.reverse ++ (name, value) :: values, rest) := by
  rcases steps with _ | steps
  · omega
  have read := first steps _ (by omega) (delimited_writeFields others rest)
  rw [readFields?_of_field (by omega) read, later steps _ _ (by omega)]
  simp

theorem readsFields_cons :
    ReadsFields levels (writeFields ((name, written) :: others)) ((name, value) :: values) := by
  intro steps seen rest enough
  simp only [writeFields, List.cons_append, List.length_cons, List.length_append] at enough
  have text : writeFields ((name, written) :: others) ++ '\x7d' :: rest =
      ',' :: (writeString name ++ ':' ::
        (written.writeValue ++ (writeFields others ++ '\x7d' :: rest))) := by
    simp [writeFields]
  rw [text, continueFields_comma, readFields?_of_reads first later _ _ (by omega)]

theorem reads_object :
    Reads (levels + 1) (writeValue (.object ((name, written) :: others)))
      (.object ((name, value) :: values)) := by
  intro steps rest enough _
  simp only [writeValue, List.cons_append, List.length_cons, List.length_append] at enough
  have text : writeValue (.object ((name, written) :: others)) ++ rest =
      '\x7b' :: (writeString name ++ ':' ::
        (written.writeValue ++ (writeFields others ++ '\x7d' :: rest))) := by
    simp [writeValue]
  rcases steps with _ | steps
  · omega
  rw [text, readValue?_of_fields, readFields?_of_reads first later _ _ (by omega)]
  rfl

end

end

/-! ## Whole values -/

section

open TextCodec

variable {reread : Double → Double} {levels : Nat}

/-- A double that is not finite is read back as null. -/
theorem isFinite_of_rereads {value : Double} (alone : standard.Rereads reread (.number value)) :
    value.isFinite = true := by
  by_contra infinite
  have written : write (.number value) = write .null := by
    rw [write, write, writeValue, writeValue, writeDouble, if_pos (by simpa using infinite)]
  simp only [Rereads, standard, written, mapNumbers] at alone
  cases alone

/-- A word or a string is read in one step. -/
theorem reads_of_one_step {text : List Char} {value : Json} (nonempty : text ≠ [])
    (read : ∀ (steps : Nat) (rest : List Char), text.length ≤ steps + 1 →
      readValue? levels (steps + 1) (text ++ rest) = some (value, rest)) :
    Reads levels text value := by
  intro steps rest enough _
  rcases steps with _ | steps
  · exact absurd (List.length_eq_zero_iff.mp (Nat.le_zero.mp enough)) nonempty
  · exact read steps rest enough

mutual

theorem reads_writeValue : (json : Json) → {levels : Nat} →
    json.Fits (standard.Rereads reread) levels →
      Reads levels json.writeValue (json.mapNumbers reread)
  | .null, _, _ => by
      rw [writeValue, mapNumbers]
      exact reads_of_one_step (by simp) fun _ _ _ => rfl
  | .bool true, _, _ => by
      rw [writeValue, mapNumbers]
      exact reads_of_one_step (by simp) fun _ _ _ => rfl
  | .bool false, _, _ => by
      rw [writeValue, mapNumbers]
      exact reads_of_one_step (by simp) fun _ _ _ => rfl
  | .integer value, levels, .integer alone => by
      apply reads_of_isNumeric _ alone levels
      rw [writeValue]
      exact isNumeric_writeInteger value
  | .number value, levels, .number alone => by
      apply reads_of_isNumeric _ alone levels
      rw [writeValue]
      exact isNumeric_writeDouble (isFinite_of_rereads alone)
  | .string text, _, _ => by
      rw [writeValue, mapNumbers]
      refine reads_of_one_step (by simp [writeString]) fun steps rest enough => ?_
      rcases readString?_writeString enough rest with ⟨others, starts, read⟩
      rw [starts, readValue?, skipBlanks_cons (by decide)]
      simp only [read, Option.map_some]
  | .array [], _, .array _ => by
      rw [writeValue, mapNumbers, mapNumbersOfItems]
      exact reads_of_one_step (by simp) fun _ _ _ => rfl
  | .array (item :: others), _, .array each => by
      rcases List.forall_mem_cons.mp each with ⟨first, each⟩
      rw [mapNumbers, mapNumbersOfItems]
      exact reads_array (reads_writeValue item first) (readsItems_writeItems others each)
  | .object [], _, .object _ _ => by
      rw [writeValue, mapNumbers, mapNumbersOfFields]
      exact reads_of_one_step (by simp) fun _ _ _ => rfl
  | .object ((name, value) :: others), _, .object _ each => by
      rcases List.forall_mem_cons.mp each with ⟨first, each⟩
      rw [mapNumbers, mapNumbersOfFields]
      exact reads_object (reads_writeValue value first) (readsFields_writeFields others each)

theorem readsItems_writeItems : (items : List Json) → {levels : Nat} →
    (∀ item ∈ items, item.Fits (standard.Rereads reread) levels) →
      ReadsItems levels (writeItems items) (mapNumbersOfItems reread items)
  | [], _, _ => by
      intro steps seen rest _
      rw [writeItems, mapNumbersOfItems, List.append_nil]
      rfl
  | item :: others, _, each => by
      rcases List.forall_mem_cons.mp each with ⟨first, each⟩
      rw [mapNumbersOfItems]
      exact readsItems_cons (reads_writeValue item first) (readsItems_writeItems others each)

theorem readsFields_writeFields : (fields : List (String × Json)) → {levels : Nat} →
    (∀ field ∈ fields, field.2.Fits (standard.Rereads reread) levels) →
      ReadsFields levels (writeFields fields) (mapNumbersOfFields reread fields)
  | [], _, _ => by
      intro steps seen rest _
      rw [writeFields, mapNumbersOfFields, List.append_nil]
      rfl
  | (name, value) :: others, _, each => by
      rcases List.forall_mem_cons.mp each with ⟨first, each⟩
      rw [mapNumbersOfFields]
      exact readsFields_cons (reads_writeValue value first) (readsFields_writeFields others each)

end

/-- What was written is restored up to the depth that the reader goes to. -/
theorem restores_standard : standard.Restores levelLimit := by
  intro json reread fits
  have whole := reads_writeValue json fits _ _ (Nat.le_succ json.writeValue.length) delimited_nil
  rw [List.append_nil] at whole
  simp only [standard, read?_write, whole]
  rfl

end

end Json

end Targeting
