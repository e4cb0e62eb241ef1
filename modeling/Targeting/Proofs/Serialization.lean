import Targeting.Proofs.KeyObject
import Targeting.Proofs.Nearest
import Targeting.Proofs.WrittenText

/-!
# Attributes written as JSON

JSON has no form for a number that is infinite or a not-a-number. Such a number becomes null, and as
a JSON value in memory everything else about an attribute can be read back, however deep the
attribute is nested.

A text may lose more than that. Readers of texts have a limit to the depth, and not all of them read
a number exactly: `Json.number?` rounds more than once, and so comes to a neighbour of some doubles
that were written. What a reader of texts does to doubles is therefore a function here, and the text
codec a parameter of which only `Json.TextCodec.Restores` is known.

Numbers are the only values that JSON has more kinds of than attributes have. `Denotes` says what
either reader makes of a JSON value without saying how: a value of the same kind, with the same
parts, and the nearest double in place of an integer.
-/

namespace Targeting

namespace Double

/-- Plus or minus infinity. -/
def isInfinite (number : Double) : Bool := decide (number.magnitude = infinityMagnitude)

theorem isFinite_eq (number : Double) :
    number.isFinite = !(number.isNaN || number.isInfinite) := by
  rw [Bool.eq_iff_iff]
  simp only [isFinite, isNaN, isInfinite, Bool.not_eq_true', Bool.or_eq_false_iff,
    decide_eq_true_eq, decide_eq_false_iff_not]
  omega

end Double

namespace Attribute

mutual

/-- An attribute with something in place of each of its numbers. -/
def replaceNumbers (replacement : Double → Attribute) : Attribute → Attribute
  | string text => string text
  | array items => array (replaceNumbersOfItems replacement items)
  | number value => replacement value
  | bool value => bool value
  | object fields => object (replaceNumbersOfFields replacement fields)
  | null => null

/-- The items of an array with something in place of each of their numbers. -/
def replaceNumbersOfItems (replacement : Double → Attribute) : List Attribute → List Attribute
  | [] => []
  | item :: rest =>
      item.replaceNumbers replacement :: replaceNumbersOfItems replacement rest

/-- The fields of an object with something in place of each of their numbers. -/
def replaceNumbersOfFields (replacement : Double → Attribute) :
    List (String × Attribute) → List (String × Attribute)
  | [] => []
  | (name, value) :: rest =>
      (name, value.replaceNumbers replacement) :: replaceNumbersOfFields replacement rest

end

/-- What becomes of a number that is written and read back. -/
def rereadNumber (reread : Double → Double) (value : Double) : Attribute :=
  if value.isNaN || value.isInfinite then null else number (reread value)

/-- What becomes of an attribute that is written and read back, given what becomes of its finite
numbers. -/
def restored (reread : Double → Double) (value : Attribute) : Attribute :=
  value.replaceNumbers (rereadNumber reread)

/-- An attribute with null in place of each number that is infinite or a not-a-number. -/
def withNulls (value : Attribute) : Attribute := value.restored id

section

variable (reread : Double → Double)

theorem ofJson_mapNumbers_number (value : Double) :
    ofJson ((number value).toJson.mapNumbers reread) = rereadNumber reread value := by
  rw [toJson, Double.isFinite_eq, rereadNumber]
  rcases value.isNaN || value.isInfinite
  · simp [Json.mapNumbers, ofJson]
  · simp [Json.mapNumbers, ofJson]

mutual

theorem ofJson_mapNumbers_toJson :
    (value : Attribute) → ofJson (value.toJson.mapNumbers reread) = value.restored reread
  | string text => by simp only [toJson, Json.mapNumbers, ofJson, restored, replaceNumbers]
  | array items => by
      simp only [toJson, Json.mapNumbers, ofJson, restored, replaceNumbers,
        ofJsonList_mapNumbers_toJsonList items]
  | number value => by rw [ofJson_mapNumbers_number, restored, replaceNumbers]
  | bool value => by simp only [toJson, Json.mapNumbers, ofJson, restored, replaceNumbers]
  | object fields => by
      simp only [toJson, Json.mapNumbers, ofJson, restored, replaceNumbers,
        ofJsonFields_mapNumbers_toJsonFields fields]
  | null => by simp only [toJson, Json.mapNumbers, ofJson, restored, replaceNumbers]

theorem ofJsonList_mapNumbers_toJsonList :
    (items : List Attribute) →
      ofJsonList (Json.mapNumbersOfItems reread (toJsonList items)) =
        replaceNumbersOfItems (rereadNumber reread) items
  | [] => by simp only [toJsonList, Json.mapNumbersOfItems, ofJsonList, replaceNumbersOfItems]
  | item :: rest => by
      simp only [toJsonList, Json.mapNumbersOfItems, ofJsonList, replaceNumbersOfItems,
        ofJson_mapNumbers_toJson item, ofJsonList_mapNumbers_toJsonList rest, restored]

theorem ofJsonFields_mapNumbers_toJsonFields :
    (fields : List (String × Attribute)) →
      ofJsonFields (Json.mapNumbersOfFields reread (toJsonFields fields)) =
        replaceNumbersOfFields (rereadNumber reread) fields
  | [] => by simp only [toJsonFields, Json.mapNumbersOfFields, ofJsonFields, replaceNumbersOfFields]
  | (name, value) :: rest => by
      simp only [toJsonFields, Json.mapNumbersOfFields, ofJsonFields, replaceNumbersOfFields,
        ofJson_mapNumbers_toJson value, ofJsonFields_mapNumbers_toJsonFields rest, restored]

end

end

theorem ofJson_toJson (value : Attribute) : ofJson value.toJson = value.withNulls := by
  rw [withNulls, ← ofJson_mapNumbers_toJson, Json.mapNumbers_id]

/-- An array of infinity and of an object that has a half in it. -/
example :
    ofJson (array [number ⟨0x7FF0000000000000⟩,
        object [("half", number ⟨0x3FE0000000000000⟩)]]).toJson =
      array [null, object [("half", number ⟨0x3FE0000000000000⟩)]] := by
  rfl

mutual

/-- What a JSON value says as an attribute. -/
inductive Denotes : Json → Attribute → Prop
  | null : Denotes .null null
  | bool (value : Bool) : Denotes (.bool value) (bool value)
  | integer {value : Int} {number : Double}
      (nearest : -2 ^ 63 ≤ value → value < 2 ^ 64 → number.IsNearest value) :
      Denotes (.integer value) (.number number)
  | number (value : Double) : Denotes (.number value) (number value)
  | string (text : String) : Denotes (.string text) (string text)
  | array {items : List Json} {values : List Attribute} (alike : DenoteInOrder items values) :
      Denotes (.array items) (array values)
  | object {fields : List (String × Json)} {values : List (String × Attribute)}
      (alike : DenoteByName fields values) : Denotes (.object fields) (object values)

/-- What the items of an array say, one after another. -/
inductive DenoteInOrder : List Json → List Attribute → Prop
  | nil : DenoteInOrder [] []
  | cons {json : Json} {value : Attribute} {items : List Json} {values : List Attribute}
      (first : Denotes json value) (others : DenoteInOrder items values) :
      DenoteInOrder (json :: items) (value :: values)

/-- What the fields of an object say, each under its name. -/
inductive DenoteByName : List (String × Json) → List (String × Attribute) → Prop
  | nil : DenoteByName [] []
  | cons {name : String} {json : Json} {value : Attribute} {fields : List (String × Json)}
      {values : List (String × Attribute)} (first : Denotes json value)
      (others : DenoteByName fields values) :
      DenoteByName ((name, json) :: fields) ((name, value) :: values)

end

mutual

theorem denotes_ofJson : (json : Json) → Denotes json (ofJson json)
  | .null => by
      rw [ofJson]
      exact .null
  | .bool value => by
      rw [ofJson]
      exact .bool value
  | .integer value => by
      rw [ofJson]
      apply Denotes.integer
      intro lower upper
      apply Double.isNearest_ofInt
      omega
  | .number value => by
      rw [ofJson]
      exact .number value
  | .string text => by
      rw [ofJson]
      exact .string text
  | .array items => by
      rw [ofJson]
      exact .array (denoteInOrder_ofJsonList items)
  | .object fields => by
      rw [ofJson]
      exact .object (denoteByName_ofJsonFields fields)

theorem denoteInOrder_ofJsonList : (items : List Json) → DenoteInOrder items (ofJsonList items)
  | [] => by
      rw [ofJsonList]
      exact .nil
  | item :: rest => by
      rw [ofJsonList]
      exact .cons (denotes_ofJson item) (denoteInOrder_ofJsonList rest)

theorem denoteByName_ofJsonFields :
    (fields : List (String × Json)) → DenoteByName fields (ofJsonFields fields)
  | [] => by
      rw [ofJsonFields]
      exact .nil
  | (name, value) :: rest => by
      rw [ofJsonFields]
      exact .cons (denotes_ofJson value) (denoteByName_ofJsonFields rest)

end

/-- An attribute that is written as a text comes back with null for the numbers that JSON has no
form for, and with the other numbers as their own texts are read back. Without a text in between
nothing happens to a number. Both readers agree on every JSON value, and give what it denotes. -/
theorem written_is_restored_and_readers_agree (codec : Json.TextCodec) {levels : Nat}
    (restores : codec.Restores levels) :
    (∀ (value : Attribute) (reread : Double → Double),
      value.toJson.Fits (codec.Rereads reread) levels →
        (codec.read? (codec.write value.toJson)).bind read? = some (value.restored reread) ∧
          (codec.read? (codec.write value.toJson)).map ofJson = some (value.restored reread)) ∧
      (∀ value : Attribute,
        read? value.toJson = some value.withNulls ∧ ofJson value.toJson = value.withNulls) ∧
      ∀ json : Json, read? json = some (ofJson json) ∧ Denotes json (ofJson json) := by
  refine ⟨?_, ?_, ?_⟩
  · intro value reread fits
    rw [restores value.toJson reread fits, Option.bind_some, Option.map_some, read?_eq_ofJson,
      ofJson_mapNumbers_toJson]
    exact ⟨rfl, rfl⟩
  · intro value
    rw [read?_eq_ofJson, ofJson_toJson]
    exact ⟨rfl, rfl⟩
  · intro json
    exact ⟨read?_eq_ofJson json, denotes_ofJson json⟩

/-- Three scores with a name that has to be escaped. -/
def scoreboard : Attribute :=
  object [("name", string "\"A\""), ("scores", array [number ⟨0x3FE0000000000000⟩,
    number ⟨0x7FF0000000000000⟩, bool true])]

/-- The second score is infinite, the first one a half that is read back as a half. -/
theorem written_is_restored_and_readers_agree_scoreboard :
    Json.TextCodec.standard.Restores Json.levelLimit ∧
      scoreboard.toJson.Fits (Json.TextCodec.standard.Rereads id) Json.levelLimit ∧
      (Json.TextCodec.standard.read?
          (Json.TextCodec.standard.write scoreboard.toJson)).bind read? =
        some (object [("name", string "\"A\""), ("scores", array [number ⟨0x3FE0000000000000⟩,
          null, bool true])]) := by
  have half : Json.TextCodec.standard.Rereads id (.number ⟨0x3FE0000000000000⟩) := by
    decide +kernel
  have fits : scoreboard.toJson.Fits (Json.TextCodec.standard.Rereads id) Json.levelLimit := by
    apply Json.Fits.object (by decide)
    rintro _ (_ | ⟨_, _ | ⟨_, ⟨⟩⟩⟩)
    · exact .string
    · apply Json.Fits.array
      rintro _ (_ | ⟨_, _ | ⟨_, _ | ⟨_, ⟨⟩⟩⟩⟩)
      · exact .number half
      · exact .null
      · exact .bool
  have ends := (written_is_restored_and_readers_agree _ Json.restores_standard).1 _ _ fits
  exact ⟨Json.restores_standard, fits, ends.1⟩

/-- Null within so many arrays. -/
def withinArrays : Nat → Attribute
  | 0 => null
  | depth + 1 => array [withinArrays depth]

/-- A double that is written as 51.248178375505404 comes back as the next one, and null within as
many arrays as the reader has levels and one more does not come back at all. -/
theorem not_always_restored :
    (Json.TextCodec.standard.read? (Json.TextCodec.standard.write
        (number ⟨0x40499FC44F1B2F60⟩).toJson)).bind read? ≠
          some (number ⟨0x40499FC44F1B2F60⟩).withNulls ∧
      (Json.TextCodec.standard.read? (Json.TextCodec.standard.write
        (withinArrays (Json.levelLimit + 1)).toJson)).bind read? ≠
          some (withinArrays (Json.levelLimit + 1)).withNulls := by
  constructor
  · have next : Json.read? (Json.write (.number ⟨0x40499FC44F1B2F60⟩)) =
        some (.number ⟨0x40499FC44F1B2F61⟩) := by decide +kernel
    have written : (number ⟨0x40499FC44F1B2F60⟩).toJson = .number ⟨0x40499FC44F1B2F60⟩ := by
      rw [toJson, if_pos (by decide)]
    have wanted : (number ⟨0x40499FC44F1B2F60⟩).withNulls = number ⟨0x40499FC44F1B2F60⟩ := rfl
    simp [Json.TextCodec.standard, written, next, read?_eq_ofJson, ofJson, wanted]
  · have deep : Json.readValue? Json.levelLimit
        ((withinArrays (Json.levelLimit + 1)).toJson.writeValue.length + 1)
        (withinArrays (Json.levelLimit + 1)).toJson.writeValue = none := by
      decide +kernel
    simp only [Json.TextCodec.standard, Json.read?_write, deep, Option.bind_none]
    exact nofun

end Attribute

end Targeting
