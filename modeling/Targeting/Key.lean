import Targeting.Json.Record

/-!
# Keys

An evaluation is made for a key. Targeting rules look at its matching part; everything that depends
on a percentage looks at its bucketing part, so that several matching keys can share their buckets.
-/

namespace Targeting

/-- The key that an evaluation is made for. -/
structure Key where
  /-- What targeting rules compare. -/
  matching : String
  /-- What takes the place of the matching part in percentages. -/
  bucketing? : Option String
deriving DecidableEq, Repr

namespace Key

/-- The key whose two parts are the same. -/
def ofMatching (matching : String) : Key := ⟨matching, none⟩

/-- The part that percentages look at. -/
def bucketing (key : Key) : String := key.bucketing?.getD key.matching

@[simp]
theorem bucketing_ofMatching (matching : String) : (ofMatching matching).bucketing = matching := rfl

/-- The key that a JSON value stands for. -/
def ofJson? : Json → Option Key :=
  Record.read? do
    let matching ← Record.required "matchingKey" Json.asString?
    let bucketing? ← Record.optional "bucketingKey" Json.asString?
    return { matching, bucketing? }

/-- A key as JSON. A missing bucketing part is left out. -/
def toJson (key : Key) : Json :=
  .object <| ("matchingKey", .string key.matching) ::
    (key.bucketing?.map fun bucketing => ("bucketingKey", .string bucketing)).toList

end Key

end Targeting
