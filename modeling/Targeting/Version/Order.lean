import Targeting.Version.Basic

/-!
# The order of versions

Versions are compared by major, minor and patch number, then an unstable version comes before the
stable one, then the pre-release identifiers decide at the first place where they differ, and at
last the number of those identifiers. Build metadata plays no part. Two numbers are compared by
value, anything else by character code.
-/

namespace Targeting.Version

/-- The order of texts by character code, a proper beginning first. -/
def compareText : List Char → List Char → Ordering
  | [], [] => .eq
  | [], _ :: _ => .lt
  | _ :: _, [] => .gt
  | left :: leftRest, right :: rightRest =>
      (compare left.toNat right.toNat).then (compareText leftRest rightRest)

/-- The order of identifiers in canonical form: a number with more digits is larger. -/
def compareIdentifiers (left right : List Char) : Ordering :=
  if isNumeric left && isNumeric right then
    (compare left.length right.length).then (compareText left right)
  else compareText left right

/-- The order of identifier lists as far as both go. -/
def compareCommon : List (List Char) → List (List Char) → Ordering
  | left :: leftRest, right :: rightRest =>
      (compareIdentifiers left right).then (compareCommon leftRest rightRest)
  | _, _ => .eq

/-- The order of truth values, false first. -/
def compareBool (left right : Bool) : Ordering := compare left.toNat right.toNat

/-- The order of two versions. Equal canonical texts are equal versions. -/
def order (left right : Version) : Ordering :=
  if left.canonical = right.canonical then .eq
  else
    (compareIdentifiers left.major right.major).then <|
      (compareIdentifiers left.minor right.minor).then <|
        (compareIdentifiers left.patch right.patch).then <|
          (compareBool left.isStable right.isStable).then <|
            (compareCommon left.preRelease right.preRelease).then <|
              compare left.preRelease.length right.preRelease.length

/-- Not after. -/
def le (left right : Version) : Bool := (left.order right).isLE

/-- Not before. -/
def ge (left right : Version) : Bool := (left.order right).isGE

/-- Equal in the order, which build metadata does not influence. -/
def equivalent (left right : Version) : Bool := (left.order right).isEq

end Targeting.Version
