import Targeting.Text.Ranges

/-!
# Character sets

A set of characters is kept as the sorted, disjoint ranges of their codes, so that it can be
searched by halves, compared, and laid out as bytes. Unions, intersections, differences and
complements work on the ranges. The surrogates are no characters: they lie in no range of their own,
a range may run across them, and the code after U+D7FF is U+E000.

When case is ignored, a set is closed under the case variants of its members. Letters of the basic
alphabet have each other as variants; two further characters count as forms of the letters K and S.
-/

namespace Targeting

/-- A set of characters, given by the sorted, disjoint ranges of their codes. -/
structure CharacterSet where
  ranges : Array (Nat × Nat)
deriving DecidableEq, Repr

namespace CharacterSet

/-- The greatest code of a character. -/
def lastCode : Nat := 0x10FFFF

/-- The code after that of a character. -/
def nextCode (code : Nat) : Nat := if code = 0xD7FF then 0xE000 else code + 1

/-- The code before that of a character. -/
def previousCode (code : Nat) : Nat := if code = 0xE000 then 0xD7FF else code - 1

/-- Whether a set has a character. -/
def contains (set : CharacterSet) (character : Char) : Bool :=
  Text.inRanges set.ranges character

/-- Whether a set has no characters. -/
def isEmpty (set : CharacterSet) : Bool := set.ranges.isEmpty

/-- A range together with the sorted ranges that come after it; what overlaps or touches becomes
one. -/
def joinOnto (first last : Nat) : List (Nat × Nat) → List (Nat × Nat)
  | [] => [(first, last)]
  | (start, finish) :: rest =>
      if start ≤ last + 1 then joinOnto first (max last finish) rest
      else (first, last) :: joinOnto start finish rest

/-- The set of the characters in several ranges. -/
def ofRanges (ranges : List (Nat × Nat)) : CharacterSet :=
  match ranges.mergeSort (fun left right => decide (left.1 ≤ right.1)) with
  | [] => ⟨#[]⟩
  | (first, last) :: rest => ⟨(joinOnto first last rest).toArray⟩

/-- The set of several characters. -/
def ofCharacters (characters : List Char) : CharacterSet :=
  ofRanges (characters.map fun character => (character.toNat, character.toNat))

/-- The characters between two, both included. -/
def between (first last : Char) : CharacterSet := ⟨#[(first.toNat, last.toNat)]⟩

/-- The set of one character. -/
def singleton (character : Char) : CharacterSet := between character character

/-- No character. -/
def empty : CharacterSet := ⟨#[]⟩

/-- Every character. -/
def all : CharacterSet := ⟨#[(0, lastCode)]⟩

/-- The characters of either set. -/
def union (left right : CharacterSet) : CharacterSet :=
  if left.isEmpty then right
  else if right.isEmpty then left
  else ofRanges (left.ranges.toList ++ right.ranges.toList)

/-- The range between two codes, of which either may be the smaller one. They are the wrong way
round only where two ranges have nothing but the surrogates between them. -/
def spanning (code other : Nat) : Nat × Nat := (min code other, max code other)

/-- The gaps after a code that sorted ranges leave. -/
def gapsAfter (code : Nat) : List (Nat × Nat) → List (Nat × Nat)
  | [] => if code < lastCode then [(nextCode code, lastCode)] else []
  | (first, last) :: rest => spanning (nextCode code) (previousCode first) :: gapsAfter last rest

/-- The characters that are not in a set. -/
def complement (set : CharacterSet) : CharacterSet :=
  match set.ranges.toList with
  | [] => all
  | (first, last) :: rest =>
      let gaps := gapsAfter last rest
      ⟨(if 0 < first then (0, previousCode first) :: gaps else gaps).toArray⟩

/-- The complement of a set, or the set itself. -/
def complementIf (negated : Bool) (set : CharacterSet) : CharacterSet :=
  if negated then set.complement else set

/-- What two lists of sorted ranges have in common. -/
def overlaps : List (Nat × Nat) → List (Nat × Nat) → List (Nat × Nat)
  | [], _ => []
  | _, [] => []
  | (first, last) :: others, (start, finish) :: rest =>
      let further :=
        if last < finish then overlaps others ((start, finish) :: rest)
        else overlaps ((first, last) :: others) rest
      if max first start ≤ min last finish then (max first start, min last finish) :: further
      else further
termination_by left right => left.length + right.length

/-- The characters of both sets. -/
def intersection (left right : CharacterSet) : CharacterSet :=
  ⟨(overlaps left.ranges.toList right.ranges.toList).toArray⟩

/-- Cut a range out of a list of ranges. -/
def cutOut (start finish : Nat) (ranges : List (Nat × Nat)) : List (Nat × Nat) :=
  ranges.flatMap fun (first, last) =>
    if finish < first ∨ last < start then [(first, last)]
    else
      (if first < start then [(first, previousCode start)] else []) ++
        (if finish < last then [(nextCode finish, last)] else [])

/-- The characters of the first set that are not in the second. -/
def difference (left right : CharacterSet) : CharacterSet :=
  ⟨(right.ranges.foldl (fun ranges hole => cutOut hole.1 hole.2 ranges)
    left.ranges.toList).toArray⟩

/-- The characters of exactly one of two sets. -/
def symmetricDifference (left right : CharacterSet) : CharacterSet :=
  (left.union right).difference (left.intersection right)

/-- The only character of a set, if it has just one. -/
def single? (set : CharacterSet) : Option Char :=
  match set.ranges.toList with
  | [(first, last)] => if first = last then some (Char.ofNat first) else none
  | _ => none

/-- The least code of a set. -/
def leastCode? (set : CharacterSet) : Option Nat := set.ranges[0]?.map Prod.fst

/-- The greatest code of a set. -/
def greatestCode? (set : CharacterSet) : Option Nat := set.ranges.back?.map Prod.snd

end CharacterSet

/-- The case variants of a character that has any, itself among them. -/
def caseVariants (character : Char) : List Char :=
  let code := character.toNat
  if code = 75 ∨ code = 107 ∨ code = 0x212A then ['K', 'k', '\u212A']
  else if code = 83 ∨ code = 115 ∨ code = 0x17F then ['S', 's', '\u017F']
  else if 65 ≤ code ∧ code ≤ 90 then [character, Char.ofNat (code + 32)]
  else if 97 ≤ code ∧ code ≤ 122 then [character, Char.ofNat (code - 32)]
  else []

/-- The characters that have case variants. -/
def casedCharacters : List Char :=
  (List.range 26).flatMap (fun index => caseVariants (Char.ofNat (65 + index)))

/-- A set with all case variants of its members if case is ignored. -/
def CharacterSet.foldCase (ignoreCase : Bool) (set : CharacterSet) : CharacterSet :=
  if ignoreCase then
    set.union (.ofCharacters ((casedCharacters.filter set.contains).flatMap caseVariants))
  else set

end Targeting
