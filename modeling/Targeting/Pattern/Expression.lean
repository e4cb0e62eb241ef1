import Targeting.Pattern.Boundary
import Targeting.Pattern.CharacterSet

/-!
# Regular expressions

A regular expression in normal form. The functions of this module build an expression from its
parts and simplify on the way: literals that follow each other become one, a set of one character is
a literal, alternatives that are all sets become one set, a beginning that all alternatives share is
taken out of them, and what cannot take a character is repeated at most once. So the expression says
how much there is to lay out, and that decides whether a pattern is too large.

`leastLength?` and `greatestLength?` bound the bytes that a match takes.
-/

namespace Targeting

/-- A regular expression. -/
inductive Expression where
  /-- Nothing. -/
  | empty
  /-- Characters one after another, at least one. -/
  | literal (characters : List Char)
  /-- One character of a set; there is no match if the set has none. -/
  | one (set : CharacterSet)
  /-- A condition on the position. -/
  | hold (boundary : Boundary)
  /-- A part whose match is remembered. -/
  | group (body : Expression)
  /-- Parts one after another, at least two. -/
  | sequence (parts : List Expression)
  /-- One of several parts, at least two. -/
  | choice (options : List Expression)
  /-- A part several times, without a limit if there is no greatest number, more often or less often
  by preference. -/
  | repeated (body : Expression) (least : Nat) (most : Option Nat) (prefersMore : Bool)

namespace Expression

/-- The bytes of a text. -/
def byteLength (characters : List Char) : Nat :=
  characters.foldl (fun length character => length + character.utf8Size) 0

mutual

/-- The least number of bytes of a match, if there is a match. -/
def leastLength? : Expression → Option Nat
  | empty | hold _ => some 0
  | literal characters => some (byteLength characters)
  | one set => set.leastCode?.map fun code => (Char.ofNat code).utf8Size
  | group body => body.leastLength?
  | sequence parts => totalLeast? parts
  | choice options => smallestLeast? options
  | repeated body least _ _ => body.leastLength?.map (least * ·)

/-- The least number of bytes of a match of parts one after another. -/
def totalLeast? : List Expression → Option Nat
  | [] => some 0
  | part :: rest =>
      match part.leastLength?, totalLeast? rest with
      | some length, some others => some (length + others)
      | _, _ => none

/-- The least number of bytes of a match of one of several parts, if each has a match. -/
def smallestLeast? : List Expression → Option Nat
  | [] => none
  | [option] => option.leastLength?
  | option :: rest =>
      match option.leastLength?, smallestLeast? rest with
      | some length, some others => some (min length others)
      | _, _ => none

end

mutual

/-- The greatest number of bytes of a match, if there is a match and a limit to its length. -/
def greatestLength? : Expression → Option Nat
  | empty | hold _ => some 0
  | literal characters => some (byteLength characters)
  | one set => set.greatestCode?.map fun code => (Char.ofNat code).utf8Size
  | group body => body.greatestLength?
  | sequence parts => totalGreatest? parts
  | choice options => largestGreatest? options
  | repeated body _ most _ =>
      match most, body.greatestLength? with
      | some most, some length => some (most * length)
      | _, _ => none

/-- The greatest number of bytes of a match of parts one after another. -/
def totalGreatest? : List Expression → Option Nat
  | [] => some 0
  | part :: rest =>
      match part.greatestLength?, totalGreatest? rest with
      | some length, some others => some (length + others)
      | _, _ => none

/-- The greatest number of bytes of a match of one of several parts, if each has one. -/
def largestGreatest? : List Expression → Option Nat
  | [] => none
  | [option] => option.greatestLength?
  | option :: rest =>
      match option.greatestLength?, largestGreatest? rest with
      | some length, some others => some (max length others)
      | _, _ => none

end

mutual

/-- Whether two expressions are written alike. Groups never are, because each remembers a match of
its own. -/
def isLike : Expression → Expression → Bool
  | empty, empty => true
  | literal characters, literal others => characters == others
  | one set, one other => set == other
  | hold boundary, hold other => boundary == other
  | sequence parts, sequence others => areLike parts others
  | choice options, choice others => areLike options others
  | repeated body least most prefersMore, repeated other least' most' prefersMore' =>
      least == least' && most == most' && prefersMore == prefersMore' && body.isLike other
  | _, _ => false

/-- Whether two lists of expressions are written alike. -/
def areLike : List Expression → List Expression → Bool
  | [], [] => true
  | part :: rest, other :: others => part.isLike other && areLike rest others
  | _, _ => false

end

/-- One character of a set. -/
def ofSet (set : CharacterSet) : Expression :=
  match set.single? with
  | some character => literal [character]
  | none => one set

/-- A part several times. Repeating does not change what takes no characters, no times are nothing,
and once is the part itself. -/
def ofRepeated (body : Expression) (least : Nat) (most : Option Nat) (prefersMore : Bool) :
    Expression :=
  let (least, most) :=
    if body.greatestLength? = some 0 then (min least 1, some (min (most.getD 1) 1))
    else (least, most)
  match least, most with
  | 0, some 0 => empty
  | 1, some 1 => body
  | _, _ => repeated body least most prefersMore

/-- The parts of a sequence, or the part itself. -/
def parts : Expression → List Expression
  | empty => []
  | sequence parts => parts
  | part => [part]

/-- Join literals that follow each other. -/
def joinLiterals : List Expression → List Expression
  | [] => []
  | literal characters :: rest =>
      match joinLiterals rest with
      | literal others :: rest => literal (characters ++ others) :: rest
      | rest => literal characters :: rest
  | part :: rest => part :: joinLiterals rest

/-- Parts one after another. -/
def ofSequence (parts : List Expression) : Expression :=
  match joinLiterals (parts.flatMap Expression.parts) with
  | [] => empty
  | [part] => part
  | parts => sequence parts

/-- The options of a choice, or the part itself. -/
def options : Expression → List Expression
  | choice options => options
  | part => [part]

/-- The character of a literal of a single character. -/
def character? : Expression → Option Char
  | literal [character] => some character
  | _ => none

/-- The ranges of a set. -/
def ranges? : Expression → Option (List (Nat × Nat))
  | one set => some set.ranges.toList
  | _ => none

/-- The set that several parts stand for, if all are literals of a single character or all are
sets. -/
def setOfOptions? (options : List Expression) : Option CharacterSet :=
  match options.mapM character?, options.mapM ranges? with
  | some characters, _ => some (.ofCharacters characters)
  | none, some ranges => some (.ofRanges ranges.flatten)
  | none, none => none

/-- The parts that two lists begin with alike. -/
def sharedStart : List Expression → List Expression → List Expression
  | part :: rest, other :: others =>
      if part.isLike other then part :: sharedStart rest others else []
  | _, _ => []

/-- The parts of a sequence with at least two. -/
def sequenceParts? : Expression → Option (List Expression)
  | sequence parts => some parts
  | _ => none

/-- One of several parts, with nothing taken out of them. -/
def ofOptionsAsTheyAre (options : List Expression) : Expression :=
  match options.flatMap Expression.options with
  | [] => one .empty
  | [option] => option
  | options =>
      match setOfOptions? options with
      | some set => ofSet set
      | none => choice options

/-- The beginning that all sequences share, if the parts are all sequences. -/
def sharedBeginning (options : List Expression) : List Expression :=
  match options.mapM sequenceParts? with
  | some (first :: others) => others.foldl sharedStart first
  | _ => []

/-- One of several parts. -/
def ofOptions (options : List Expression) : Expression :=
  let options := options.flatMap Expression.options
  match options, sharedBeginning options with
  | _ :: _ :: _, part :: beginning =>
      let count := (part :: beginning).length
      let endings := options.map fun option => ofSequence (option.parts.drop count)
      ofSequence (part :: beginning ++ [ofOptionsAsTheyAre endings])
  | options, _ => ofOptionsAsTheyAre options

end Expression

end Targeting
