import Targeting.Pattern.Phrase
import Targeting.Pattern.SetReader
import Targeting.Text.Number
import Targeting.Text.Numeral

/-!
# Reading phrases

The reader of groups, alternatives and repetitions. Flags hold up to the end of the group in which
they stand, or for the group that they open, so they go down with the recursion into groups. The
names of groups are unique in the whole pattern, so they go along with the text. `readPhrase?` reads
a whole text.
-/

namespace Targeting.Pattern

/-- The flags in force at a place of a pattern. -/
structure Flags where
  /-- Letters match in either case. -/
  ignoreCase : Bool := false
  /-- The anchors match at the ends of lines. -/
  multiLine : Bool := false
  /-- The point matches a line feed. -/
  dotAll : Bool := false
  /-- White space and comments in the pattern have no meaning. -/
  ignoreBlanks : Bool := false
  /-- A carriage return may end a line. -/
  returnEndsLine : Bool := false
  /-- Repetitions prefer less unless they are marked. -/
  prefersLess : Bool := false

namespace Flags

/-- Set the flag with a given letter. The letter for working on characters changes nothing; a
pattern cannot be made to work on bytes. -/
def set? (flags : Flags) (value : Bool) : Char → Option Flags
  | 'i' => some { flags with ignoreCase := value }
  | 'm' => some { flags with multiLine := value }
  | 's' => some { flags with dotAll := value }
  | 'x' => some { flags with ignoreBlanks := value }
  | 'R' => some { flags with returnEndsLine := value }
  | 'U' => some { flags with prefersLess := value }
  | 'u' => if value then some flags else none
  | _ => none

/-- What the point stands for. -/
def dot (flags : Flags) : CharacterClass :=
  if flags.dotAll then .any
  else if flags.returnEndsLine then .exceptLineEnd
  else .exceptLineFeed

/-- What the anchor of the start stands for. -/
def start (flags : Flags) : Boundary :=
  if !flags.multiLine then .textStart
  else if flags.returnEndsLine then .lineStartAfterReturn
  else .lineStart

/-- What the anchor of the end stands for. -/
def finish (flags : Flags) : Boundary :=
  if !flags.multiLine then .textEnd
  else if flags.returnEndsLine then .lineEndBeforeReturn
  else .lineEnd

end Flags

/-- How the letters of a group's flags end. -/
inductive FlagsEnd where
  /-- The flags hold for the rest of the surrounding group. -/
  | directive
  /-- The flags hold for the group that follows. -/
  | opening

/-- The letters of flags up to the closing parenthesis or colon, given the letters before them, the
last of them first. No letter may be repeated, and a minus sign needs a letter after it. -/
def readFlags? (seen : List Char) (flags : Flags) :
    List Char → Option (Flags × FlagsEnd × List Char)
  | [] => none
  | ':' :: rest => if seen.head? = some '-' then none else some (flags, .opening, rest)
  | ')' :: rest =>
      if seen.isEmpty || seen.head? = some '-' then none else some (flags, .directive, rest)
  | letter :: rest =>
      if seen.contains letter then none
      else if letter = '-' then readFlags? ('-' :: seen) flags rest
      else
        match flags.set? (!seen.contains '-') letter with
        | some flags => readFlags? (letter :: seen) flags rest
        | none => none

/-- Whether a character may start the name of a group. -/
def startsGroupName (character : Char) : Bool :=
  character == '_' || Text.isAlphabetic character

/-- Whether a character may stand in the name of a group after its start. -/
def continuesGroupName (character : Char) : Bool :=
  startsGroupName character || Text.isNumeric character || ".[]".contains character

/-- The name of a group up to its closing angle bracket. -/
def readGroupName? (text : List Char) : Option (List Char × List Char) :=
  match text.span (· != '>') with
  | (first :: others, '>' :: rest) =>
      if startsGroupName first && others.all continuesGroupName then some (first :: others, rest)
      else none
  | _ => none

/-- The start of a group, after its parenthesis. -/
inductive GroupStart where
  /-- Flags for the rest of the surrounding group. -/
  | directive (flags : Flags)
  /-- A group with flags of its own, whose match is remembered or not, and perhaps with a name. -/
  | opening (flags : Flags) (remembered : Bool) (name : Option (List Char))

/-- Read the start of a group, after its parenthesis. -/
def readGroupStart? (flags : Flags) : List Char → Option (GroupStart × List Char)
  | '?' :: '<' :: '=' :: _ | '?' :: '<' :: '!' :: _ => none
  | '?' :: 'P' :: '<' :: rest | '?' :: '<' :: rest =>
      (readGroupName? rest).map fun (name, rest) => (.opening flags true (some name), rest)
  | '?' :: rest =>
      match readFlags? [] flags rest with
      | some (flags, .directive, rest) => some (.directive flags, rest)
      | some (flags, .opening, rest) => some (.opening flags false none, rest)
      | none => none
  | text => some (.opening flags true none, text)

/-- The digits of a count with the blanks among them left out, and the rest. -/
def readCountDigits (ignoreBlanks : Bool) : Nat → List Char → List Char × List Char
  | 0, text => ([], text)
  | steps + 1, text =>
      match text with
      | digit :: rest =>
          if Numeral.isDigit digit then
            let (digits, rest) := readCountDigits ignoreBlanks steps (skip ignoreBlanks rest)
            (digit :: digits, rest)
          else ([], text)
      | [] => ([], [])

/-- A count in a repetition, below the thirty-second power of two, with blanks around it. -/
def readCount? (ignoreBlanks : Bool) (text : List Char) : Option (Nat × List Char) :=
  let (digits, rest) :=
    readCountDigits ignoreBlanks text.length (text.dropWhile Text.isBlank)
  let count := Numeral.value digits
  if digits.isEmpty || decide (0xFFFFFFFF < count) then none
  else some (count, skip ignoreBlanks (rest.dropWhile Text.isBlank))

/-- The counts of a repetition, after its brace: the least number and, unless there is no limit, the
greatest. -/
def readCounts? (ignoreBlanks : Bool) (text : List Char) :
    Option (Nat × Option Nat × List Char) :=
  match readCount? ignoreBlanks (skip ignoreBlanks text) with
  | some (least, '\x7d' :: rest) => some (least, some least, rest)
  | some (least, ',' :: rest) =>
      match skip ignoreBlanks rest with
      | '\x7d' :: rest => some (least, none, rest)
      | rest =>
          match readCount? ignoreBlanks rest with
          | some (most, '\x7d' :: rest) =>
              if least ≤ most then some (least, some most, rest) else none
          | _ => none
  | _ => none

/-- Repeat the last of the parts before a text; there must be one, and flags are none. A mark at the
start of the text turns round whether the repetition prefers more. -/
def repeatLast? (flags : Flags) (least : Nat) (most : Option Nat) :
    List Phrase → List Char → Option (List Phrase × List Char)
  | [], _ | .directive :: _, _ => none
  | part :: others, '?' :: rest =>
      some (.repeated part least most flags.prefersLess :: others, rest)
  | part :: others, text => some (.repeated part least most (!flags.prefersLess) :: others, text)

/-- What an escape outside brackets stands for. -/
def ofEscape (flags : Flags) : Escape → Phrase
  | .character character => .one flags.ignoreCase (.literal character)
  | .ofClass class_ negated => .one flags.ignoreCase (.ofClass class_ negated)
  | .boundary boundary => .hold boundary

/-- The alternatives up to a closing parenthesis or the end of the text, with the names of groups
seen so far. -/
structure Alternatives where
  phrase : Phrase
  names : List (List Char)
  rest : List Char

/-- The alternatives with finished ones and the parts of the last one, both in reverse. -/
def ofReversed (options parts : List Phrase) : Phrase :=
  Phrase.ofOptions (Phrase.ofParts parts.reverse :: options).reverse

/-- Read alternatives, given the finished ones and the parts of the current one, both in reverse. -/
def readAlternatives? : Nat → Flags → List (List Char) → List Phrase → List Phrase →
    List Char → Option Alternatives
  | 0, _, _, _, _, _ => none
  | steps + 1, flags, names, options, parts, text =>
      let continueWith (part : Phrase) (rest : List Char) :=
        readAlternatives? steps flags names options (part :: parts) rest
      let repeatLast (least : Nat) (most : Option Nat) (rest : List Char) :=
        match repeatLast? flags least most parts rest with
        | some (parts, rest) => readAlternatives? steps flags names options parts rest
        | none => none
      match skip flags.ignoreBlanks text with
      | [] => some ⟨ofReversed options parts, names, []⟩
      | ')' :: rest => some ⟨ofReversed options parts, names, ')' :: rest⟩
      | '|' :: rest =>
          readAlternatives? steps flags names (Phrase.ofParts parts.reverse :: options) [] rest
      | '(' :: rest =>
          match readGroupStart? flags (skip flags.ignoreBlanks rest) with
          | none => none
          | some (.directive flags, rest) =>
              readAlternatives? steps flags names options (.directive :: parts) rest
          | some (.opening inner remembered name, rest) =>
              if name.any names.contains then none
              else
                match readAlternatives? steps inner (name.toList ++ names) [] [] rest with
                | some ⟨body, names, ')' :: rest⟩ =>
                    readAlternatives? steps flags names options (.group remembered body :: parts)
                      rest
                | _ => none
      | '[' :: rest =>
          match readBracket? flags.ignoreBlanks rest with
          | some (set, rest) => continueWith (.one flags.ignoreCase set) rest
          | none => none
      | '?' :: rest => repeatLast 0 (some 1) rest
      | '*' :: rest => repeatLast 0 none rest
      | '+' :: rest => repeatLast 1 none rest
      | '\x7b' :: rest =>
          match readCounts? flags.ignoreBlanks rest with
          | some (least, most, rest) => repeatLast least most (skip flags.ignoreBlanks rest)
          | none => none
      | '.' :: rest => continueWith (.one false (.ofClass flags.dot false)) rest
      | '^' :: rest => continueWith (.hold flags.start) rest
      | '$' :: rest => continueWith (.hold flags.finish) rest
      | '\\' :: rest =>
          match readEscape? flags.ignoreBlanks rest with
          | some (escape, rest) => continueWith (ofEscape flags escape) rest
          | none => none
      | character :: rest => continueWith (.one flags.ignoreCase (.literal character)) rest

/-- The phrase that a whole text writes. -/
def readPhrase? (text : List Char) : Option Phrase :=
  match readAlternatives? (text.length + 1) {} [] [] [] text with
  | some ⟨phrase, _, []⟩ => some phrase
  | _ => none

end Targeting.Pattern
