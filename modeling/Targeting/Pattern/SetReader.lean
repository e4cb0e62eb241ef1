import Targeting.Pattern.Boundary
import Targeting.Pattern.SetPhrase
import Targeting.Text.Hex

/-!
# Reading escapes and bracket expressions

The parts of a pattern that stand for one character or one condition. Every reader takes the text
that is left and gives back what it read together with the rest; it gives nothing when the text is
malformed. In the mode that ignores blanks, white space and comments may stand between the parts.
-/

namespace Targeting.Pattern

/-- Drop white space and comments; the flag tells whether the text starts inside a comment. -/
def dropBlanks : Bool → List Char → List Char
  | _, [] => []
  | true, character :: rest => dropBlanks (character != '\n') rest
  | false, character :: rest =>
      if Text.isBlank character then dropBlanks false rest
      else if character = '#' then dropBlanks true rest
      else character :: rest

/-- Drop white space and comments where they are ignored. -/
def skip (ignoreBlanks : Bool) (text : List Char) : List Char :=
  if ignoreBlanks then dropBlanks false text else text

/-- What an escape stands for. -/
inductive Escape where
  | character (character : Char)
  | ofClass (class_ : CharacterClass) (negated : Bool)
  | boundary (boundary : Boundary)

/-- The character with a given code. -/
def characterOfCode? (code : Nat) : Option Char :=
  if code.isValidChar then some (Char.ofNat code) else none

/-- A fixed number of hexadecimal digits. -/
def readFixedHex? (ignoreBlanks : Bool) : Nat → Nat → List Char → Option (Nat × List Char)
  | 0, code, text => some (code, text)
  | _ + 1, _, [] => none
  | count + 1, code, digit :: rest =>
      match Hex.value? digit with
      | some value => readFixedHex? ignoreBlanks count (code * 16 + value) (skip ignoreBlanks rest)
      | none => none

/-- Hexadecimal digits up to a closing brace. -/
def readBracedHex? (text : List Char) : Option (Nat × List Char) :=
  match text.span (· != '\x7d') with
  | (digits, _ :: rest) =>
      if digits.isEmpty then none else (Hex.read? digits).map (·, rest)
  | _ => none

/-- Hexadecimal digits up to a closing brace, with blanks among them ignored. -/
def readSpacedHex? (ignoreBlanks : Bool) : Nat → List Char → List Char → Option (Nat × List Char)
  | 0, _, _ => none
  | steps + 1, digits, text =>
      match skip ignoreBlanks text with
      | [] => none
      | '\x7d' :: rest => readBracedHex? (digits.reverse ++ '\x7d' :: rest)
      | digit :: rest => readSpacedHex? ignoreBlanks steps (digit :: digits) rest

/-- A character given by its code: the given number of digits, or any number between braces. -/
def readCode? (ignoreBlanks : Bool) (count : Nat) (text : List Char) :
    Option (Escape × List Char) :=
  let read :=
    match skip ignoreBlanks text with
    | '\x7b' :: rest => readSpacedHex? ignoreBlanks (rest.length + 1) [] rest
    | text => readFixedHex? ignoreBlanks count 0 text
  match read with
  | some (code, rest) => (characterOfCode? code).map fun character => (.character character, rest)
  | none => none

/-- The letters that may name a condition between braces. -/
def isNameCharacter (character : Char) : Bool :=
  character.isAlpha || character == '-'

/-- The letters of a name with the blanks among them left out, and the rest. -/
def readName (ignoreBlanks : Bool) : List Char → List Char × List Char
  | [] => ([], [])
  | character :: rest =>
      if isNameCharacter character then
        let (name, rest) := readName ignoreBlanks rest
        (character :: name, rest)
      else if ignoreBlanks && Text.isBlank character then readName ignoreBlanks rest
      else ([], character :: rest)

/-- A condition on words, which may be narrowed by a name between braces. Braces that do not start
with a letter belong to a repetition. -/
def readWordEdge? (ignoreBlanks : Bool) (text : List Char) : Option (Escape × List Char) :=
  match text with
  | '\x7b' :: inner =>
      match skip ignoreBlanks inner with
      | [] => none
      | first :: more =>
          if isNameCharacter first then
            match readName ignoreBlanks (first :: more) with
            | (name, '\x7d' :: rest) =>
                match String.ofList name with
                | "start" => some (.boundary .wordStart, rest)
                | "end" => some (.boundary .wordEnd, rest)
                | "start-half" => some (.boundary .noWordBefore, rest)
                | "end-half" => some (.boundary .noWordAfter, rest)
                | _ => none
            | _ => none
          else some (.boundary .wordEdge, text)
  | _ => some (.boundary .wordEdge, text)

/-- Whether a character may be escaped to stand for itself: all of ASCII but letters, digits and
angle brackets. -/
def isEscapable (character : Char) : Bool :=
  decide (character.toNat < 128) && !character.isAlphanum && character != '<' && character != '>'

/-- An escape; the text starts after the backslash. -/
def readEscape? (ignoreBlanks : Bool) : List Char → Option (Escape × List Char)
  | [] => none
  | 'x' :: rest => readCode? ignoreBlanks 2 rest
  | 'u' :: rest => readCode? ignoreBlanks 4 rest
  | 'U' :: rest => readCode? ignoreBlanks 8 rest
  | 'd' :: rest => some (.ofClass .decimal false, rest)
  | 'D' :: rest => some (.ofClass .decimal true, rest)
  | 's' :: rest => some (.ofClass .blank false, rest)
  | 'S' :: rest => some (.ofClass .blank true, rest)
  | 'w' :: rest => some (.ofClass .word false, rest)
  | 'W' :: rest => some (.ofClass .word true, rest)
  | 'a' :: rest => some (.character '\x07', rest)
  | 'f' :: rest => some (.character '\x0c', rest)
  | 't' :: rest => some (.character '\t', rest)
  | 'n' :: rest => some (.character '\n', rest)
  | 'r' :: rest => some (.character '\r', rest)
  | 'v' :: rest => some (.character '\x0b', rest)
  | 'A' :: rest => some (.boundary .textStart, rest)
  | 'z' :: rest => some (.boundary .textEnd, rest)
  | 'b' :: rest => readWordEdge? ignoreBlanks rest
  | 'B' :: rest => some (.boundary .noWordEdge, rest)
  | '<' :: rest => some (.boundary .wordStart, rest)
  | '>' :: rest => some (.boundary .wordEnd, rest)
  | character :: rest => if isEscapable character then some (.character character, rest) else none

/-- A named class; the text starts after its bracket. -/
def readNamedClass? (text : List Char) : Option (SetPhrase × List Char) :=
  match text with
  | ':' :: rest =>
      let (negated, rest) :=
        match rest with
        | '^' :: rest => (true, rest)
        | _ => (false, rest)
      match rest.span (· != ':') with
      | (name, ':' :: ']' :: rest) =>
          (CharacterClass.named? (String.ofList name)).map fun class_ =>
            (.ofClass class_ negated, rest)
      | _ => none
  | _ => none

/-- One end of a range, or an item that stands alone in brackets. -/
def readSetItem? (ignoreBlanks : Bool) : List Char → Option (Escape × List Char)
  | [] => none
  | '\\' :: rest => readEscape? ignoreBlanks rest
  | character :: rest => some (.character character, rest)

/-- An item as a set. Conditions on positions have no place in brackets. -/
def setOfItem? : Escape → Option SetPhrase
  | .character character => some (.range character character)
  | .ofClass class_ negated => some (.ofClass class_ negated)
  | .boundary _ => none

/-- Whether the text after a hyphen makes the hyphen an ordinary item or a part of an operator. -/
def endsBeforeRange (ignoreBlanks : Bool) (text : List Char) : Bool :=
  match skip ignoreBlanks text with
  | ']' :: _ | '-' :: _ => true
  | _ => false

/-- A single item or a range. -/
def readSetRange? (ignoreBlanks : Bool) (text : List Char) : Option (SetPhrase × List Char) :=
  match readSetItem? ignoreBlanks text with
  | none => none
  | some (first, rest) =>
      match skip ignoreBlanks rest with
      | [] => none
      | '-' :: after =>
          if endsBeforeRange ignoreBlanks after then
            (setOfItem? first).map (·, '-' :: after)
          else
            match first, readSetItem? ignoreBlanks (skip ignoreBlanks after) with
            | .character low, some (.character high, rest) =>
                if low ≤ high then some (.range low high, rest) else none
            | _, _ => none
      | rest => (setOfItem? first).map (·, rest)

/-- Hyphens at the start of a bracket expression, which stand for themselves, and the rest. -/
def readHyphens (ignoreBlanks : Bool) : Nat → List Char → List SetPhrase × List Char
  | 0, text => ([], text)
  | steps + 1, text =>
      match text with
      | '-' :: rest =>
          let (items, rest) := readHyphens ignoreBlanks steps (skip ignoreBlanks rest)
          (.range '-' '-' :: items, rest)
      | _ => ([], text)

/-- The start of a bracket expression, after its bracket: whether it is negated, the items that
stand for themselves only there, and the rest. -/
def readSetStart (ignoreBlanks : Bool) (text : List Char) :
    Bool × List SetPhrase × List Char :=
  let text := skip ignoreBlanks text
  let (negated, text) :=
    match text with
    | '^' :: rest => (true, skip ignoreBlanks rest)
    | _ => (false, text)
  match readHyphens ignoreBlanks text.length text with
  | ([], ']' :: rest) => (negated, [.range ']' ']'], skip ignoreBlanks rest)
  | (items, rest) => (negated, items, rest)

/-- What has been read of a side of a bracket expression, joined to the sides before it. -/
def finishSide (before : Option (SetOperation × SetPhrase)) (items : List SetPhrase) :
    SetPhrase :=
  let side := SetPhrase.ofItems items.reverse
  match before with
  | none => side
  | some (operation, left) => .combination operation left side

/-- The rest of a bracket expression up to its closing bracket, given the sides before the current
one and the items of the current side in reverse. -/
def readSet? (ignoreBlanks : Bool) : Nat → Option (SetOperation × SetPhrase) →
    List SetPhrase → List Char → Option (SetPhrase × List Char)
  | 0, _, _, _ => none
  | steps + 1, before, items, text =>
      match skip ignoreBlanks text with
      | [] => none
      | '[' :: inner =>
          match readNamedClass? inner with
          | some (set, rest) => readSet? ignoreBlanks steps before (set :: items) rest
          | none =>
              let (negated, start, rest) := readSetStart ignoreBlanks inner
              match readSet? ignoreBlanks steps none start.reverse rest with
              | some (content, rest) =>
                  readSet? ignoreBlanks steps before (.bracket negated content :: items) rest
              | none => none
      | ']' :: rest => some (finishSide before items, rest)
      | '&' :: '&' :: rest =>
          readSet? ignoreBlanks steps (some (.intersection, finishSide before items)) [] rest
      | '-' :: '-' :: rest =>
          readSet? ignoreBlanks steps (some (.difference, finishSide before items)) [] rest
      | '~' :: '~' :: rest =>
          readSet? ignoreBlanks steps (some (.symmetricDifference, finishSide before items)) [] rest
      | text =>
          match readSetRange? ignoreBlanks text with
          | some (set, rest) => readSet? ignoreBlanks steps before (set :: items) rest
          | none => none

/-- A bracket expression; the text starts after its bracket. -/
def readBracket? (ignoreBlanks : Bool) (text : List Char) : Option (SetPhrase × List Char) :=
  let (negated, start, rest) := readSetStart ignoreBlanks text
  (readSet? ignoreBlanks (text.length + 1) none start.reverse rest).map fun (content, rest) =>
    (.bracket negated content, rest)

end Targeting.Pattern
