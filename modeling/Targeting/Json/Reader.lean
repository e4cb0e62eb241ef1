import Targeting.Double.Decimal
import Targeting.Double.Scaled
import Targeting.Json.Basic
import Targeting.Text.Hex

/-!
# Reading JSON text

The reader goes through the characters of a text once. Every step takes at least one character, so
the number of characters bounds the number of steps. How deep arrays and objects are nested is
bounded as well.

A number with a fraction or an exponent is read quickly rather than exactly: as many digits as fit a
word are made a double, which is scaled by a power of ten. The result need not be the nearest double
to the number, so that a double that was written may come back as one of its neighbours.
-/

namespace Targeting.Json

/-- The characters that may stand between the parts of a text. -/
def isBlank (character : Char) : Bool :=
  character = ' ' || character = '\n' || character = '\t' || character = '\r'

/-- Drop blanks from the front of a text. -/
def skipBlanks (text : List Char) : List Char := text.dropWhile isBlank

/-- The value of four hexadecimal digits at the front of a text. -/
def readUnit? (text : List Char) : Option (Nat × List Char) :=
  let digits := text.take 4
  if digits.length < 4 then none else (Hex.read? digits).map (·, text.drop 4)

/-- A code point as a character, unless it is a surrogate. -/
def character? (code : Nat) : Option Char :=
  if code.isValidChar then some (Char.ofNat code) else none

/-- A character given by its code unit, or by two units when the first is a high surrogate. -/
def readCodePoint? (text : List Char) : Option (Char × List Char) := do
  let (unit, rest) ← readUnit? text
  if 0xD800 ≤ unit ∧ unit < 0xDC00 then
    match rest with
    | '\\' :: 'u' :: rest =>
        let (low, rest) ← readUnit? rest
        if 0xDC00 ≤ low ∧ low < 0xE000 then
          let character ← character? (0x10000 + (unit - 0xD800) * 0x400 + (low - 0xDC00))
          some (character, rest)
        else none
    | _ => none
  else
    let character ← character? unit
    some (character, rest)

/-- The character that an escape stands for; the text starts after the backslash. -/
def readEscape? : List Char → Option (Char × List Char)
  | '"' :: rest => some ('"', rest)
  | '\\' :: rest => some ('\\', rest)
  | '/' :: rest => some ('/', rest)
  | 'b' :: rest => some ('\x08', rest)
  | 'f' :: rest => some ('\x0c', rest)
  | 'n' :: rest => some ('\n', rest)
  | 'r' :: rest => some ('\r', rest)
  | 't' :: rest => some ('\t', rest)
  | 'u' :: rest => readCodePoint? rest
  | _ => none

/-- The rest of a string after its opening quote, given the characters read so far in reverse. -/
def readString? : Nat → List Char → List Char → Option (String × List Char)
  | 0, _, _ => none
  | _ + 1, _, [] => none
  | steps + 1, seen, character :: rest =>
      if character = '"' then some (String.ofList seen.reverse, rest)
      else if character = '\\' then
        match readEscape? rest with
        | some (escaped, rest) => readString? steps (escaped :: seen) rest
        | none => none
      else if character.toNat < 32 then none
      else readString? steps (character :: seen) rest

/-- A character that may stand in a number. -/
def isNumberCharacter (character : Char) : Bool :=
  Numeral.isDigit character || ['+', '-', '.', 'e', 'E'].contains character

/-- Digits put at the end of a number as long as it fits a word of sixty-four bits, and how many of
them are left over. -/
def fillWord : Nat → List Char → Nat × Nat
  | word, [] => (word, 0)
  | word, digit :: rest =>
      let longer := word * 10 + (digit.toNat - 48)
      if longer < 0x10000000000000000 then fillWord longer rest else (word, rest.length + 1)

/-- A number given by the digits before and after its point and by its exponent. Of the digits
before the point that do not fit a word, only the number counts; of those after it, none does. -/
def decimal? (negative : Bool) (whole decimals : List Char) (exponent : Int) : Option Json :=
  let (leading, dropped) := fillWord 0 whole
  let (significand, ignored) := fillWord leading decimals
  let power := exponent + dropped - (decimals.length - ignored : Nat)
  ((Double.ofInt significand).scale10? power).map fun number =>
    .number (Double.ofMagnitude negative number.magnitude)

/-- A number, given by all of its characters. -/
def number? (text : List Char) : Option Json :=
  let (negative, unsigned) :=
    match text with
    | '-' :: rest => (true, rest)
    | _ => (false, text)
  let (whole, rest) := unsigned.span Numeral.isDigit
  if whole.isEmpty || (whole.head? == some '0' && 1 < whole.length) then none
  else
    match rest with
    | [] =>
        let magnitude := Numeral.value whole
        let value : Int := if negative then -(magnitude : Int) else magnitude
        if negative && magnitude == 0 then some (.number (Double.ofMagnitude true 0))
        else if -0x8000000000000000 ≤ value ∧ value ≤ 0xFFFFFFFFFFFFFFFF then some (.integer value)
        else decimal? negative whole [] 0
    | '.' :: fraction =>
        let (decimals, exponent) := fraction.span Numeral.isDigit
        if decimals.isEmpty then none
        else
          (Double.readExponent? exponent).bind (decimal? negative whole decimals)
    | exponent => (Double.readExponent? exponent).bind (decimal? negative whole [])

/-- Remove an expected word from the front of a text. -/
def expect? (word : List Char) (text : List Char) : Option (List Char) :=
  if word.isPrefixOf text then some (text.drop word.length) else none

mutual

/-- A value at the front of a text, after blanks. Arrays and objects may be nested so many levels
deep in it. -/
def readValue? : (levels steps : Nat) → List Char → Option (Json × List Char)
  | _, 0, _ => none
  | levels, steps + 1, text =>
      match skipBlanks text with
      | [] => none
      | '"' :: rest =>
          (readString? (steps + 1) [] rest).map fun (text, rest) => (.string text, rest)
      | '[' :: rest =>
          match levels, skipBlanks rest with
          | 0, _ => none
          | _, ']' :: rest => some (.array [], rest)
          | inner + 1, rest =>
              (readItems? inner steps [] rest).map fun (items, rest) => (.array items, rest)
      | '\x7b' :: rest =>
          match levels, skipBlanks rest with
          | 0, _ => none
          | _, '\x7d' :: rest => some (.object [], rest)
          | inner + 1, rest =>
              (readFields? inner steps [] rest).map fun (fields, rest) => (.object fields, rest)
      | 'n' :: rest => (expect? ['u', 'l', 'l'] rest).map (.null, ·)
      | 't' :: rest => (expect? ['r', 'u', 'e'] rest).map (.bool true, ·)
      | 'f' :: rest => (expect? ['a', 'l', 's', 'e'] rest).map (.bool false, ·)
      | text =>
          let (characters, rest) := text.span isNumberCharacter
          (number? characters).map (·, rest)

/-- The items of an array up to its closing bracket, given the items read so far in reverse. -/
def readItems? : (levels steps : Nat) → List Json → List Char → Option (List Json × List Char)
  | _, 0, _, _ => none
  | levels, steps + 1, seen, text =>
      match readValue? levels steps text with
      | none => none
      | some (item, rest) =>
          match skipBlanks rest with
          | ',' :: rest => readItems? levels steps (item :: seen) rest
          | ']' :: rest => some ((item :: seen).reverse, rest)
          | _ => none

/-- The fields of an object up to its closing brace, given the fields read so far in reverse. -/
def readFields? : (levels steps : Nat) → List (String × Json) → List Char →
    Option (List (String × Json) × List Char)
  | _, 0, _, _ => none
  | levels, steps + 1, seen, text =>
      match skipBlanks text with
      | '"' :: rest =>
          match readString? (steps + 1) [] rest with
          | none => none
          | some (name, rest) =>
              match skipBlanks rest with
              | ':' :: rest =>
                  match readValue? levels steps rest with
                  | none => none
                  | some (value, rest) =>
                      match skipBlanks rest with
                      | ',' :: rest => readFields? levels steps ((name, value) :: seen) rest
                      | '\x7d' :: rest => some (((name, value) :: seen).reverse, rest)
                      | _ => none
              | _ => none
      | _ => none

end

/-- How many levels deep arrays and objects may be nested. -/
def levelLimit : Nat := 127

/-- The value that a whole text stands for. -/
def read? (text : String) : Option Json :=
  let characters := text.toList
  match readValue? levelLimit (characters.length + 1) characters with
  | some (value, rest) => if (skipBlanks rest).isEmpty then some value else none
  | none => none

end Targeting.Json
