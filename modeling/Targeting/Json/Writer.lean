import Targeting.Double.Shortest
import Targeting.Json.Basic
import Targeting.Text.Hex

/-!
# Writing JSON text

Values are written without blanks. In strings, the quote, the backslash, the control characters and
the characters that some readers take for the end of a line are escaped. A double has the fewest
digits that stand for it and no other double, and always a fraction or an exponent; one that is not
finite has no written form and becomes null.
-/

namespace Targeting.Json

/-- Whether a character is written as an escape with its code. -/
def needsEscape (character : Char) : Bool :=
  character.toNat < 32 || character = '"' || character = '\\' ||
    character.toNat = 0x85 || character.toNat = 0x2028 || character.toNat = 0x2029

/-- The written form of a character of a string. -/
def writeCharacter (character : Char) : List Char :=
  if character = '"' then ['\\', '"']
  else if character = '\\' then ['\\', '\\']
  else if needsEscape character then '\\' :: 'u' :: Hex.digits 4 character.toNat
  else [character]

/-- The written form of a string. -/
def writeString (text : String) : List Char :=
  '"' :: text.toList.flatMap writeCharacter ++ ['"']

/-- The written form of an integer. -/
def writeInteger (value : Int) : List Char :=
  if value < 0 then '-' :: Nat.toDigits 10 value.natAbs else Nat.toDigits 10 value.natAbs

/-- Digits as the written form of a positive double. They are written out if the point is among them
or not far from them, and otherwise have an exponent. -/
def writeDigits (number : Double.Digits) : List Char :=
  if number.digits.length ≤ number.point ∧ number.point ≤ 16 then number.positional ++ ['.', '0']
  else if -5 < number.point ∧ number.point ≤ 16 then number.positional
  else number.mantissa ++ 'e' :: writeInteger (number.point - 1)

/-- The written form of a double. A half is rounded to an even digit. -/
def writeDouble (number : Double) : List Char :=
  if !number.isFinite then ['n', 'u', 'l', 'l']
  else
    let sign := if number.isNegative then ['-'] else []
    if number.magnitude = 0 then sign ++ ['0', '.', '0']
    else sign ++ writeDigits (number.shortestDigits fun below => below % 2 = 1)

mutual

/-- The written form of a value. -/
def writeValue : Json → List Char
  | .null => ['n', 'u', 'l', 'l']
  | .bool true => ['t', 'r', 'u', 'e']
  | .bool false => ['f', 'a', 'l', 's', 'e']
  | .integer value => writeInteger value
  | .number value => writeDouble value
  | .string text => writeString text
  | .array [] => ['[', ']']
  | .array (item :: rest) => '[' :: writeValue item ++ writeItems rest ++ [']']
  | .object [] => ['\x7b', '\x7d']
  | .object ((name, value) :: rest) =>
      '\x7b' :: writeString name ++ ':' :: writeValue value ++ writeFields rest ++ ['\x7d']

/-- The items after the first. -/
def writeItems : List Json → List Char
  | [] => []
  | item :: rest => ',' :: writeValue item ++ writeItems rest

/-- The fields after the first. -/
def writeFields : List (String × Json) → List Char
  | [] => []
  | (name, value) :: rest => ',' :: writeString name ++ ':' :: writeValue value ++ writeFields rest

end

/-- The text of a value. -/
def write (json : Json) : String := String.ofList json.writeValue

end Targeting.Json
