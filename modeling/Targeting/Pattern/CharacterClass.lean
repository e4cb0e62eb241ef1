import Targeting.Pattern.CharacterSet
import Targeting.Text.Blank
import Targeting.Text.Word

/-!
# Classes of characters

The sets of characters that have a name in patterns: the point, the classes behind an escape, which
know all scripts, and the classes between colons, which know ASCII alone.
-/

namespace Targeting

/-- Classes of characters with a name of their own. -/
inductive CharacterClass where
  /-- Every character. -/
  | any
  /-- Every character but the line feed. -/
  | exceptLineFeed
  /-- Every character but the line feed and the carriage return. -/
  | exceptLineEnd
  /-- Decimal digits of every script. -/
  | decimal
  /-- White space. -/
  | blank
  /-- Word characters. -/
  | word
  /-- ASCII letters and digits. -/
  | asciiAlphanumeric
  /-- ASCII letters. -/
  | asciiLetter
  /-- All of ASCII. -/
  | ascii
  /-- The space and the tabulator. -/
  | asciiBlank
  /-- ASCII control characters. -/
  | asciiControl
  /-- ASCII digits. -/
  | asciiDigit
  /-- ASCII characters with a visible form. -/
  | asciiGraphic
  /-- Lower-case ASCII letters. -/
  | asciiLower
  /-- ASCII characters with a visible form, and the space. -/
  | asciiPrintable
  /-- ASCII punctuation. -/
  | asciiPunctuation
  /-- ASCII white space. -/
  | asciiSpace
  /-- Upper-case ASCII letters. -/
  | asciiUpper
  /-- ASCII letters, digits and the underscore. -/
  | asciiWord
  /-- ASCII hexadecimal digits. -/
  | asciiHexadecimal
deriving DecidableEq, Repr

namespace CharacterClass

/-- The word characters. -/
def wordSet : CharacterSet :=
  .ofRanges
    (Text.alphabeticRanges.toList ++ Text.digitRanges.toList ++ Text.connectingRanges.toList)

/-- The characters of a class. -/
def set : CharacterClass → CharacterSet
  | any => .all
  | exceptLineFeed => .complement ⟨#[(10, 10)]⟩
  | exceptLineEnd => .complement ⟨#[(10, 10), (13, 13)]⟩
  | decimal => ⟨Text.digitRanges⟩
  | blank => ⟨Text.blankRanges⟩
  | word => wordSet
  | asciiAlphanumeric => ⟨#[(48, 57), (65, 90), (97, 122)]⟩
  | asciiLetter => ⟨#[(65, 90), (97, 122)]⟩
  | ascii => ⟨#[(0, 127)]⟩
  | asciiBlank => ⟨#[(9, 9), (32, 32)]⟩
  | asciiControl => ⟨#[(0, 31), (127, 127)]⟩
  | asciiDigit => ⟨#[(48, 57)]⟩
  | asciiGraphic => ⟨#[(33, 126)]⟩
  | asciiLower => ⟨#[(97, 122)]⟩
  | asciiPrintable => ⟨#[(32, 126)]⟩
  | asciiPunctuation => ⟨#[(33, 47), (58, 64), (91, 96), (123, 126)]⟩
  | asciiSpace => ⟨#[(9, 13), (32, 32)]⟩
  | asciiUpper => ⟨#[(65, 90)]⟩
  | asciiWord => ⟨#[(48, 57), (65, 90), (95, 95), (97, 122)]⟩
  | asciiHexadecimal => ⟨#[(48, 57), (65, 70), (97, 102)]⟩

/-- The class whose name stands between colons. -/
def named? : String → Option CharacterClass
  | "alnum" => some asciiAlphanumeric
  | "alpha" => some asciiLetter
  | "ascii" => some ascii
  | "blank" => some asciiBlank
  | "cntrl" => some asciiControl
  | "digit" => some asciiDigit
  | "graph" => some asciiGraphic
  | "lower" => some asciiLower
  | "print" => some asciiPrintable
  | "punct" => some asciiPunctuation
  | "space" => some asciiSpace
  | "upper" => some asciiUpper
  | "word" => some asciiWord
  | "xdigit" => some asciiHexadecimal
  | _ => none

end CharacterClass

end Targeting
