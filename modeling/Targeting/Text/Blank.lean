import Targeting.Text.Ranges

/-!
# Blank characters

The characters that Unicode counts as white space, and the removal of such characters from both
ends of a text.
-/

namespace Targeting.Text

/-- The ranges of the white space characters. -/
def blankRanges : Array (Nat × Nat) :=
  #[
    (0x9, 0xD), (0x20, 0x20), (0x85, 0x85), (0xA0, 0xA0), (0x1680, 0x1680), (0x2000, 0x200A),
    (0x2028, 0x2029), (0x202F, 0x202F), (0x205F, 0x205F), (0x3000, 0x3000)
  ]

/-- Whether a character is white space. -/
def isBlank (character : Char) : Bool := inRanges blankRanges character

/-- A text without the white space at its ends. -/
def trim (text : List Char) : List Char :=
  ((text.dropWhile isBlank).reverse.dropWhile isBlank).reverse

end Targeting.Text
