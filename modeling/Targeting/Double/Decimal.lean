import Targeting.Double.Rounding
import Targeting.Text.Numeral

/-!
# Reading decimal numbers

The text of a number is an optional sign followed by digits with an optional point among or around
them, at least one digit in all, and an optional exponent; or one of the words for infinity and for
not-a-number in any case of letters. Nothing else may stand in it, so blanks are for the caller to
remove.
-/

namespace Targeting.Double

/-- Remove a sign from the front of a text; the flag tells whether it was a minus sign. -/
def splitSign : List Char → Bool × List Char
  | '+' :: rest => (false, rest)
  | '-' :: rest => (true, rest)
  | text => (false, text)

/-- The exponent that ends a text: nothing, or a letter `e` with a signed number. -/
def readExponent? : List Char → Option Int
  | [] => some 0
  | letter :: rest =>
      if letter = 'e' ∨ letter = 'E' then
        let (negative, digits) := splitSign rest
        if digits.isEmpty || !digits.all Numeral.isDigit then none
        else some (if negative then -(Numeral.value digits : Int) else Numeral.value digits)
      else none

/-- A magnitude written with digits, with the given sign. -/
def readDigits? (negative : Bool) (text : List Char) : Option Double :=
  let (whole, rest) := text.span Numeral.isDigit
  let (decimals, rest) :=
    match rest with
    | '.' :: afterPoint => afterPoint.span Numeral.isDigit
    | _ => ([], rest)
  if whole.isEmpty && decimals.isEmpty then none
  else
    (readExponent? rest).map fun exponent =>
      ofDecimal negative (Numeral.value (whole ++ decimals)) (exponent - decimals.length)

/-- The number that a text stands for. -/
def read? (text : List Char) : Option Double :=
  let (negative, unsigned) := splitSign text
  let word := String.ofList (unsigned.map Char.toLower)
  if word = "inf" ∨ word = "infinity" then some (ofMagnitude negative infinityMagnitude)
  else if word = "nan" then some (ofMagnitude negative (infinityMagnitude + (1 <<< 51)))
  else readDigits? negative unsigned

end Targeting.Double
