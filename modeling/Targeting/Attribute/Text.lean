import Targeting.Attribute.Basic
import Targeting.Double.Shortest

/-!
# Attributes as text

The text of a number has the fewest digits that read back. From a millionth up to, but not
including, the twenty-first power of ten it is written out; outside of that range it has an
exponent, with a sign either way. Both zeros are written alike.

Inside an array, null leaves an empty place between the commas; an object has no text of its own.
-/

namespace Targeting.Attribute

/-- Whether the digits of a number are written out, given the place of their point. -/
def isWrittenOut (point : Int) : Bool := decide (-5 ≤ point ∧ point ≤ 21)

/-- The characters of a positive finite number. -/
def magnitudeText (number : Double) : List Char :=
  let digits := number.shortestDigits fun _ => true
  if isWrittenOut digits.point then digits.positional
  else
    let exponent := digits.point - 1
    let sign := if exponent < 0 then '-' else '+'
    digits.mantissa ++ 'e' :: sign :: (toString exponent.natAbs).toList

/-- The text of a number. -/
def numberText (number : Double) : String :=
  let sign := if number.isNegative then "-" else ""
  if number.magnitude = 0 then "0"
  else if number.isNaN then "NaN"
  else if number.isFinite then sign ++ String.ofList (magnitudeText number)
  else sign ++ "Infinity"

mutual

/-- The text of an attribute. -/
def text : Attribute → String
  | string text => text
  | number value => numberText value
  | bool true => "true"
  | bool false => "false"
  | null => "null"
  | array items => ",".intercalate (itemTexts items)
  | object _ => "[object Object]"

/-- The texts of the items of an array. -/
def itemTexts : List Attribute → List String
  | [] => []
  | null :: rest => "" :: itemTexts rest
  | item :: rest => item.text :: itemTexts rest

end

end Targeting.Attribute
