/-!
# Numerals

Natural numbers written with ASCII digits.
-/

namespace Targeting.Numeral

/-- An ASCII digit. -/
def isDigit (character : Char) : Bool := decide (48 ≤ character.toNat ∧ character.toNat ≤ 57)

/-- The number that a list of digits stands for. -/
def value (digits : List Char) : Nat :=
  digits.foldl (fun value digit => value * 10 + (digit.toNat - 48)) 0

theorem isDigit_iff {character : Char} :
    isDigit character = true ↔ 48 ≤ character.toNat ∧ character.toNat ≤ 57 := by
  simp [isDigit]

end Targeting.Numeral
