/-!
# Hexadecimal text

Numbers written in base sixteen with a fixed number of lower-case digits, and the reader of such
text. A written number reads back as the number modulo the power of sixteen that the width allows
(`Hex.read?_digits`).
-/

namespace Targeting.Hex

/-- The lower-case digit for a value below sixteen. -/
def digit (value : Nat) : Char :=
  if value < 10 then Char.ofNat (48 + value) else Char.ofNat (87 + value)

/-- The value of a digit in either case. -/
def value? (digit : Char) : Option Nat :=
  let code := digit.toNat
  if 48 ≤ code ∧ code ≤ 57 then some (code - 48)
  else if 97 ≤ code ∧ code ≤ 102 then some (code - 87)
  else if 65 ≤ code ∧ code ≤ 70 then some (code - 55)
  else none

/-- The `width` lowest digits of a number, most significant first. -/
def digits : Nat → Nat → List Char
  | 0, _ => []
  | width + 1, number => digits width (number / 16) ++ [digit (number % 16)]

/-- Continue reading digits after a part that has already been read. -/
def readFrom? : Nat → List Char → Option Nat
  | seen, [] => some seen
  | seen, character :: rest =>
      match value? character with
      | some value => readFrom? (seen * 16 + value) rest
      | none => none

/-- The number that a list of digits stands for. -/
def read? (text : List Char) : Option Nat := readFrom? 0 text

/-- Two digits for each byte. -/
def readBytes? : List Char → Option (List UInt8)
  | [] => some []
  | [_] => none
  | high :: low :: rest =>
      match value? high, value? low, readBytes? rest with
      | some upper, some lower, some bytes => some (UInt8.ofNat (upper * 16 + lower) :: bytes)
      | _, _, _ => none

@[simp]
theorem length_digits (width number : Nat) : (digits width number).length = width := by
  induction width generalizing number with
  | zero => rfl
  | succ width ih => simp [digits, ih]

theorem value?_digit {value : Nat} (small : value < 16) : value? (digit value) = some value := by
  revert value
  decide

theorem readFrom?_append (seen : Nat) (front back : List Char) :
    readFrom? seen (front ++ back) = (readFrom? seen front).bind (readFrom? · back) := by
  induction front generalizing seen with
  | nil => rfl
  | cons character front ih =>
      simp only [List.cons_append, readFrom?]
      cases value? character with
      | none => rfl
      | some value => exact ih _

theorem readFrom?_digits (seen width number : Nat) :
    readFrom? seen (digits width number) = 
      some (seen * Nat.pow 16 width + number % Nat.pow 16 width) := by
  induction width generalizing number with
  | zero => simp [digits, readFrom?, Nat.mod_one]
  | succ width ih =>
      have small : number % 16 < 16 := Nat.mod_lt _ (by decide)
      rw [digits, readFrom?_append, ih]
      simp only [Option.bind_some, readFrom?, value?_digit small]
      have power : Nat.pow 16 (width + 1) = 16 * Nat.pow 16 width := Nat.mul_comm _ _
      rw [power, Nat.mod_mul]
      congr 1
      rw [Nat.add_mul, Nat.mul_assoc, Nat.mul_comm (Nat.pow 16 width) 16, Nat.add_assoc,
        Nat.mul_comm (number / 16 % _) 16, Nat.add_comm (16 * _) (number % 16)]

theorem read?_digits (width number : Nat) :
    read? (digits width number) = some (number % Nat.pow 16 width) := by
  simpa [read?] using readFrom?_digits 0 width number

end Targeting.Hex
