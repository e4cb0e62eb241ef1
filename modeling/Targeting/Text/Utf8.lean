/-!
# Characters as bytes

A range of characters as sequences of byte ranges: a character lies in the range if and only if its
bytes lie, place by place, in the byte ranges of one of the sequences. A range is cut where the
number of bytes changes, and then at multiples of the powers of sixty-four, so that what remains in
one piece has the same leading bytes followed by full ranges, or differs in one byte only.
-/

namespace Targeting.Text

/-- The first and the last of the bytes that may stand at a place. -/
abbrev ByteRange := Nat × Nat

/-- The bytes of the character with a given code. -/
def bytesOfCode (code : Nat) : List Nat :=
  (String.utf8EncodeChar (Char.ofNat code)).map UInt8.toNat

/-- Where a range of codes that differ in a multiple of a power of sixty-four has to be cut: after
an incomplete block at its start, or before one at its end. -/
def blockCut? (first last block : Nat) : Option Nat :=
  if first / block = last / block then none
  else if first % block ≠ 0 then some ((first / block + 1) * block)
  else if (last + 1) % block ≠ 0 then some (last / block * block)
  else none

/-- The code before which a range of codes has to be cut, if it must be cut at all. -/
def cut? (first last : Nat) : Option Nat :=
  match [0x80, 0x800, 0x10000].find? fun code => decide (first < code ∧ code ≤ last) with
  | some code => some code
  | none => if last < 0x80 then none else [64, 4096, 262144].findSome? (blockCut? first last)

/-- The sequences of byte ranges for a range of codes without surrogates. -/
def byteSequencesBetween (first last : Nat) : List (List ByteRange) :=
  match cut? first last with
  | some code =>
      if first < code ∧ code ≤ last then
        byteSequencesBetween first (code - 1) ++ byteSequencesBetween code last
      else []
  | none => [(bytesOfCode first).zip (bytesOfCode last)]
termination_by last - first

/-- The sequences of byte ranges for a range of codes; surrogates are passed over. -/
def byteSequences (first last : Nat) : List (List ByteRange) :=
  if first < 0xE000 ∧ 0xD7FF < last then
    byteSequencesBetween first 0xD7FF ++ byteSequencesBetween 0xE000 last
  else byteSequencesBetween first last

end Targeting.Text
