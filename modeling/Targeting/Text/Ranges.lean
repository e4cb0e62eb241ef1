/-!
# Ranges of code points

A property of characters is given by the sorted, disjoint ranges of the code points that have it.
-/

namespace Targeting.Text

/-- Whether a number lies in one of the sorted ranges from position `low` up to `high`. -/
def inRangesBetween (ranges : Array (Nat × Nat)) (code : Nat) (low high : Nat) : Bool :=
  if low < high then
    let middle := (low + high) / 2
    let (first, last) := ranges.getD middle (0, 0)
    if code < first then inRangesBetween ranges code low middle
    else if last < code then inRangesBetween ranges code (middle + 1) high
    else decide (middle < ranges.size)
  else false
termination_by high - low
decreasing_by
  · omega
  · omega

/-- Whether the code point of a character lies in one of the sorted ranges. -/
def inRanges (ranges : Array (Nat × Nat)) (character : Char) : Bool :=
  inRangesBetween ranges character.toNat 0 ranges.size

end Targeting.Text
