/-!
# Ranges of characters

A property of characters is held as an array of ranges of code points, both ends included, in
ascending order, and looked up by bisection.
-/

namespace PathJail.Text

/-- Whether a code point lies in one of the ranges at the positions `[low, high)`. -/
def inRangesBetween (ranges : Array (Nat × Nat)) (code : Nat) (low high : Nat) : Bool :=
  if _h : low < high then
    let middle := (low + high) / 2
    match ranges[middle]? with
    | none => false
    | some (first, last) =>
      if code < first then inRangesBetween ranges code low middle
      else if last < code then inRangesBetween ranges code (middle + 1) high
      else true
  else false
termination_by high - low

/-- Whether a code point lies in one of the ranges. -/
def inRanges (ranges : Array (Nat × Nat)) (code : Nat) : Bool :=
  inRangesBetween ranges code 0 ranges.size

end PathJail.Text
