/-
DispatchGen/Text/Ranges.lean

Character classes given as lists of inclusive code point ranges.
-/

namespace DispatchGen.Text

/-- Whether the code point of `c` lies in one of the ranges. -/
def inRanges (ranges : List (Nat × Nat)) (c : Char) : Bool :=
  ranges.any fun r => r.1 ≤ c.toNat && c.toNat ≤ r.2

end DispatchGen.Text
