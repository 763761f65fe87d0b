/-! Sets of characters given by ranges of code points. -/

namespace SearchClient.Text

/-- A set of code points: the first and the last one of each range. -/
abbrev Ranges := List (Nat × Nat)

/-- Whether a code point lies in one of the ranges. -/
def Ranges.contains (ranges : Ranges) (n : Nat) : Bool :=
  ranges.any fun (first, last) => first ≤ n && n ≤ last

end SearchClient.Text
