/-!
# Ranges of code points

A property of characters is kept as the list of the ranges of code points that have it.
-/

namespace BindingDocs.Text

/-- Is `n` in one of the ranges?  Both ends belong to a range. -/
def inRanges (ranges : List (Nat × Nat)) (n : Nat) : Bool := ranges.any fun r => r.1 ≤ n && n ≤ r.2

end BindingDocs.Text
