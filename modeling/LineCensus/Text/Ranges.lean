/-!
# Sets of code points

A set of code points is a list of closed ranges in ascending order.
-/

namespace LineCensus.Text

/-- Closed ranges of code points, ascending and apart. -/
abbrev Ranges := List (Nat × Nat)

/-- Membership; the search ends at the first range that starts above `n`. -/
def Ranges.contains : Ranges → Nat → Bool
  | [], _ => false
  | (low, high) :: rest, n => if n < low then false else n ≤ high || Ranges.contains rest n

end LineCensus.Text
