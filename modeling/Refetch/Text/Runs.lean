/-!
# Runs of numbers

A set of numbers given by its increasing list of turning points: the first point is the first
member, the next one the first number after it that is no member, and so on.
-/

namespace Refetch.Text

/-- Membership in the set with these turning points. -/
def inRuns (points : List Nat) (n : Nat) : Bool :=
  (points.takeWhile (· ≤ n)).length % 2 == 1

end Refetch.Text
