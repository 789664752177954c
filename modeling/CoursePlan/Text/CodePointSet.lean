/-!
# Sets of code points

A property of characters, such as "is a letter", holds on stretches of neighbouring code points.
The set is written down by its *edges*, the code points at which membership changes, in increasing
order: the first edge is the first member, the second the first non-member after it, and so on.
-/

namespace CoursePlan.Text

/-- A set of code points, given by the points where membership changes. -/
structure CodePointSet where
  edges : List Nat

namespace CodePointSet

/-- A character is a member when an odd number of edges lie at or before it. -/
def contains (s : CodePointSet) (c : Char) : Bool :=
  (s.edges.takeWhile (· ≤ c.toNat)).length % 2 == 1

end CodePointSet

end CoursePlan.Text
