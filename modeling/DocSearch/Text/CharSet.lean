/-!
# Character sets

A set of characters is a list of intervals of code points, in increasing order.  `CharSet.contains`
tests membership; the sets that the library uses stand in modules named for their property.
-/

namespace DocSearch

/-- A set of characters: the intervals of its code points, first and last included. -/
structure CharSet where
  intervals : List (Nat × Nat)

namespace CharSet

/-- A character belongs to a set when its code point lies in one of the intervals. -/
def contains (s : CharSet) (c : Char) : Bool :=
  s.intervals.any fun (first, last) => first ≤ c.toNat && c.toNat ≤ last

end CharSet

end DocSearch
