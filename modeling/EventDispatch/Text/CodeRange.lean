/-!
# Sets of code points

A property of characters is given as a sorted list of inclusive ranges of code
points.  `CodeRange.covers` searches such a list and stops at the first range that
begins beyond the code point.
-/

namespace EventDispatch

/-- The code points from `first` to `last`, both included. -/
structure CodeRange where
  first : Nat
  last : Nat
  deriving DecidableEq

namespace CodeRange

/-- Search of a table whose ranges are sorted: a range that begins beyond the
code point ends the search. -/
def covers : List CodeRange → Nat → Bool
  | [], _ => false
  | range :: rest, point =>
      if point < range.first then false
      else if point ≤ range.last then true
      else covers rest point

end CodeRange

end EventDispatch
