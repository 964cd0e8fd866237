/-!
# Sets of code points

A property of characters is stored as the ranges of code points that have it, in increasing order.
-/

namespace Gazette.Unicode

/-- Ranges of code points, first and last included, in increasing order. -/
abbrev Ranges := List (Nat × Nat)

/-- Whether a code point lies in one of the ranges. The search ends at the first range that begins
behind it. -/
def Ranges.contains : Ranges → Nat → Bool
  | [], _ => false
  | (first, last) :: rest, n =>
    if n < first then false
    else if n ≤ last then true
    else Ranges.contains rest n

end Gazette.Unicode
