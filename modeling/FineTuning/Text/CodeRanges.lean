/-!
# Sets of characters as ranges of code points

The properties of characters that this library needs (alphanumeric, cased, printable, ...) are
given by the code points that have them. A `CodeRanges` is an ascending list of closed ranges.
-/

namespace FineTuning.Text

/-- Closed ranges of code points, in ascending order and disjoint. -/
abbrev CodeRanges := List (Nat × Nat)

/-- Whether one of the ranges holds the code point; the search ends at the first range above it. -/
def CodeRanges.contains : CodeRanges → Nat → Bool
  | [], _ => false
  | (first, last) :: rest, n =>
    if n < first then false else n ≤ last || CodeRanges.contains rest n

end FineTuning.Text
