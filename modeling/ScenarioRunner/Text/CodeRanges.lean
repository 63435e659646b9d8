/-!
# Sets of code points as ascending ranges

The character tables of this library are lists of closed ranges of code
points, in ascending order and without overlap.  Membership reads such a list
from the left and stops at the first range that begins after the code point.
-/

namespace ScenarioRunner.Text

/-- Closed ranges of code points, ascending and without overlap. -/
abbrev CodeRanges := List (Nat × Nat)

namespace CodeRanges

/-- Whether a code point lies in one of the ranges. -/
def contains : CodeRanges → Nat → Bool
  | [], _ => false
  | (first, last) :: later, code =>
      if code < first then false
      else code ≤ last || contains later code

end CodeRanges

end ScenarioRunner.Text
