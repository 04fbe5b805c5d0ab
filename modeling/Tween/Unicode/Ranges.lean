/-!
# Membership in a list of code point ranges

A Unicode property is kept as a list of ranges of code points, both ends included.
-/

namespace Tween.Unicode

/-- The code point lies in one of the ranges. -/
def inRanges (ranges : List (Nat × Nat)) (point : Nat) : Bool :=
  ranges.any fun range => range.1 ≤ point && point ≤ range.2

end Tween.Unicode
