/-!
# Character properties as ranges of code points

A Unicode property is kept as the ascending list of the **ranges** of code points that have it,
both ends included, and looked up by running through the list.
-/

namespace TextGauge.Unicode

/-- Ranges of code points, both ends included. -/
abbrev Ranges := List (Nat × Nat)

/-- Whether a code point lies in one of the ranges. -/
def Ranges.contains (ranges : Ranges) (n : Nat) : Bool :=
  ranges.any fun range => range.1 ≤ n && n ≤ range.2

end TextGauge.Unicode
