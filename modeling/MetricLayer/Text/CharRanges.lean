/-!
# Character classes given by ranges of code points

A character class of a published table is a list of closed ranges of code points in ascending
order; `covers` says whether a character lies in one of them.
-/

namespace MetricLayer.Text

/-- Closed ranges of code points, in ascending order. -/
abbrev CharRanges := List (Nat × Nat)

/-- The character lies in one of the ranges. -/
def CharRanges.covers (ranges : CharRanges) (c : Char) : Bool :=
  ranges.any fun r => r.1 ≤ c.toNat && c.toNat ≤ r.2

end MetricLayer.Text
