/-!
# Classes of characters given by ranges

A Unicode property is a list of inclusive ranges of code points.
-/

namespace AbcMetric

/-- Inclusive ranges of code points. -/
abbrev CharRanges := List (Nat × Nat)

/-- Whether the code point of `c` lies in one of the ranges. -/
def CharRanges.has (ranges : CharRanges) (c : Char) : Bool :=
  ranges.any fun (first, last) => first ≤ c.toNat && c.toNat ≤ last

end AbcMetric
