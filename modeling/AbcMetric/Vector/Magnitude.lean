import AbcMetric.Number.Binary64
import AbcMetric.Vector

/-!
# The magnitude of a vector

The magnitude is the Euclidean norm, to one decimal place. It is computed with 53 significant bits:
the squares, their sums, the root and its tenfold are each rounded to the nearest number with that
many bits, a half going to the even one; the tenfold is then rounded to an integer, a half going up.

All of it is exact arithmetic on `Nat`, so a magnitude is a number of tenths.

This is the program's magnitude and the text that shows it. Not modelled: numbers that are negative,
infinite or none, because a sum of three squares of counters is none of them.
-/

namespace AbcMetric

/-- The integer square root below `2 ^ bits`, decided bit by bit from the highest. -/
def rootBits (n : Nat) : Nat → Nat → Nat
  | 0, root => root
  | bits + 1, root =>
    let next := root + pow2 bits
    rootBits n bits (if next * next ≤ n then next else root)

/-- The integer square root. -/
def natRoot (n : Nat) : Nat := rootBits n (n.log2 / 2 + 1) 0

/-- The nearest integer to the square root; no root of an integer is a half. -/
def nearestRoot (n : Nat) : Nat :=
  let root := natRoot n
  if root * root + root < n then root + 1 else root

/-- The sum of three squares, each square and each sum rounded. -/
def roundedNorm (a b c : Nat) : Nat :=
  round53 (round53 (round53 (a * a) + round53 (b * b)) + round53 (c * c))

/-- The tenfold root of `s`, each step rounded. The root has 53 significant bits, `shift` of them
behind the point. -/
def tenfoldRoot (s : Nat) : Nat :=
  if s = 0 then 0
  else
    let shift := 52 - s.log2 / 2
    let tenfold := round53 (10 * nearestRoot (s * pow2 (2 * shift)))
    (2 * tenfold + pow2 shift) / pow2 (shift + 1)

namespace AbcVector

/-- The magnitude, as a number of tenths. -/
def tenths (v : AbcVector) : Nat :=
  tenfoldRoot (roundedNorm v.assignment.toNat v.branch.toNat v.condition.toNat)

/-- The magnitude as text. -/
def magnitudeText (v : AbcVector) : String := tenthsText v.tenths

/-- The vector and its magnitude as text. -/
def textWithMagnitude (v : AbcVector) : String := s!"{v.text} ({v.magnitudeText})"

end AbcVector

end AbcMetric
