/-!
# Similar words

How alike two words are, for suggestions. Equal characters at nearby positions are matched, and the
measure is the mean of three parts: the matched share of either word, and the share of the matches
that are in the same order in both. It is kept as an exact fraction.

This is the measure of the library that suggests an option for one that is not understood.
-/

namespace AbcMetric

/-- The first position in the window that holds the character and is not taken. -/
def matchIn (c : Char) (word : List Char) (taken : List Nat) (low high : Nat) : Option Nat :=
  (word.zipIdx.find? fun (d, j) => low ≤ j && j < high && d == c && !taken.contains j).map (·.2)

/-- The positions of matched characters of both words: those of the first in their order, and those
of the second. -/
def matchedPositions (a b : List Char) : List Nat × List Nat :=
  let reach := max a.length b.length / 2 - 1
  a.zipIdx.foldl (fun (left, right) (c, i) =>
    match matchIn c b right (i - reach) (i + reach + 1) with
    | some j => (left ++ [i], j :: right)
    | none => (left, right)) ([], [])

/-- The similarity of two words as a fraction. -/
def similarity (first second : String) : Nat × Nat :=
  let a := first.toList
  let b := second.toList
  let (left, right) := matchedPositions a b
  let matched := left.length
  if a.isEmpty && b.isEmpty then (1, 1)
  else if matched = 0 then (0, 1)
  else
    let inFirst := left.filterMap (a[·]?)
    let inSecond := (right.mergeSort (· ≤ ·)).filterMap (b[·]?)
    let swapped := ((inFirst.zip inSecond).filter fun (x, y) => x != y).length / 2
    let (la, lb) := (a.length, b.length)
    (matched * matched * lb + matched * matched * la + (matched - swapped) * la * lb,
      3 * matched * la * lb)

/-- Whether one fraction is at most another. -/
def fractionLe (x y : Nat × Nat) : Bool := x.1 * y.2 ≤ y.1 * x.2

/-- The most similar of the candidates, if any is more than seven tenths alike; of equally similar
ones the last. -/
def mostSimilar? (word : String) (candidates : List String) : Option String :=
  let close := candidates.filter fun c => !fractionLe (similarity word c) (7, 10)
  close.foldl (fun best c =>
    match best with
    | none => some c
    | some b => if fractionLe (similarity word b) (similarity word c) then some c else some b) none

end AbcMetric
