import AbcMetric.Classify
import AbcMetric.Walk

/-!
# Tallies

A tally folds vectors into a total and into decorations: for each line, the letters of the vectors
attributed to it. A vector on no line is left out of both.

* `Tally.absorb` folds one vector in.
* `Tally.unsorted` has the letters of every line as they came, `Tally.sorted` in order.
* `tally` folds the contributions of every node of a module.

This is the program's running fold of vectors and the fold over a module, with the map from lines
to letters as a list. Not modelled: which of two equal letters comes first when sorting, since
nothing can tell.
-/

namespace AbcMetric

/-- Text for lines, each line once. -/
abbrev Decorations := List (Nat × String)

namespace Decorations

/-- Appends letters to those of a line in decorations by descending line; a line that was not there
is put in its place. -/
def append (line : Nat) (letters : String) : Decorations → Decorations
  | [] => [(line, letters)]
  | (l, text) :: rest =>
    if l < line then (line, letters) :: (l, text) :: rest
    else if line = l then (l, text ++ letters) :: rest
    else (l, text) :: append line letters rest

/-- Decorations given one by one; of two texts for one line the later counts. -/
def ofPairs (pairs : List (Nat × String)) : Decorations :=
  pairs.foldl (fun ds pair => pair :: ds.filter (·.1 ≠ pair.1)) []

/-- The text of a line; the empty text if there is none. -/
def textAt (ds : Decorations) (line : Nat) : String :=
  (ds.lookup line).getD ""

end Decorations

/-- The letters in alphabetical order. -/
def sortLetters (letters : String) : String :=
  String.ofList (letters.toList.mergeSort (· ≤ ·))

/-- A total and the decorations of its lines, by descending line: a source is mostly counted from
top to bottom, so letters are added near the front. -/
structure Tally where
  total : AbcVector
  decorations : Decorations

namespace Tally

/-- Nothing absorbed yet. -/
def empty : Tally := ⟨.zero, []⟩

/-- Folds one vector in, if it is on a line. -/
def absorb (t : Tally) (v : AbcVector) : Except CountFault Tally :=
  match v.line with
  | none => .ok t
  | some line => do
    let total ← t.total.add v
    let letters ← v.letters
    return ⟨total, t.decorations.append line letters⟩

/-- Folds vectors in, one after the other. -/
def absorbAll (t : Tally) (vs : List AbcVector) : Except CountFault Tally :=
  vs.foldlM absorb t

/-- The decorations by ascending line, with the letters of each line as they came. -/
def unsorted (t : Tally) : Decorations := t.decorations.reverse

/-- The decorations by ascending line, with the letters of each line sorted. -/
def sorted (t : Tally) : Decorations :=
  t.unsorted.map fun (line, letters) => (line, sortLetters letters)

end Tally

/-- The contributions of every node of a module. -/
def tally (lines : LineIndex) (body : List Stmt) : Except CountFault Tally :=
  (walk body).foldlM (fun t node => do t.absorbAll (← classify lines node)) Tally.empty

end AbcMetric
