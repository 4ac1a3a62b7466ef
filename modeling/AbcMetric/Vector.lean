import AbcMetric.Json

/-!
# ABC vectors

A vector counts assignments, branches and conditions in three 32-bit counters, and may belong to a
line of the source. It also remembers which construct it was counted for, for diagnosis only: the
origin takes no part in comparing or adding vectors.

* `AbcVector.add` sums the counters and keeps the line on the left; a counter that does not fit is
  an overflow. `AbcVector.accumulate` does the same to a running vector in place.
* `AbcVector.oneAssignment`, `AbcVector.oneBranch` and `AbcVector.oneCondition` count one unit,
  which has to be on a line.
* `AbcVector.letters` is the vector written as one letter for each unit.

This is the program's vector with its constructors, sums and comparison. An overflow is a fault, as
in a build that checks for it. Not modelled: a build that lets counters wrap around.
-/

namespace AbcMetric

/-- Why counting failed. -/
inductive CountFault where
  | overflow
  | unplaced (kind : String)
  deriving DecidableEq, Repr

/-- The wording of a counting fault. -/
def CountFault.message : CountFault → String
  | .overflow => "attempt to add with overflow"
  | .unplaced kind => s!"unit vector requested for a {kind} node without a line"

/-- The sum of two counters, if it fits. -/
def addCounter (a b : UInt32) : Except CountFault UInt32 :=
  if a.toNat + b.toNat < UInt32.size then .ok (a + b) else .error .overflow

/-- The construct a vector was counted for: its kind, where it starts, and its line. -/
structure Origin where
  kind : String
  offset : Nat
  line : Option Nat
  deriving DecidableEq, Repr

/-- Counts of assignments, branches and conditions, and the line they belong to. -/
structure AbcVector where
  assignment : UInt32
  branch : UInt32
  condition : UInt32
  line : Option Nat
  origin : Option Origin
  deriving DecidableEq, Repr

namespace AbcVector

/-- Counters alone, on no line. -/
def ofCounts (assignment branch condition : UInt32) : AbcVector :=
  ⟨assignment, branch, condition, none, none⟩

/-- Nothing counted, on no line. -/
def zero : AbcVector := ofCounts 0 0 0

/-- The line given, unless it is zero or missing; then the line of the origin. -/
def resolveLine (origin : Origin) (line : Option Nat) : Option Nat :=
  (line.filter (0 < ·)).or origin.line

/-- Nothing counted for a construct. -/
def empty (origin : Origin) (line : Option Nat) : AbcVector :=
  { zero with line := resolveLine origin line, origin := some origin }

/-- One unit counted for a construct, which has to be on a line. -/
def unit (origin : Origin) (line : Option Nat) (a b c : UInt32) : Except CountFault AbcVector :=
  match resolveLine origin line with
  | some l => .ok ⟨a, b, c, some l, some origin⟩
  | none => .error (.unplaced origin.kind)

/-- One assignment. -/
def oneAssignment (origin : Origin) (line : Option Nat) : Except CountFault AbcVector :=
  unit origin line 1 0 0

/-- One branch. -/
def oneBranch (origin : Origin) (line : Option Nat) : Except CountFault AbcVector :=
  unit origin line 0 1 0

/-- One condition. -/
def oneCondition (origin : Origin) (line : Option Nat) : Except CountFault AbcVector :=
  unit origin line 0 0 1

/-- Whether anything is counted. -/
def isNonzero (v : AbcVector) : Bool :=
  v.assignment ≠ 0 || v.branch ≠ 0 || v.condition ≠ 0

/-- Whether two vectors have the same counters and the same line. -/
def same (v w : AbcVector) : Bool :=
  v.assignment == w.assignment && v.branch == w.branch && v.condition == w.condition &&
    v.line == w.line

/-- The sum of the counters, on the line of the left vector. -/
def add (v w : AbcVector) : Except CountFault AbcVector := do
  let assignment ← addCounter v.assignment w.assignment
  let branch ← addCounter v.branch w.branch
  let condition ← addCounter v.condition w.condition
  return ⟨assignment, branch, condition, v.line, none⟩

/-- Adds a vector to the running one in place. The sum is stored once all its counters are there, so
an overflow leaves the running vector as it was. -/
def accumulate (w : AbcVector) : ExceptT CountFault (StateM AbcVector) Unit := do
  set (← MonadExcept.ofExcept ((← get).add w))

/-- The sum of a list, starting from nothing on no line. -/
def sum (vs : List AbcVector) : Except CountFault AbcVector :=
  vs.foldlM add zero

/-- One letter for each unit: the assignments, then the branches, then the conditions. Their number
has to fit a counter. -/
def letters (v : AbcVector) : Except CountFault String := do
  let front ← addCounter v.assignment v.branch
  let _ ← addCounter front v.condition
  return String.ofList
    (List.replicate v.assignment.toNat 'a' ++ List.replicate v.branch.toNat 'b' ++
      List.replicate v.condition.toNat 'c')

/-- The vector as text. -/
def text (v : AbcVector) : String :=
  s!"<{v.assignment.toNat}, {v.branch.toNat}, {v.condition.toNat}>"

/-- The vector as JSON; a missing line is left out. -/
def json (v : AbcVector) : Json :=
  .obj ([("assignment", .nat v.assignment.toNat), ("branch", .nat v.branch.toNat),
    ("condition", .nat v.condition.toNat)] ++
    (v.line.map fun l => ("line", Json.nat l)).toList)

end AbcVector

end AbcMetric
