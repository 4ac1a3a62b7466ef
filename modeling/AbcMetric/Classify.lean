import AbcMetric.Node

/-!
# What a node contributes

Each node is classified on its own into one or more vectors; a node that contributes nothing has
one empty vector, so that it still shows in the bookkeeping.

* Each target of an assignment counts, a tuple by its elements; so do augmented and annotated
  assignments.
* Each call is a branch.
* A comparison, an `except` clause, an operand of `and` or `or` that does not count itself, a tested
  value that is no comparison, and an `else` are conditions.

This is the program's classifier, with the rule for the line of an `else`. Premise: a node is seen
alone, so what stands around it plays no part. Not modelled: patterns of a `case`, which are no
nodes and are not classified.
-/

namespace AbcMetric

/-- The node's empty vector. -/
def emptyFor (lines : LineIndex) (node : Node) : AbcVector :=
  .empty (node.origin lines) none

/-- One assignment counted for the node. -/
def assignmentFor (lines : LineIndex) (node : Node) : Except CountFault AbcVector :=
  AbcVector.oneAssignment (node.origin lines) none

/-- One branch counted for the node. -/
def branchFor (lines : LineIndex) (node : Node) : Except CountFault AbcVector :=
  AbcVector.oneBranch (node.origin lines) none

/-- One condition counted for the node, on its own line unless another is given. -/
def conditionFor (lines : LineIndex) (node : Node) (line : Option Nat) :
    Except CountFault AbcVector :=
  AbcVector.oneCondition (node.origin lines) line

/-- Whether an operand of `and` or `or` is counted as a node of its own. -/
def Expr.countsItself : Expr → Bool
  | .boolOp .. | .compare .. => true
  | _ => false

/-- Whether testing the expression needs no further condition: it counts itself, or it is a
literal. -/
def Expr.isSettledTest : Expr → Bool
  | .boolOp .. | .compare .. | .constant .. => true
  | _ => false

/-- The line that an alternative is counted on. The word `else` has no place in the tree, so it is
taken to stand on the line above the alternative when that starts on another line than its owner;
an `if` in the alternative is an `elif`, which has a line of its own. -/
def alternativeLine (lines : LineIndex) (owner first : Node) : Option Nat :=
  match first with
  | .stmt (.ifElse ..) => first.line lines
  | _ =>
    if first.line lines ≠ owner.line lines then (first.line lines).map (· - 1)
    else first.line lines

/-- The condition of an alternative that starts with `first`, or nothing when there is none. -/
def alternativeFor (lines : LineIndex) (owner : Node) (first : Option Node) :
    Except CountFault AbcVector :=
  match first with
  | none => .ok (emptyFor lines owner)
  | some node => conditionFor lines node (alternativeLine lines owner node)

/-- The first statement of a block, as a node. -/
def firstOf (block : List Stmt) : Option Node := block.head?.map .stmt

/-- A tested expression and its alternative. -/
def conditionalFor (lines : LineIndex) (owner : Node) (test : Expr) (first : Option Node) :
    Except CountFault (List AbcVector) := do
  if test.isSettledTest then return [← alternativeFor lines owner first]
  else
    let tested ← conditionFor lines (.expr test) none
    return [tested, ← alternativeFor lines owner first]

/-- What an assignment target binds: the elements of a tuple, or the target itself. -/
def Expr.boundTargets : Expr → List Expr
  | .tuple _ elts _ => elts
  | e => [e]

/-- The contributions of a statement. -/
def classifyStmt (lines : LineIndex) (stmt : Stmt) : Except CountFault (List AbcVector) := do
  let node : Node := .stmt stmt
  match stmt with
  | .forLoop _ false _ _ _ orelse => return [← alternativeFor lines node (firstOf orelse)]
  | .whileLoop _ _ _ orelse => return [← alternativeFor lines node (firstOf orelse)]
  | .tryBlock _ false _ _ orelse _ => return [← alternativeFor lines node (firstOf orelse)]
  | .assign _ targets _ =>
    (targets.flatMap Expr.boundTargets).mapM fun target => assignmentFor lines (.expr target)
  | .annAssign .. => return [← assignmentFor lines node]
  | .augAssign .. => return [← assignmentFor lines node]
  | .ifElse _ test _ orelse => conditionalFor lines node test (firstOf orelse)
  | .assertTest _ (.name s id usage) _ =>
    return [← conditionFor lines (.expr (.name s id usage)) none]
  | _ => return [emptyFor lines node]

/-- The contributions of an expression. -/
def classifyExpr (lines : LineIndex) (expr : Expr) : Except CountFault (List AbcVector) := do
  let node : Node := .expr expr
  match expr with
  | .call .. => return [← branchFor lines node]
  | .boolOp _ _ values =>
    let counted := values.filter (!·.countsItself)
    match ← counted.mapM fun value => conditionFor lines (.expr value) none with
    | [] => return [emptyFor lines node]
    | vectors => return vectors
  | .compare .. => return [← conditionFor lines node none]
  | .ifExp _ test _ orelse => conditionalFor lines node test (some (.expr orelse))
  | _ => return [emptyFor lines node]

/-- The contributions of a node. -/
def classify (lines : LineIndex) (node : Node) : Except CountFault (List AbcVector) :=
  match node with
  | .stmt s => classifyStmt lines s
  | .expr e => classifyExpr lines e
  | .handler _ => do return [← conditionFor lines node none]
  | _ => .ok [emptyFor lines node]

end AbcMetric
