import AbcMetric.Classify
import AbcMetric.Walk
import AbcMetric.Syntax.Dump

/-!
# Traces

A trace lists the nodes that contribute something, by line and, on one line, in the order of their
visits. The debug text is the dump of the module followed by the trace with the dump of each node.

This is the program's debug text. Not modelled: where it is shown, which is a matter of reports.
-/

namespace AbcMetric

/-- A node that contributes, its line and its vectors. -/
structure TraceEntry where
  line : Nat
  vectors : List AbcVector
  node : Node

/-- The nodes that contribute, in the order of their visits. -/
def contributors (lines : LineIndex) (body : List Stmt) : Except CountFault (List TraceEntry) := do
  let entries ← (walk body).mapM fun node =>
    return ⟨(node.line lines).getD 0, ← classify lines node, node⟩
  return entries.filter (·.vectors.any AbcVector.isNonzero)

/-- The nodes that contribute, by line. -/
def trace (lines : LineIndex) (body : List Stmt) : Except CountFault (List TraceEntry) := do
  return (← contributors lines body).mergeSort (·.line ≤ ·.line)

namespace TraceEntry

/-- The line of a trace for one node. -/
def header (entry : TraceEntry) : String :=
  let vectors := String.intercalate ", " (entry.vectors.map AbcVector.text)
  s!"Line {entry.line} -> [{vectors}]"

end TraceEntry

/-- The dump of a node. -/
def Node.dump : Node → Dump
  | .stmt s => .variant "Stmt" s.dump
  | .expr e => .variant "Expr" e.dump
  | .handler h => .variant "ExceptHandler" h.dump
  | .keyword k => .variant "Keyword" k.dump
  | .arg a => .variant "Arg" a.dump
  | .comprehension c => .variant "Comprehension" c.dump
  | .withItem i => .variant "WithItem" i.dump
  | .matchCase c => .variant "MatchCase" c.dump

/-- The dump of a module and the trace of its contributing nodes. -/
def debugText (lines : LineIndex) (body : List Stmt) : Except CountFault String := do
  let entries ← trace lines body
  let shown := entries.map fun e => e.header ++ "\n" ++ e.node.dump.render 0 ++ "\n\n"
  return (Dump.list (dumpStmts body)).render 0 ++ "\n\n" ++ String.join shown

end AbcMetric
