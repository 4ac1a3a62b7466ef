import AbcMetric.Node

/-!
# Visiting every node

A walk keeps a stack of nodes that wait for their visit, the next one on top. Each step pops the
node on top, pushes its children and turns them around, the first child on top, so nodes are visited
before what stands under them and in source order.

* `Walk.next?` is one step. `Walk.waiting_next?` says what it does to the nodes that wait.
* `walk` is the list of all nodes of a module in the order of their visits.

This is the program's walker, step by step, and its result as a list. Not modelled: stopping before
the last node, which the program never does.
-/

namespace AbcMetric

/-- The nodes that wait for their visit, the next one at the end. -/
structure Walk where
  stack : Array Node

namespace Walk

/-- The stack with everything from `mark` on turned around. -/
def reverseFrom (mark : Nat) (stack : Array Node) : Array Node :=
  let pushed := stack.extract mark
  stack.shrink mark ++ pushed.reverse

/-- A walk through a module that has not begun. -/
def start (body : List Stmt) : Walk := ⟨(Node.ofStmts body).toArray.reverse⟩

/-- Visits the next node; its children are visited before the nodes that wait already. -/
def next? (w : Walk) : Option (Node × Walk) :=
  match w.stack.back? with
  | none => none
  | some node =>
    let rest := w.stack.pop
    some (node, ⟨reverseFrom rest.size (rest ++ node.children.toArray)⟩)

/-- The nodes that wait for their visit, the next one first. -/
def waiting (w : Walk) : List Node := w.stack.toList.reverse

theorem waiting_start (body : List Stmt) : (start body).waiting = Node.ofStmts body := by
  simp [start, waiting]

theorem toList_reverseFrom (stack : Array Node) (pushed : List Node) :
    (reverseFrom stack.size (stack ++ pushed.toArray)).toList = stack.toList ++ pushed.reverse := by
  simp [reverseFrom]

theorem next?_eq_none {w : Walk} (h : w.next? = none) : w.waiting = [] := by
  unfold next? at h
  split at h
  · rename_i hback
    rw [waiting, Array.back?_eq_none_iff.mp hback]
    rfl
  · exact absurd h (by simp)

/-- One visit takes the first of the nodes that wait, and puts its children in its place. -/
theorem waiting_next? {w w' : Walk} {node : Node} (h : w.next? = some (node, w')) :
    ∃ rest, w.waiting = node :: rest ∧ w'.waiting = node.children ++ rest := by
  unfold next? at h
  split at h
  · exact absurd h (by simp)
  · rename_i top hback
    obtain ⟨below, hstack⟩ := Array.back?_eq_some_iff.mp hback
    obtain ⟨rfl, rfl⟩ := Prod.mk.inj (Option.some.inj h)
    refine ⟨below.toList.reverse, ?_, ?_⟩
    · rw [waiting, hstack, Array.toList_push, List.reverse_append]
      rfl
    · rw [waiting, hstack, Array.pop_push, toList_reverseFrom, List.reverse_append,
        List.reverse_reverse]

theorem totalWeight_next? {w w' : Walk} {node : Node} (h : w.next? = some (node, w')) :
    Node.totalWeight w'.waiting < Node.totalWeight w.waiting := by
  obtain ⟨rest, hw, hw'⟩ := waiting_next? h
  have := Node.totalWeight_children_lt node
  rw [hw, hw', Node.totalWeight_cons, Node.totalWeight_append]
  omega

/-- The nodes in the order of their visits, up to the end of the walk. -/
def toList (w : Walk) : List Node :=
  match _h : w.next? with
  | none => []
  | some (node, w') => node :: w'.toList
termination_by Node.totalWeight w.waiting
decreasing_by exact totalWeight_next? _h

end Walk

/-- All nodes of a module in the order of their visits. -/
def walk (body : List Stmt) : List Node := (Walk.start body).toList

end AbcMetric
