import AbcMetric.Proofs.Occurrences
import AbcMetric.Walk

/-!
# A walk visits every construct of a module once

A walk pops the node on top of its stack, pushes the children and turns them around. The invariant
that carries every proof here: what a walk has still to visit is the preorder of the nodes that
wait, one after the other and from the top of the stack down (`Walk.Drains.eq_preorder`,
`Walk.toList_eq_preorder`).

* `Node.preorder` lists a node and then, child by child, what stands under it.
* `Walk.Drains` is the walk itself, step by step to its end; nothing bounds the number of steps
  beforehand.
* `walk_visits_each_once`: a walk through a module ends, it visits the preorder of the module, and
  that is every construct of the module (`occurrences`) once for each place where it stands.
-/

namespace AbcMetric

namespace Node

/-! ## Preorder -/

theorem weight_le_totalWeight {n : Node} {ns : List Node} (h : n ∈ ns) :
    n.weight ≤ totalWeight ns := by
  induction ns with
  | nil => exact absurd h List.not_mem_nil
  | cons m ns ih =>
    rw [totalWeight_cons]
    rcases List.mem_cons.mp h with rfl | h
    · exact Nat.le_add_right _ _
    · exact Nat.le_trans (ih h) (Nat.le_add_left _ _)

/-- The node, and then the preorder of each child in turn. -/
def preorder (n : Node) : List Node :=
  n :: n.children.attach.flatMap fun child => child.val.preorder
termination_by n.weight
decreasing_by
  exact Nat.lt_of_le_of_lt (weight_le_totalWeight child.property) (totalWeight_children_lt n)

theorem preorder_eq (n : Node) : n.preorder = n :: n.children.flatMap preorder := by
  rw [preorder, List.flatMap_subtype (fun _ _ => rfl), List.unattach_attach]

theorem self_mem_preorder (n : Node) : n ∈ n.preorder := by
  rw [preorder_eq]
  exact List.mem_cons_self

/-- The preorder of a node holds the children of what it holds. -/
theorem mem_preorder_of_child {m n child : Node} (h : n ∈ m.preorder) (hc : child ∈ n.children) :
    child ∈ m.preorder := by
  induction m using preorder.induct with
  | case1 m ih =>
    rw [preorder_eq] at h ⊢
    rcases List.mem_cons.mp h with rfl | h
    · exact List.mem_cons_of_mem _ (List.mem_flatMap.mpr ⟨child, hc, self_mem_preorder child⟩)
    · obtain ⟨below, hbelow, hn⟩ := List.mem_flatMap.mp h
      exact List.mem_cons_of_mem _ (List.mem_flatMap.mpr ⟨below, hbelow, ih ⟨below, hbelow⟩ hn⟩)

/-- The preorder of the children stands right behind the node, before the rest. -/
theorem flatMap_preorder_cons (n : Node) (rest : List Node) :
    (n :: rest).flatMap preorder = n :: (n.children ++ rest).flatMap preorder := by
  rw [List.flatMap_cons, preorder_eq, List.flatMap_append, List.cons_append]

end Node

/-! ## The walk, step by step -/

namespace Walk

/-- The walk `w` visits the nodes `ns`, in this order, and then ends. -/
inductive Drains : Walk → List Node → Prop
  | done {w : Walk} (h : w.next? = none) : Drains w []
  | visit {w w' : Walk} {n : Node} {ns : List Node} (h : w.next? = some (n, w'))
      (rest : Drains w' ns) : Drains w (n :: ns)

/-- One visit takes the first node off the preorder of the nodes that wait. -/
theorem preorder_next? {w w' : Walk} {n : Node} (h : w.next? = some (n, w')) :
    w.waiting.flatMap Node.preorder = n :: w'.waiting.flatMap Node.preorder := by
  obtain ⟨rest, hw, hw'⟩ := waiting_next? h
  rw [hw, hw', Node.flatMap_preorder_cons]

/-- **Whatever a walk visits to its end is the preorder of the nodes that wait.** -/
theorem Drains.eq_preorder {w : Walk} {ns : List Node} (h : w.Drains ns) :
    ns = w.waiting.flatMap Node.preorder := by
  induction h with
  | done h => rw [next?_eq_none h, List.flatMap_nil]
  | visit h _ ih => rw [preorder_next? h, ih]

theorem toList_of_none {w : Walk} (h : w.next? = none) : w.toList = [] := by
  rw [toList]
  split
  · rfl
  · rename_i h'
    exact absurd (h.symm.trans h') (by simp)

theorem toList_of_some {w w' : Walk} {n : Node} (h : w.next? = some (n, w')) :
    w.toList = n :: w'.toList := by
  rw [toList]
  split
  · rename_i h'
    exact absurd (h.symm.trans h') (by simp)
  · rename_i h'
    obtain ⟨rfl, rfl⟩ := Prod.mk.inj (Option.some.inj (h.symm.trans h'))
    rfl

/-- Every walk ends, having visited the nodes of `toList`. -/
theorem drains_toList (w : Walk) : w.Drains w.toList := by
  induction w using toList.induct with
  | case1 w h =>
    rw [toList_of_none h]
    exact .done h
  | case2 w n w' h ih =>
    rw [toList_of_some h]
    exact .visit h ih

theorem toList_eq_preorder (w : Walk) : w.toList = w.waiting.flatMap Node.preorder :=
  (drains_toList w).eq_preorder

/-- **A walk has one run**: to its end, through the preorder of the nodes that wait. -/
theorem drains_iff {w : Walk} {ns : List Node} :
    w.Drains ns ↔ ns = w.waiting.flatMap Node.preorder := by
  constructor
  · exact Drains.eq_preorder
  · rintro rfl
    rw [← toList_eq_preorder]
    exact drains_toList w

/-- The nodes a walk visits are the constructs of the nodes that wait. -/
theorem toList_perm_occurrences (w : Walk) :
    w.toList.Perm (w.waiting.flatMap Node.occurrences) := by
  induction w using toList.induct with
  | case1 w h => rw [toList_of_none h, next?_eq_none h, List.flatMap_nil]
  | case2 w n w' h ih =>
    obtain ⟨rest, hw, hw'⟩ := waiting_next? h
    rw [toList_of_some h, hw, List.flatMap_cons]
    rw [hw', List.flatMap_append] at ih
    exact (ih.cons n).trans ((n.occurrences_perm.symm).append_right _)

end Walk

theorem walk_eq_preorder (body : List Stmt) :
    walk body = (Node.ofStmts body).flatMap Node.preorder := by
  rw [walk, Walk.toList_eq_preorder, Walk.waiting_start]

theorem walk_perm_occurrences (body : List Stmt) : (walk body).Perm (occurrences body) := by
  have h := Walk.toList_perm_occurrences (Walk.start body)
  rwa [Walk.waiting_start, Node.flatMap_ofStmts] at h

theorem mem_walk_of_mem {body : List Stmt} {s : Stmt} (h : s ∈ body) : .stmt s ∈ walk body := by
  rw [walk_eq_preorder]
  exact List.mem_flatMap.mpr ⟨.stmt s, List.mem_map_of_mem h, Node.self_mem_preorder _⟩

/-- A walk that visits a node visits its children. -/
theorem mem_walk_of_child {body : List Stmt} {n child : Node} (h : n ∈ walk body)
    (hc : child ∈ n.children) : child ∈ walk body := by
  rw [walk_eq_preorder] at h ⊢
  obtain ⟨top, htop, hn⟩ := List.mem_flatMap.mp h
  exact List.mem_flatMap.mpr ⟨top, htop, Node.mem_preorder_of_child hn hc⟩

/-- **A walk visits every construct of a module once.** It ends; what it visits is each statement
followed by the preorder of its children; and up to order that is `occurrences body`, so no
construct outside match patterns is missed, visited twice or made up. -/
theorem walk_visits_each_once (body : List Stmt) :
    (∀ ns, (Walk.start body).Drains ns ↔ ns = walk body) ∧
      walk body = (Node.ofStmts body).flatMap Node.preorder ∧
      (∀ n : Node, n.preorder = n :: n.children.flatMap Node.preorder) ∧
      (walk body).Perm (occurrences body) := by
  refine ⟨fun ns => ?_, walk_eq_preorder body, Node.preorder_eq, walk_perm_occurrences body⟩
  rw [walk_eq_preorder, Walk.drains_iff, Walk.waiting_start]

end AbcMetric
