import AbcMetric.Proofs.Credits
import AbcMetric.Proofs.Traversal

/-!
# Every vector points at a node that the walk visits

Classifying a node looks ahead: a vector may be counted for a target, an operand, a test or the
first statement of an alternative, which the walk has not visited yet. The classifier takes these
out of the node by itself, without asking the walk. That they are all visited in time rests on the
order of the walk: right behind a node come the preorders of its children.

* `Walk.Drains.follows`: what comes right behind a visit, in any run of a walk.
* `Node.LooksAt.mem_after`: what a node looks at is the node, or is visited after it.
* `vectors_point_ahead`: the origin of a vector is that of such a node.
-/

namespace AbcMetric

/-! ## What comes behind a visit -/

/-- **Right behind a visit come the preorders of the children**, in any run of a walk to its end. -/
theorem Walk.Drains.follows {w : Walk} {ns : List Node} (h : w.Drains ns) :
    ∀ {before after : List Node} {n : Node}, ns = before ++ n :: after →
      n.children.flatMap Node.preorder <+: after := by
  induction h with
  | done => exact fun hns => absurd hns (by simp)
  | visit hstep hrest ih =>
    intro before after n hns
    cases before with
    | nil =>
      obtain ⟨rfl, rfl⟩ := List.cons.inj hns
      obtain ⟨rest, -, hwaiting⟩ := waiting_next? hstep
      rw [hrest.eq_preorder, hwaiting, List.flatMap_append]
      exact List.prefix_append _ _
    | cons first before => exact ih (List.cons.inj hns).2

section Walk

variable {body : List Stmt} {before after : List Node} {n m : Node}

theorem walk_follows (h : walk body = before ++ n :: after) :
    n.children.flatMap Node.preorder <+: after :=
  (Walk.drains_toList (Walk.start body)).follows h

/-- What stands anywhere under a child is visited after the node. -/
theorem mem_after_of_mem_preorder (h : walk body = before ++ n :: after) {child : Node}
    (hchild : child ∈ n.children) (hm : m ∈ child.preorder) : m ∈ after :=
  (walk_follows h).subset (List.mem_flatMap.mpr ⟨child, hchild, hm⟩)

/-- **What a node looks at is the node, or is visited after it.** -/
theorem Node.LooksAt.mem_after (h : n.LooksAt m) (hwalk : walk body = before ++ n :: after) :
    m = n ∨ (m ∈ n.children ∨ n.BindsElement m) ∧ m ∈ after := by
  rcases h with hself | hchild | helement
  · exact Or.inl hself
  · exact Or.inr ⟨Or.inl hchild, mem_after_of_mem_preorder hwalk hchild m.self_mem_preorder⟩
  · obtain ⟨tuple, htuple, hm⟩ := helement.exists_child
    refine Or.inr ⟨Or.inr helement, mem_after_of_mem_preorder hwalk htuple ?_⟩
    exact mem_preorder_of_child tuple.self_mem_preorder hm

end Walk

/-! ## Main result -/

/-- **Every vector points at a node that the walk visits.** Wherever a walk visits a node, each of
its vectors has an origin, and it is the origin of the node itself, or of a node that the walk
visits later: a child, or for an assignment to a tuple an element of the tuple. -/
theorem vectors_point_ahead (lines : LineIndex) (body : List Stmt) (before after : List Node)
    (n : Node) (h : walk body = before ++ n :: after) :
    ∃ vectors, classify lines n = .ok vectors ∧
      ∀ v ∈ vectors, ∃ m ∈ walk body, v.origin = some (m.origin lines) ∧
        (m = n ∨ (m ∈ n.children ∨ n.BindsElement m) ∧ m ∈ after) := by
  refine ⟨_, classify_eq lines n, fun v hv => ?_⟩
  obtain ⟨c, hc, rfl⟩ := List.mem_map.mp hv
  have hafter := (points_credits n c hc).looksAt.mem_after h
  refine ⟨c.node, ?_, rfl, hafter⟩
  rw [h, List.mem_append]
  refine Or.inr ?_
  rcases hafter with hself | ⟨-, hlater⟩
  · rw [hself]
    exact List.mem_cons_self
  · exact List.mem_cons_of_mem n hlater

/-- The two vectors of an assignment to a pair are for nodes that the walk visits with it. -/
theorem vectors_point_ahead_pair :
    let lines := LineIndex.ofSource "a, b = x"
    let name (start : Nat) (id : String) : Expr := .name ⟨start, start + 1⟩ id .store
    let pair : Stmt := .assign ⟨0, 8⟩ [.tuple ⟨0, 4⟩ [name 0 "a", name 3 "b"] .store]
      (.name ⟨7, 8⟩ "x" .load)
    let n := Node.stmt pair
    let after := n.children.flatMap Node.preorder
    walk [pair] = [] ++ n :: after ∧
      ∃ v w, classify lines n = .ok [v, w] ∧
        ∀ u ∈ [v, w], ∃ m ∈ walk [pair], u.origin = some (m.origin lines) ∧
          (m = n ∨ (m ∈ n.children ∨ n.BindsElement m) ∧ m ∈ after) := by
  intro lines name pair n after
  have hwalk : walk [pair] = [] ++ n :: after := by
    rw [walk_eq_preorder, Node.ofStmts, List.map_singleton, List.flatMap_singleton,
      Node.preorder_eq, List.nil_append]
  obtain ⟨vectors, hvectors, hpoint⟩ := vectors_point_ahead lines [pair] [] after n hwalk
  obtain rfl := Except.ok.inj ((classify_eq lines n).symm.trans hvectors)
  exact ⟨hwalk, _, _, hvectors, hpoint⟩

end AbcMetric
