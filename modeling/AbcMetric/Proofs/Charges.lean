import AbcMetric.Proofs.Totals

/-!
# A module counts at most two units for each node

One assignment or one chain of `and` and `or` can yield any number of vectors, and a call that is
tested counts both for itself and for its test. So the vectors of a module are not bounded node by
node. They are charged to the nodes instead: each node pays for one vector of its own and for one
that it gets from above. Only the elements of a tuple get theirs from two levels up, from the
statement that assigns to the tuple, so a tuple has to pass a larger allowance on.

* `Node.allowance` is what a node may get from above.
* `length_credits_add_allowance_le`: the credits of one node and its allowance are paid for by the
  node, with two, and by the allowances of its children.
* `length_credits_preorder_le`: so the credits at a node and below it are at most two for each node.
* `tally_fits_two_per_node`: a module counts at most two units for each node, and a module of fewer
  than `2 ^ 31` nodes is tallied without overflow.
-/

namespace AbcMetric

/-! ## Allowances -/

/-- How many credits a node may get from above: one, or one for each element of a tuple. -/
def Node.allowance : Node → Nat
  | .expr (.tuple _ elts _) => max 1 elts.length
  | _ => 1

/-- The allowances of nodes together. -/
def allowances (ns : List Node) : Nat := (ns.map Node.allowance).sum

@[simp]
theorem allowances_cons (n : Node) (ns : List Node) :
    allowances (n :: ns) = n.allowance + allowances ns := by
  simp [allowances]

@[simp]
theorem allowances_append (ns ms : List Node) :
    allowances (ns ++ ms) = allowances ns + allowances ms := by
  simp [allowances]

theorem Node.one_le_allowance (n : Node) : 1 ≤ n.allowance := by
  unfold allowance
  split
  · exact Nat.le_max_left _ _
  · exact Nat.le_refl _

theorem length_le_allowances (ns : List Node) : ns.length ≤ allowances ns := by
  induction ns with
  | nil => exact Nat.le_refl _
  | cons n ns ih =>
    have := n.one_le_allowance
    rw [List.length_cons, allowances_cons]
    omega

theorem Expr.targetCount_le_allowance (e : Expr) : e.targetCount ≤ (Node.expr e).allowance := by
  cases e with
  | tuple span elts usage => exact Nat.le_max_right _ _
  | _ => exact Nat.le_refl _

theorem sum_targetCount_le (targets : List Expr) :
    (targets.map Expr.targetCount).sum ≤ allowances (Node.ofExprs targets) := by
  induction targets with
  | nil => exact Nat.le_refl _
  | cons target targets ih =>
    have := target.targetCount_le_allowance
    rw [List.map_cons, List.sum_cons, Node.ofExprs, List.map_cons, allowances_cons]
    exact Nat.add_le_add this ih

/-! ## One node -/

theorem length_conditionalCredits_le (owner : Node) (test : Expr) (first : Option Node) :
    (conditionalCredits owner test first).length ≤ 2 := by
  unfold conditionalCredits
  split <;> simp

theorem length_credits_stmt_le (s : Stmt) :
    s.credits.length ≤ 1 + allowances (Node.ofStmt s) := by
  cases s with
  | assign span targets value =>
    have htargets := sum_targetCount_le targets
    simp only [Stmt.credits, Node.ofStmt, List.length_map, length_flatMap_boundTargets,
      allowances_append]
    omega
  | ifElse span test body orelse =>
    have hcredits := length_conditionalCredits_le
      (.stmt (.ifElse span test body orelse)) test (firstOf orelse)
    have hchildren := length_le_allowances (Node.ofStmt (.ifElse span test body orelse))
    simp only [Stmt.credits, Node.ofStmt, List.cons_append, List.length_cons] at hchildren ⊢
    omega
  | forLoop span isAsync target iter body orelse => cases isAsync <;> exact Nat.le_add_right 1 _
  | tryBlock span isStar body handlers orelse final =>
    cases isStar <;> exact Nat.le_add_right 1 _
  | assertTest span test msg => cases test <;> exact Nat.le_add_right 1 _
  | _ => exact Nat.le_add_right 1 _

theorem length_credits_boolOp_le (span : Span) (op : BoolOperator) (values : List Expr) :
    (Expr.boolOp span op values).credits.length ≤ 1 + values.length := by
  have hfilter := List.length_filter_le (fun v : Expr => !v.countsItself) values
  simp only [Expr.credits]
  split
  · exact Nat.le_add_right 1 _
  · rw [List.length_map]
    omega

theorem length_credits_expr_le (e : Expr) :
    e.credits.length + (Node.expr e).allowance ≤ 2 + allowances (Node.ofExpr e) := by
  cases e with
  | boolOp span op values =>
    have hcredits := length_credits_boolOp_le span op values
    have hchildren := length_le_allowances (Node.ofExprs values)
    rw [Node.ofExprs, List.length_map] at hchildren
    simp only [Node.ofExpr, Node.ofExprs, Node.allowance]
    omega
  | ifExp span test body orelse =>
    have hcredits := length_conditionalCredits_le
      (.expr (.ifExp span test body orelse)) test (some (.expr orelse))
    have hchildren := length_le_allowances (Node.ofExpr (.ifExp span test body orelse))
    have hallowance : (Node.expr (.ifExp span test body orelse)).allowance = 1 := rfl
    simp only [Expr.credits, Node.ofExpr, List.length_cons] at hchildren ⊢
    omega
  | tuple span elts usage =>
    -- the elements pass on what the tuple may get
    have hchildren := length_le_allowances (Node.ofExprs elts)
    rw [Node.ofExprs, List.length_map] at hchildren
    simp only [Expr.credits, Node.ofExpr, Node.ofExprs, Node.allowance, List.length_singleton]
    omega
  | _ => exact Nat.le_add_right 2 _

/-- **The charge of one node.** Its credits and its allowance are covered by two and by the
allowances of its children. -/
theorem length_credits_add_allowance_le (n : Node) :
    n.credits.length + n.allowance ≤ 2 + allowances n.children := by
  cases n with
  | stmt s =>
    have := length_credits_stmt_le s
    simp only [Node.credits, Node.children, Node.allowance]
    omega
  | expr e => exact length_credits_expr_le e
  | _ => exact Nat.le_add_right 2 _

/-! ## All nodes -/

/-- The charges of trees that stand side by side. -/
theorem length_credits_forest_le (ns : List Node)
    (h : ∀ n ∈ ns,
      (n.preorder.flatMap Node.credits).length + n.allowance ≤ 2 * n.preorder.length) :
    ((ns.flatMap Node.preorder).flatMap Node.credits).length + allowances ns ≤
      2 * (ns.flatMap Node.preorder).length := by
  induction ns with
  | nil => exact Nat.le_refl _
  | cons n ns ih =>
    obtain ⟨hn, hns⟩ := List.forall_mem_cons.mp h
    have hrest := ih hns
    simp only [List.flatMap_cons, List.flatMap_append, List.length_append, allowances_cons]
    omega

/-- **The charge of a tree.** The credits at a node and below it leave the allowance of the node
over from two for each node. -/
theorem length_credits_preorder_le (n : Node) :
    (n.preorder.flatMap Node.credits).length + n.allowance ≤ 2 * n.preorder.length := by
  induction n using Node.preorder.induct with
  | case1 n ih =>
    have hnode := length_credits_add_allowance_le n
    have hbelow := length_credits_forest_le n.children fun child hchild =>
      ih ⟨child, hchild⟩
    rw [Node.preorder_eq, List.flatMap_cons, List.length_append, List.length_cons]
    omega

theorem length_moduleCredits_le (body : List Stmt) :
    (moduleCredits body).length ≤ 2 * (walk body).length := by
  have h := length_credits_forest_le (Node.ofStmts body) fun n _ =>
    length_credits_preorder_le n
  rw [moduleCredits, walk_eq_preorder]
  omega

/-! ## Counting units -/

/-- A credit that counts something counts one unit. -/
theorem Credit.size_counters (c : Credit) :
    c.counters.size = if c.counters.isNonzero then 1 else 0 := by
  cases c <;> rfl

/-- The credits that count something are as many as the units counted. -/
theorem countP_counters (cs : List Credit) :
    cs.countP (·.counters.isNonzero) =
      creditSum .assignment cs + creditSum .branch cs + creditSum .condition cs := by
  induction cs with
  | nil => rfl
  | cons c cs ih =>
    rw [List.countP_cons, ih, ← c.size_counters]
    simp only [AbcVector.size, creditSum, List.map_cons, List.sum_cons]
    omega

/-- **The units of a module are those of its credits that count something.** -/
theorem countP_moduleCredits (body : List Stmt) :
    (moduleCredits body).countP (·.counters.isNonzero) =
      assignmentCount (occurrences body) + branchCount (occurrences body) +
        conditionCount (occurrences body) := by
  rw [countP_counters]
  simp only [creditSum_moduleCredits]
  rfl

/-- **The units of a module are at most two for each node.** -/
theorem unitCount_le (body : List Stmt) :
    assignmentCount (occurrences body) + branchCount (occurrences body) +
      conditionCount (occurrences body) ≤ 2 * (walk body).length := by
  rw [← countP_moduleCredits]
  exact Nat.le_trans List.countP_le_length (length_moduleCredits_le body)

/-- Fewer than half as many nodes as a counter has values count what fits. -/
theorem constructCount_lt_of_length {body : List Stmt} (h : (walk body).length < 2 ^ 31)
    (k : Counter) : constructCount k (occurrences body) < UInt32.size := by
  have hle := unitCount_le body
  have hsize : UInt32.size = 2 * 2 ^ 31 := rfl
  cases k with
  | assignment => show assignmentCount _ < _; omega
  | branch => show branchCount _ < _; omega
  | condition => show conditionCount _ < _; omega

/-! ## The vectors of a module -/

theorem countP_contributions (lines : LineIndex) (body : List Stmt) :
    (contributions lines body).countP AbcVector.isNonzero =
      assignmentCount (occurrences body) + branchCount (occurrences body) +
        conditionCount (occurrences body) := by
  rw [contributions, List.countP_map, ← countP_moduleCredits]
  rfl

/-- **Every node of a module is classified**, and its vectors one after the other are the
contributions of the module. -/
theorem mapM_classify_walk (lines : LineIndex) (body : List Stmt) :
    ∃ vectors, (walk body).mapM (classify lines) = .ok vectors ∧
      vectors.flatten = contributions lines body := by
  refine ⟨(walk body).map fun n => n.credits.map (Credit.vector lines), ?_, ?_⟩
  · rw [funext (classify_eq lines)]
    exact List.mapM_pure
  · rw [contributions, moduleCredits, List.map_flatMap, List.flatMap_def]

/-- No part of a run over contributions that fit overflows. -/
theorem absorbAll_take_ok {lines : LineIndex} {body : List Stmt}
    (h : ∀ k, constructCount k (occurrences body) < UInt32.size) (i : Nat) :
    ∃ t, Tally.empty.absorbAll ((contributions lines body).take i) = .ok t := by
  have hfit : ∀ k, AbcVector.placedSum k ((contributions lines body).take i) < UInt32.size := by
    intro k
    have hle := Tally.placedSum_take_le k (contributions lines body) i
    rw [placedSum_contributions, creditSum_moduleCredits] at hle
    exact Nat.lt_of_le_of_lt hle (h k)
  obtain ⟨t, ht, -⟩ := Tally.absorbAll_empty_ok
    (fun v hv => size_lt_of_mem_credits v (List.mem_of_mem_take hv)) hfit
  exact ⟨t, ht⟩

/-- **A module counts at most two units for each node.** Each vector that counts something counts
one unit, so there are as many as the exact counts of the module together, and at most two for each
node. No vector has too many letters, and a module of fewer than `2 ^ 31` nodes is tallied: no
running total on the way overflows. -/
theorem tally_fits_two_per_node (lines : LineIndex) (body : List Stmt) :
    ∃ vectors, (walk body).mapM (classify lines) = .ok vectors ∧
      (∀ k, (vectors.flatten.map (·.count k)).sum = constructCount k (occurrences body)) ∧
      vectors.flatten.countP AbcVector.isNonzero =
        assignmentCount (occurrences body) + branchCount (occurrences body) +
          conditionCount (occurrences body) ∧
      vectors.flatten.countP AbcVector.isNonzero ≤ 2 * (walk body).length ∧
      (∀ v ∈ vectors.flatten, ∃ text, v.letters = .ok text) ∧
      ((walk body).length < 2 ^ 31 →
        (∀ i, ∃ t, Tally.empty.absorbAll (vectors.flatten.take i) = .ok t) ∧
          ∃ t, tally lines body = .ok t ∧
            ∀ k, t.total.count k = constructCount k (occurrences body)) := by
  obtain ⟨vectors, hvectors, hflat⟩ := mapM_classify_walk lines body
  refine ⟨vectors, hvectors, ?_⟩
  rw [hflat, countP_contributions]
  refine ⟨fun k => ?_, rfl, unitCount_le body,
    fun v hv => ⟨_, AbcVector.letters_ok (size_lt_of_mem_credits v hv)⟩, fun hnodes => ?_⟩
  · rw [contributions, sum_count_vector, creditSum_moduleCredits]
  · have hfit := constructCount_lt_of_length hnodes
    obtain ⟨t, ht, -, htotal⟩ := tally_ok_of_count lines hfit
    exact ⟨absorbAll_take_ok hfit, t, ht, htotal⟩

/-- Two calls assigned to a pair: nine nodes and four units. -/
theorem tally_fits_two_per_node_pair :
    let lines := LineIndex.ofSource "a, b = f(), f()"
    let call (start : Nat) : Expr :=
      .call ⟨start, start + 3⟩ (.name ⟨start, start + 1⟩ "f" .load) [] []
    let pair : Expr := .tuple ⟨0, 4⟩ [.name ⟨0, 1⟩ "a" .store, .name ⟨3, 4⟩ "b" .store] .store
    let body : List Stmt := [.assign ⟨0, 15⟩ [pair] (.tuple ⟨7, 15⟩ [call 7, call 12] .load)]
    (∃ vectors, (walk body).mapM (classify lines) = .ok vectors ∧
      ∃ v ∈ vectors.flatten, v.isNonzero = true ∧ ∃ text, v.letters = .ok text) ∧
      ∃ t, tally lines body = .ok t ∧ t.total.count .assignment = 2 ∧ t.total.count .branch = 2 := by
  intro lines call pair body
  obtain ⟨vectors, hvectors, -, hcount, -, hletters, hok⟩ := tally_fits_two_per_node lines body
  have hpos : 0 < vectors.flatten.countP AbcVector.isNonzero := by
    rw [hcount]
    decide
  obtain ⟨v, hv, hnonzero⟩ := List.countP_pos_iff.mp hpos
  have hnodes : (walk body).length < 2 ^ 31 := by
    rw [(walk_perm_occurrences body).length_eq]
    decide
  obtain ⟨-, t, ht, htotal⟩ := hok hnodes
  refine ⟨⟨vectors, hvectors, v, hv, hnonzero, hletters v hv⟩, t, ht, ?_, ?_⟩
  · rw [htotal]
    decide
  · rw [htotal]
    decide

end AbcMetric
