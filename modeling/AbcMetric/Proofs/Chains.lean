import AbcMetric.Proofs.Totals
import Mathlib.Data.List.Perm.Basic

/-!
# Every operand of `and` and `or` is counted once

Chains of `and` and `or` nest. The leaves of a chain are the operands reached through directly
nested chains only. Three rules share the counting: a chain counts its operands that are neither
chains nor comparisons, a comparison counts itself, and an `if` leaves a test that is a chain to the
chain.

* `Expr.leaves` lists the leaves of a chain, each with the chain that holds it; `Leaf.counter` is
  the node that has to count it.
* `Expr.chainNodes` lists the nodes that share the counting: the nested chains and the comparisons
  among the leaves.
* `countedBy` lists what nodes count, each vector with the node that yields it.
* `units_operandNodes_perm` carries the proof: what the nodes among some operands count, together
  with what the holder counts of the operands, is one condition for each leaf.
* `chain_counts_each_leaf`: the nodes of a chain count each leaf once, at its counter, and nothing
  else; an `if` with the chain as its test adds nothing for it.
-/

namespace AbcMetric

/-! ## Chains and their leaves -/

/-- An operand that is no chain itself, and the chain that holds it directly. -/
structure Leaf where
  holder : Expr
  operand : Expr

/-- The node that counts a leaf: a comparison counts itself, any other operand is counted by its
holder. -/
def Leaf.counter (leaf : Leaf) : Node :=
  if leaf.operand.isCompare then .expr leaf.operand else .expr leaf.holder

/-- The first expression is a chain and the second one of its operands. -/
def Expr.Holds (holder operand : Expr) : Prop :=
  ∃ span op values, holder = .boolOp span op values ∧ operand ∈ values

/-- The operand stands directly in its holder and is no chain. -/
def Leaf.Held (leaf : Leaf) : Prop :=
  leaf.operand.isBoolOp = false ∧ leaf.holder.Holds leaf.operand

mutual

/-- The leaves at an operand of a holder: those of a nested chain, or the operand itself. -/
def Expr.leavesAt : Expr → Expr → List Leaf
  | _, e@(.boolOp _ _ values) => e.leavesAmong values
  | holder, e => [⟨holder, e⟩]

/-- The leaves among operands of a holder. -/
def Expr.leavesAmong : Expr → List Expr → List Leaf
  | _, [] => []
  | holder, e :: rest => holder.leavesAt e ++ holder.leavesAmong rest

end

/-- The leaves of a chain. -/
def Expr.leaves : Expr → List Leaf
  | e@(.boolOp _ _ values) => e.leavesAmong values
  | _ => []

mutual

/-- A chain with the chains nested in it and the comparisons among its leaves; a comparison by
itself; nothing of any other expression. -/
def Expr.chainNodes : Expr → List Node
  | e@(.boolOp _ _ values) => .expr e :: operandNodes values
  | e@(.compare ..) => [.expr e]
  | _ => []

/-- The chains and comparisons among operands. -/
def operandNodes : List Expr → List Node
  | [] => []
  | e :: rest => e.chainNodes ++ operandNodes rest

end

theorem Expr.isBoolOp_eq_false {e : Expr}
    (h : ∀ span op values, e = .boolOp span op values → False) : e.isBoolOp = false := by
  cases e with
  | boolOp span op values => exact absurd rfl (h span op values)
  | _ => rfl

theorem Expr.leavesAt_of_not_chain {e : Expr} (h : e.isBoolOp = false) (holder : Expr) :
    holder.leavesAt e = [⟨holder, e⟩] := by
  cases e with
  | boolOp => exact absurd h (by simp [isBoolOp])
  | _ => rfl

/-- Whatever operands are taken from a chain, their leaves are held. -/
theorem Expr.held_of_mem_leavesAmong (holder : Expr) (values : List Expr) :
    (∀ e ∈ values, holder.Holds e) → ∀ leaf ∈ holder.leavesAmong values, leaf.Held := by
  induction holder, values using Expr.leavesAmong.induct
    (fun holder e => holder.Holds e → ∀ leaf ∈ holder.leavesAt e, leaf.Held) with
  | case1 holder span op values ih _ leaf hleaf =>
    -- a nested chain is the holder of its own operands
    exact ih (fun e he => ⟨span, op, values, rfl, he⟩) leaf hleaf
  | case2 holder e hchain hholds leaf hleaf =>
    have hnot := isBoolOp_eq_false hchain
    rw [leavesAt_of_not_chain hnot] at hleaf
    obtain rfl := List.mem_singleton.mp hleaf
    exact ⟨hnot, hholds⟩
  | case3 holder => exact fun _ leaf hleaf => absurd hleaf List.not_mem_nil
  | case4 holder e rest ihe ihrest =>
    intro hholds leaf hleaf
    obtain ⟨he, hrest⟩ := List.forall_mem_cons.mp hholds
    rcases List.mem_append.mp hleaf with hleaf | hleaf
    · exact ihe he leaf hleaf
    · exact ihrest hrest leaf hleaf

/-- **Every leaf stands directly in its holder**, and no leaf is a chain. -/
theorem Expr.held_of_mem_leaves (span : Span) (op : BoolOperator) (values : List Expr) :
    ∀ leaf ∈ (Expr.boolOp span op values).leaves, leaf.Held :=
  held_of_mem_leavesAmong _ values fun _ he => ⟨span, op, values, rfl, he⟩

theorem operandNodes_sublist_preorder (values : List Expr) :
    (operandNodes values).Sublist ((Node.ofExprs values).flatMap Node.preorder) := by
  induction values using operandNodes.induct
    (fun e => e.chainNodes.Sublist (Node.expr e).preorder) with
  | case1 span op values ih =>
    rw [Node.preorder_eq]
    exact ih.cons_cons _
  | case2 span left links => exact List.singleton_sublist.mpr (Node.self_mem_preorder _)
  | case3 e hchain hcompare =>
    cases e with
    | boolOp span op values => exact absurd rfl (hchain span op values)
    | compare span left links => exact absurd rfl (hcompare span left links)
    | _ => exact List.nil_sublist _
  | case4 => exact List.nil_sublist _
  | case5 e rest ihe ihrest =>
    rw [operandNodes, Node.ofExprs, List.map_cons, List.flatMap_cons]
    exact ihe.append ihrest

/-- **The nodes of a chain are visited with it**, in their order. -/
theorem chainNodes_sublist_preorder (e : Expr) :
    e.chainNodes.Sublist (Node.expr e).preorder := by
  have h := operandNodes_sublist_preorder [e]
  rw [operandNodes, operandNodes, List.append_nil, Node.ofExprs, List.map_singleton,
    List.flatMap_singleton] at h
  exact h

/-! ## What nodes count -/

/-- One condition counted for an expression, on the line where it starts. -/
def conditionOf (lines : LineIndex) (e : Expr) : AbcVector :=
  conditionAt lines (.expr e) (lines.lineOf e.span.start)

/-- The vectors of nodes that count something, each with the node that yields it. -/
def countedBy (lines : LineIndex) (ns : List Node) :
    Except CountFault (List (Node × AbcVector)) := do
  let found ← ns.mapM fun n => return ((← classify lines n).filter AbcVector.isNonzero).map (n, ·)
  return found.flatten

/-- What one node counts. -/
def Node.units (lines : LineIndex) (n : Node) : List (Node × AbcVector) :=
  ((n.credits.map (Credit.vector lines)).filter AbcVector.isNonzero).map (n, ·)

theorem countedBy_eq (lines : LineIndex) (ns : List Node) :
    countedBy lines ns = .ok (ns.flatMap (Node.units lines)) := by
  have hall : ns.mapM (fun n => return ((← classify lines n).filter AbcVector.isNonzero).map (n, ·))
      = .ok (ns.map (Node.units lines)) := by
    simp only [classify_eq]
    exact List.mapM_pure
  rw [countedBy, hall, List.flatMap_def]
  rfl

/-- What a holder counts of operands. -/
def heldUnits (lines : LineIndex) (holder : Expr) (values : List Expr) : List (Node × AbcVector) :=
  (values.filter (!·.countsItself)).map fun v => (.expr holder, conditionOf lines v)

theorem heldUnits_cons (lines : LineIndex) (holder e : Expr) (rest : List Expr) :
    heldUnits lines holder (e :: rest) =
      heldUnits lines holder [e] ++ heldUnits lines holder rest := by
  rw [heldUnits, ← List.singleton_append, List.filter_append, List.map_append]
  rfl

theorem units_boolOp (lines : LineIndex) (span : Span) (op : BoolOperator) (values : List Expr) :
    (Node.expr (.boolOp span op values)).units lines =
      heldUnits lines (.boolOp span op values) values := by
  unfold Node.units heldUnits
  simp only [Node.credits, Expr.credits]
  split
  · rename_i hnone
    rw [hnone]
    rfl
  · rw [List.filter_eq_self.mpr]
    · rw [List.map_map, List.map_map]
      rfl
    · intro v hv
      rw [List.map_map] at hv
      obtain ⟨operand, -, rfl⟩ := List.mem_map.mp hv
      rfl

/-! ## Each leaf once -/

/-- What counts a leaf and what it counts. -/
def Leaf.unit (lines : LineIndex) (leaf : Leaf) : Node × AbcVector :=
  (leaf.counter, conditionOf lines leaf.operand)

/-- An operand that is no chain is counted once, by itself or by its holder. -/
theorem units_operand (lines : LineIndex) (holder : Expr) {e : Expr} (h : e.isBoolOp = false) :
    e.chainNodes.flatMap (Node.units lines) ++ heldUnits lines holder [e] =
      [Leaf.unit lines ⟨holder, e⟩] := by
  cases e with
  | boolOp => exact absurd h (by simp [Expr.isBoolOp])
  | _ => rfl

/-- **Each leaf is counted once at its counter.** Of the leaves below the operands of a holder, the
chains and comparisons among the operands count all but those that the holder has to count. -/
theorem units_operandNodes_perm (lines : LineIndex) (holder : Expr) (values : List Expr) :
    ((operandNodes values).flatMap (Node.units lines) ++ heldUnits lines holder values).Perm
      ((holder.leavesAmong values).map (Leaf.unit lines)) := by
  induction holder, values using Expr.leavesAmong.induct
    (fun holder e =>
      (e.chainNodes.flatMap (Node.units lines) ++ heldUnits lines holder [e]).Perm
        ((holder.leavesAt e).map (Leaf.unit lines))) with
  | case1 holder span op values ih =>
    have hnodes : (Expr.boolOp span op values).chainNodes =
        .expr (.boolOp span op values) :: operandNodes values := rfl
    have hheld : heldUnits lines holder [.boolOp span op values] = [] := rfl
    rw [hnodes, hheld, List.append_nil, List.flatMap_cons, units_boolOp]
    exact List.perm_append_comm.trans ih
  | case2 holder e hchain =>
    have hnot := Expr.isBoolOp_eq_false hchain
    rw [Expr.leavesAt_of_not_chain hnot, units_operand lines holder hnot]
    exact List.Perm.refl _
  | case3 holder => exact List.Perm.refl _
  | case4 holder e rest ihe ihrest =>
    rw [operandNodes, Expr.leavesAmong, List.flatMap_append, List.map_append, heldUnits_cons]
    -- the holder's share of the first operand moves past what the others count
    have hswap : (e.chainNodes.flatMap (Node.units lines) ++
          (operandNodes rest).flatMap (Node.units lines) ++
          (heldUnits lines holder [e] ++ heldUnits lines holder rest)).Perm
        (e.chainNodes.flatMap (Node.units lines) ++ heldUnits lines holder [e] ++
          ((operandNodes rest).flatMap (Node.units lines) ++ heldUnits lines holder rest)) := by
      rw [List.append_assoc, List.append_assoc]
      exact (List.perm_append_comm_assoc _ _ _).append_left _
    exact hswap.trans (ihe.append ihrest)

/-- The nodes of a chain count one condition for each leaf, at its counter. -/
theorem units_chainNodes_perm (lines : LineIndex) (span : Span) (op : BoolOperator)
    (values : List Expr) :
    ((Expr.boolOp span op values).chainNodes.flatMap (Node.units lines)).Perm
      ((Expr.boolOp span op values).leaves.map (Leaf.unit lines)) := by
  -- as an operand the chain is left alone by any holder
  have h := units_operandNodes_perm lines (.boolOp span op values) [.boolOp span op values]
  have hheld : heldUnits lines (.boolOp span op values) [.boolOp span op values] = [] := rfl
  rw [hheld, List.append_nil, operandNodes, operandNodes, List.append_nil, Expr.leavesAmong,
    Expr.leavesAmong, List.append_nil] at h
  exact h

/-- **Each leaf of a chain is counted once.** What the nodes of a chain count is one condition for
each leaf, and nothing else: by the comparison that the leaf is, or by the chain that holds it
directly. No leaf is a chain. The nodes of the chain are visited with it. An `if` or a conditional
expression with the chain as its test counts its alternative and nothing for the test. -/
theorem chain_counts_each_leaf (lines : LineIndex) (span : Span) (op : BoolOperator)
    (values : List Expr) :
    let chain : Expr := .boolOp span op values
    (∃ found, countedBy lines chain.chainNodes = .ok found ∧
      found.Perm (chain.leaves.map fun leaf =>
        (leaf.counter, conditionOf lines leaf.operand))) ∧
      (∀ leaf ∈ chain.leaves, leaf.Held) ∧
      chain.chainNodes.Sublist (Node.expr chain).preorder ∧
      (∀ place body orelse, ∃ found,
        countedBy lines [.stmt (.ifElse place chain body orelse)] = .ok found ∧
          found.map (·.2.origin) =
            orelse.head?.toList.map fun first => some ((Node.stmt first).origin lines)) ∧
      ∀ place body orelse, ∃ found,
        countedBy lines [.expr (.ifExp place chain body orelse)] = .ok found ∧
          found.map (·.2.origin) = [some ((Node.expr orelse).origin lines)] := by
  intro chain
  refine ⟨⟨_, countedBy_eq lines _, units_chainNodes_perm lines span op values⟩,
    Expr.held_of_mem_leaves span op values, chainNodes_sublist_preorder chain,
    fun place body orelse => ?_, fun place body orelse => ⟨_, countedBy_eq lines _, rfl⟩⟩
  · refine ⟨_, countedBy_eq lines _, ?_⟩
    cases orelse with
    | nil => rfl
    | cons first rest => rfl

/-- A name, and a comparison and a name in a nested chain. -/
theorem chain_counts_each_leaf_nested :
    let name (start : Nat) : Expr := .name ⟨start, start + 1⟩ "x" .load
    let nested : Expr := .boolOp ⟨7, 17⟩ .or [.compare ⟨7, 12⟩ (name 7) [⟨.lt, name 11⟩], name 16]
    let chain : Expr := .boolOp ⟨0, 18⟩ .and [name 0, nested]
    (∃ found, countedBy (.ofSource "x and (x < x or x)") chain.chainNodes = .ok found ∧
      found.length = 3) ∧ Leaf.Held ⟨nested, name 16⟩ := by
  intro name nested chain
  obtain ⟨⟨found, hfound, hperm⟩, hheld, -⟩ :=
    chain_counts_each_leaf (.ofSource "x and (x < x or x)") ⟨0, 18⟩ .and [name 0, nested]
  refine ⟨⟨found, hfound, hperm.length_eq⟩, hheld ⟨nested, name 16⟩ ?_⟩
  exact List.mem_cons_of_mem _ (List.mem_cons_of_mem _ List.mem_cons_self)

end AbcMetric
