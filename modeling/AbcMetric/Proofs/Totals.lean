import AbcMetric.Proofs.Contributions
import AbcMetric.Syntax.Dump

/-!
# The total of a module is a count of its constructs

What a module counts can be read off its syntax tree, with no regard to places, walks or folds:
`assignmentCount`, `branchCount` and `conditionCount` count the constructs listed by `occurrences`.

* `creditSum_node`: the credits of a node are its counts. `creditSum_moduleCredits`: so are those of
  a module, in whatever order its nodes are visited.
* `tally_ok_of_count`, `tally_overflow_of_count`: a module is tallied iff its counts fit.
* `tally_total`: the total of a module is the three counts of its constructs, and the tally overflows
  iff one of them does not fit.
-/

namespace AbcMetric

/-! ## Counting constructs -/

/-- A chain of `and` or `or`. -/
def Expr.isBoolOp : Expr → Bool
  | .boolOp .. => true
  | _ => false

/-- A chain of comparisons. -/
def Expr.isCompare : Expr → Bool
  | .compare .. => true
  | _ => false

/-- A literal. -/
def Expr.isConstant : Expr → Bool
  | .constant .. => true
  | _ => false

/-- How many assignments a target is: one for each direct element of a tuple, else one. -/
def Expr.targetCount : Expr → Nat
  | .tuple _ elts _ => elts.length
  | _ => 1

namespace Node

/-- The assignments to the targets of an assignment statement. -/
def targetCount : Node → Nat
  | .stmt (.assign _ targets _) => (targets.map Expr.targetCount).sum
  | _ => 0

/-- An augmented assignment. -/
def isAugAssign : Node → Bool
  | .stmt (.augAssign ..) => true
  | _ => false

/-- An annotated assignment. -/
def isAnnAssign : Node → Bool
  | .stmt (.annAssign ..) => true
  | _ => false

/-- A call. -/
def isCall : Node → Bool
  | .expr (.call ..) => true
  | _ => false

/-- A chain of comparisons. -/
def isCompare : Node → Bool
  | .expr e => e.isCompare
  | _ => false

/-- An `except` clause. -/
def isHandler : Node → Bool
  | .handler _ => true
  | _ => false

/-- The operands of a chain of `and` or `or` that are neither such a chain nor a comparison. -/
def operandCount : Node → Nat
  | .expr (.boolOp _ _ values) => values.countP fun v => !(v.isBoolOp || v.isCompare)
  | _ => 0

/-- An `if` or a conditional expression whose test is no chain, comparison or literal. -/
def testsValue : Node → Bool
  | .stmt (.ifElse _ test _ _) | .expr (.ifExp _ test _ _) =>
    !(test.isBoolOp || test.isCompare || test.isConstant)
  | _ => false

/-- An `if`, `for`, `while` or `try` with an `else`; the `async for` and the `try` with `except*`
do not count. -/
def hasElse : Node → Bool
  | .stmt (.ifElse _ _ _ orelse) | .stmt (.forLoop _ false _ _ _ orelse)
  | .stmt (.whileLoop _ _ _ orelse) | .stmt (.tryBlock _ false _ _ orelse _) => !orelse.isEmpty
  | _ => false

/-- A conditional expression. -/
def isIfExp : Node → Bool
  | .expr (.ifExp ..) => true
  | _ => false

/-- An assertion of a bare name. -/
def assertsName : Node → Bool
  | .stmt (.assertTest _ test _) => test.isName
  | _ => false

end Node

/-- The assignments among the nodes. -/
def assignmentCount (ns : List Node) : Nat :=
  (ns.map Node.targetCount).sum + ns.countP Node.isAugAssign + ns.countP Node.isAnnAssign

/-- The branches among the nodes. -/
def branchCount (ns : List Node) : Nat := ns.countP Node.isCall

/-- The conditions among the nodes. -/
def conditionCount (ns : List Node) : Nat :=
  ns.countP Node.isCompare + ns.countP Node.isHandler + (ns.map Node.operandCount).sum +
    ns.countP Node.testsValue + ns.countP Node.hasElse + ns.countP Node.isIfExp +
    ns.countP Node.assertsName

/-- What the nodes count for one counter. -/
def constructCount : Counter → List Node → Nat
  | .assignment => assignmentCount
  | .branch => branchCount
  | .condition => conditionCount

theorem constructCount_cons (k : Counter) (n : Node) (ns : List Node) :
    constructCount k (n :: ns) = constructCount k [n] + constructCount k ns := by
  cases k with
  | assignment =>
    simp only [constructCount, assignmentCount, List.map_cons, List.sum_cons, List.countP_cons,
      List.map_nil, List.sum_nil, List.countP_nil]
    omega
  | branch =>
    simp only [constructCount, branchCount, List.countP_cons, List.countP_nil]
    omega
  | condition =>
    simp only [constructCount, conditionCount, List.map_cons, List.sum_cons, List.countP_cons,
      List.map_nil, List.sum_nil, List.countP_nil]
    omega

/-- The counts do not depend on the order of the nodes. -/
theorem constructCount_perm {ns ms : List Node} (k : Counter) (h : ns.Perm ms) :
    constructCount k ns = constructCount k ms := by
  cases k with
  | assignment =>
    simp only [constructCount, assignmentCount, h.countP_eq, (h.map _).sum_nat]
  | branch => simp only [constructCount, branchCount, h.countP_eq]
  | condition => simp only [constructCount, conditionCount, h.countP_eq, (h.map _).sum_nat]

/-! ## The credits of a node are its counts -/

theorem creditSum_append (k : Counter) (cs ds : List Credit) :
    creditSum k (cs ++ ds) = creditSum k cs + creditSum k ds := by
  simp [creditSum]

theorem length_boundTargets (e : Expr) : e.boundTargets.length = e.targetCount := by
  cases e <;> rfl

theorem length_flatMap_boundTargets (targets : List Expr) :
    (targets.flatMap Expr.boundTargets).length = (targets.map Expr.targetCount).sum := by
  simp only [List.length_flatMap, length_boundTargets]

theorem isSettledTest_eq (e : Expr) :
    e.isSettledTest = (e.isBoolOp || e.isCompare || e.isConstant) := by
  cases e <;> rfl

theorem countsItself_eq (e : Expr) : e.countsItself = (e.isBoolOp || e.isCompare) := by
  cases e <;> rfl

/-- Credits of one kind count their number. -/
theorem creditSum_map {f : Expr → Credit} {m : Nat} (k : Counter)
    (hf : ∀ e, (f e).counters.count k = m) (es : List Expr) :
    creditSum k (es.map f) = es.length * m := by
  induction es with
  | nil => simp [creditSum]
  | cons e es ih =>
    rw [List.map_cons, ← List.singleton_append, creditSum_append, ih, List.length_cons,
      Nat.succ_mul, Nat.add_comm]
    simp [creditSum, hf]

theorem creditSum_targets (k : Counter) (targets : List Expr) :
    creditSum k ((targets.flatMap Expr.boundTargets).map fun t => .assignment (.expr t)) =
      if k = .assignment then (targets.map Expr.targetCount).sum else 0 := by
  cases k with
  | assignment =>
    rw [creditSum_map (m := 1) _ (fun _ => rfl), length_flatMap_boundTargets, Nat.mul_one]
    rfl
  | branch => rw [creditSum_map (m := 0) _ (fun _ => rfl), Nat.mul_zero]; rfl
  | condition => rw [creditSum_map (m := 0) _ (fun _ => rfl), Nat.mul_zero]; rfl

/-- A tested value and its alternative. -/
theorem creditSum_conditional (k : Counter) (owner : Node) (test : Expr) (first : Option Node) :
    creditSum k (conditionalCredits owner test first) =
      if k = .condition then
        (if test.isBoolOp || test.isCompare || test.isConstant then 0 else 1) +
          (if first.isSome then 1 else 0)
      else 0 := by
  unfold conditionalCredits
  rw [isSettledTest_eq]
  split <;> cases first <;> cases k <;> rfl

theorem creditSum_operands (k : Counter) (span : Span) (op : BoolOperator) (values : List Expr) :
    creditSum k (Expr.boolOp span op values).credits =
      if k = .condition then values.countP fun v => !(v.isBoolOp || v.isCompare) else 0 := by
  have hcount : (values.filter (!·.countsItself)).length =
      values.countP fun v => !(v.isBoolOp || v.isCompare) := by
    simp only [List.countP_eq_length_filter, countsItself_eq]
  simp only [Expr.credits]
  rw [← hcount]
  cases values.filter (!·.countsItself) with
  | nil => cases k <;> rfl
  | cons v vs =>
    cases k with
    | condition => rw [creditSum_map (m := 1) _ (fun _ => rfl), Nat.mul_one]; rfl
    | assignment => rw [creditSum_map (m := 0) _ (fun _ => rfl), Nat.mul_zero]; rfl
    | branch => rw [creditSum_map (m := 0) _ (fun _ => rfl), Nat.mul_zero]; rfl

theorem creditSum_stmt (k : Counter) (s : Stmt) :
    creditSum k s.credits = constructCount k [.stmt s] := by
  cases s with
  | forLoop span isAsync target iter body orelse =>
    cases isAsync <;> cases orelse <;> cases k <;> rfl
  | whileLoop span test body orelse => cases orelse <;> cases k <;> rfl
  | tryBlock span isStar body handlers orelse final =>
    cases isStar <;> cases orelse <;> cases k <;> rfl
  | assign span targets value =>
    rw [Stmt.credits, creditSum_targets]
    cases k <;> simp [constructCount, assignmentCount, branchCount, conditionCount,
      Node.targetCount, Node.isAugAssign, Node.isAnnAssign, Node.isCall, Node.isCompare,
      Node.isHandler, Node.operandCount, Node.testsValue, Node.hasElse, Node.isIfExp,
      Node.assertsName]
  | ifElse span test body orelse =>
    rw [Stmt.credits, creditSum_conditional]
    cases k with
    | condition =>
      cases orelse <;> cases h : (test.isBoolOp || test.isCompare || test.isConstant) <;>
        simp [constructCount, conditionCount, firstOf, Node.isCompare, Node.isHandler,
          Node.operandCount, Node.testsValue, Node.hasElse, Node.isIfExp, Node.assertsName, h]
    | assignment => rfl
    | branch => rfl
  | assertTest span test msg => cases test <;> cases k <;> rfl
  | _ => cases k <;> rfl

theorem creditSum_expr (k : Counter) (e : Expr) :
    creditSum k e.credits = constructCount k [.expr e] := by
  cases e with
  | boolOp span op values =>
    rw [creditSum_operands]
    cases k <;> simp [constructCount, assignmentCount, branchCount, conditionCount,
      Node.targetCount, Node.isAugAssign, Node.isAnnAssign, Node.isCall, Node.isCompare,
      Node.isHandler, Node.operandCount, Node.testsValue, Node.hasElse, Node.isIfExp,
      Node.assertsName, Expr.isCompare]
  | ifExp span test body orelse =>
    rw [Expr.credits, creditSum_conditional]
    cases k with
    | condition =>
      have hcompare : Node.isCompare (.expr (.ifExp span test body orelse)) = false := rfl
      cases h : (test.isBoolOp || test.isCompare || test.isConstant) <;>
        simp [constructCount, conditionCount, hcompare, Node.isHandler, Node.operandCount,
          Node.testsValue, Node.hasElse, Node.isIfExp, Node.assertsName, h]
    | assignment => rfl
    | branch => rfl
  | _ => cases k <;> rfl

/-- **The credits of a node are its counts.** -/
theorem creditSum_node (k : Counter) (n : Node) :
    creditSum k n.credits = constructCount k [n] := by
  cases n with
  | stmt s => exact creditSum_stmt k s
  | expr e => exact creditSum_expr k e
  | _ => cases k <;> rfl

theorem creditSum_flatMap (k : Counter) (ns : List Node) :
    creditSum k (ns.flatMap Node.credits) = constructCount k ns := by
  induction ns with
  | nil => cases k <;> rfl
  | cons n ns ih =>
    rw [List.flatMap_cons, creditSum_append, ih, creditSum_node, ← constructCount_cons]

/-- **The credits of a module are the counts of its constructs.** -/
theorem creditSum_moduleCredits (k : Counter) (body : List Stmt) :
    creditSum k (moduleCredits body) = constructCount k (occurrences body) := by
  rw [moduleCredits, creditSum_flatMap]
  exact constructCount_perm k (walk_perm_occurrences body)

/-! ## The total -/

section Tally

variable {body : List Stmt}

/-- **A module whose counts fit is tallied**, and its total is these counts. -/
theorem tally_ok_of_count (lines : LineIndex)
    (h : ∀ k, constructCount k (occurrences body) < UInt32.size) :
    ∃ t, tally lines body = .ok t ∧ t.Accounts (contributions lines body) ∧
      ∀ k, t.total.count k = constructCount k (occurrences body) := by
  simp only [← creditSum_moduleCredits] at h ⊢
  obtain ⟨t, ht, ha⟩ := tally_ok lines h
  refine ⟨t, ht, ha, fun k => ?_⟩
  rw [ha.count, placedSum_contributions]

/-- **A module with a count that does not fit overflows.** -/
theorem tally_overflow_of_count (lines : LineIndex) {k : Counter}
    (h : UInt32.size ≤ constructCount k (occurrences body)) :
    tally lines body = .error .overflow := by
  rw [← creditSum_moduleCredits] at h
  exact tally_overflow lines h

end Tally

/-- The vector of three counts that fit. -/
theorem count_ofCounts {a b c : Nat} (ha : a < UInt32.size) (hb : b < UInt32.size)
    (hc : c < UInt32.size) (k : Counter) :
    (AbcVector.ofCounts (.ofNat a) (.ofNat b) (.ofNat c)).count k =
      match k with
      | .assignment => a
      | .branch => b
      | .condition => c := by
  cases k
  · exact UInt32.toNat_ofNat_of_lt ha
  · exact UInt32.toNat_ofNat_of_lt hb
  · exact UInt32.toNat_ofNat_of_lt hc

/-- **The total of a module counts its constructs.** The counts are those of the syntax tree alone;
the tally overflows iff one of them does not fit a counter. -/
theorem tally_total (lines : LineIndex) (body : List Stmt) :
    (tally lines body).map Tally.total =
      if assignmentCount (occurrences body) < UInt32.size ∧
          branchCount (occurrences body) < UInt32.size ∧
          conditionCount (occurrences body) < UInt32.size then
        .ok (.ofCounts (.ofNat (assignmentCount (occurrences body)))
          (.ofNat (branchCount (occurrences body))) (.ofNat (conditionCount (occurrences body))))
      else .error .overflow := by
  have hiff : (∀ k, constructCount k (occurrences body) < UInt32.size) ↔ _ := Counter.forall_iff
  split
  · rename_i hfit
    obtain ⟨t, ht, ha, hcount⟩ := tally_ok_of_count lines (hiff.mpr hfit)
    rw [ht]
    refine congrArg Except.ok (AbcVector.ext_count (fun k => ?_) ha.line ha.origin)
    rw [hcount, count_ofCounts hfit.1 hfit.2.1 hfit.2.2]
    cases k <;> rfl
  · rename_i hfit
    obtain ⟨k, hk⟩ := Classical.not_forall.mp (mt hiff.mp hfit)
    rw [tally_overflow_of_count lines (Nat.not_lt.mp hk)]
    rfl

end AbcMetric
