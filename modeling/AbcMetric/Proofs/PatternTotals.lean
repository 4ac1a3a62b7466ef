import AbcMetric.Proofs.ParsedCases
import AbcMetric.Proofs.PatternExprs
import AbcMetric.Proofs.Totals
import Mathlib.Data.List.Perm.Basic

/-!
# What is lost by not entering patterns

A walk visits a `case`, its guard and its body, but not the expressions that its pattern holds.
`walkWithPatterns` is the walk that enters them too, and `tallyNodes` tallies whatever nodes it is
given, so the two totals can be compared.

* `Node.flatMap_withHeld_preorder`: that walk goes on, below each node, with what its pattern holds
  and with its children.
* `Expr.Quiet`: no call, comparison, chain of `and` or `or` or conditional expression stands in the
  expression. What is plain is quiet (`quiet_of_isPlain`); a formatted string may not be.
* `tally_misses_formatted`: the total of a parsed module falls short of the total with its patterns
  by what the formatted strings in patterns count, and by nothing else.
-/

namespace AbcMetric

/-! ## Walking into patterns -/

namespace Node

/-- A call, a comparison, a chain of `and` or `or`, or a conditional expression. -/
def contributes : Node → Bool
  | .expr (.call ..) | .expr (.compare ..) | .expr (.boolOp ..) | .expr (.ifExp ..) => true
  | _ => false

/-- The expressions that the pattern of a `case` holds. -/
def heldExprs : Node → List Expr
  | .matchCase c => c.pattern.exprs
  | _ => []

end Node

/-- The nodes of expressions, each expression in preorder. -/
def exprNodes (es : List Expr) : List Node := (Node.ofExprs es).flatMap Node.preorder

/-- The node and, behind a `case`, the nodes of the expressions that its pattern holds. -/
def Node.withHeld (n : Node) : List Node := n :: exprNodes n.heldExprs

/-- A walk that enters the pattern of each `case` before its guard and body. -/
def walkWithPatterns (body : List Stmt) : List Node := (walk body).flatMap Node.withHeld

/-- The expressions that the patterns of a module hold. -/
def heldExprs (body : List Stmt) : List Expr := (walk body).flatMap Node.heldExprs

/-- The nodes of the formatted strings that the patterns of a module hold. -/
def formattedNodes (body : List Stmt) : List Node :=
  exprNodes ((heldExprs body).filter (·.isFormatted))

/-- The contributions of nodes. -/
def tallyNodes (lines : LineIndex) (ns : List Node) : Except CountFault Tally :=
  ns.foldlM (fun t node => do t.absorbAll (← classify lines node)) Tally.empty

theorem tally_eq_tallyNodes (lines : LineIndex) (body : List Stmt) :
    tally lines body = tallyNodes lines (walk body) := rfl

/-- Where no statements stand there is no pattern to enter. -/
theorem Node.flatMap_withHeld_of_isValue {n : Node} (h : n.isValue = true) :
    n.preorder.flatMap withHeld = n.preorder := by
  have hself : ∀ m ∈ n.preorder, m.withHeld = [m] := by
    intro m hm
    have hvalue := isValue_of_mem_preorder h hm
    cases m with
    | stmt | handler | matchCase => exact absurd hvalue (by simp [isValue])
    | _ => rfl
  rw [List.flatMap_congr hself, List.flatMap_singleton']

/-- **The walk that enters patterns** goes on, below each node, with what its pattern holds and then
with its children. -/
theorem Node.flatMap_withHeld_preorder (n : Node) :
    n.preorder.flatMap withHeld =
      n :: (ofExprs n.heldExprs ++ n.children).flatMap fun m => m.preorder.flatMap withHeld := by
  have hheld : (ofExprs n.heldExprs).flatMap (fun m => m.preorder.flatMap withHeld) =
      exprNodes n.heldExprs := by
    refine List.flatMap_congr fun m hm => ?_
    obtain ⟨e, -, rfl⟩ := List.mem_map.mp hm
    exact flatMap_withHeld_of_isValue rfl
  rw [List.flatMap_append, hheld, preorder_eq, List.flatMap_cons, List.flatMap_assoc]
  rfl

/-- It starts at the statements of the module. -/
theorem walkWithPatterns_eq (body : List Stmt) :
    walkWithPatterns body =
      (Node.ofStmts body).flatMap fun m => m.preorder.flatMap Node.withHeld := by
  rw [walkWithPatterns, walk_eq_preorder, List.flatMap_assoc]

/-! ## Counting nodes -/

theorem constructCount_append (k : Counter) (ns ms : List Node) :
    constructCount k (ns ++ ms) = constructCount k ns + constructCount k ms := by
  induction ns with
  | nil => cases k <;> simp [constructCount, assignmentCount, branchCount, conditionCount]
  | cons n ns ih =>
    rw [List.cons_append, constructCount_cons, ih, constructCount_cons k n ns, Nat.add_assoc]

theorem constructCount_eq_zero {k : Counter} {ns : List Node}
    (h : ∀ n ∈ ns, constructCount k [n] = 0) : constructCount k ns = 0 := by
  induction ns with
  | nil => cases k <;> rfl
  | cons n ns ih =>
    obtain ⟨hn, hns⟩ := List.forall_mem_cons.mp h
    rw [constructCount_cons, hn, ih hns]

/-- What a pattern holds adds to the counts of its `case`. -/
theorem constructCount_walkWithPatterns (k : Counter) (body : List Stmt) :
    constructCount k (walkWithPatterns body) =
      constructCount k (walk body) + constructCount k (exprNodes (heldExprs body)) := by
  unfold walkWithPatterns heldExprs
  induction walk body with
  | nil => cases k <;> rfl
  | cons n ns ih =>
    have hheld : exprNodes ((n :: ns).flatMap Node.heldExprs) =
        exprNodes n.heldExprs ++ exprNodes (ns.flatMap Node.heldExprs) := by
      simp [exprNodes, Node.ofExprs]
    rw [List.flatMap_cons, constructCount_append, ih, hheld, constructCount_append, Node.withHeld,
      constructCount_cons, constructCount_cons k n ns]
    omega

/-! ## Quiet expressions -/

/-- Nothing in the expression contributes. -/
def Expr.Quiet (e : Expr) : Prop := ∀ n ∈ (Node.expr e).preorder, n.contributes = false

theorem Expr.quiet_iff (e : Expr) :
    e.Quiet ↔ (Node.expr e).contributes = false ∧
      ∀ child ∈ Node.ofExpr e, ∀ n ∈ child.preorder, n.contributes = false := by
  unfold Quiet
  rw [Node.preorder_eq, List.forall_mem_cons]
  exact and_congr_right fun _ => List.forall_mem_flatMap

/-- **A plain expression is quiet.** -/
theorem Expr.quiet_of_isPlain : ∀ {e : Expr}, e.isPlain = true → e.Quiet
  | .constant .., _ => (quiet_iff _).mpr ⟨rfl, List.forall_mem_nil _⟩
  | .name .., _ => (quiet_iff _).mpr ⟨rfl, List.forall_mem_nil _⟩
  | .attr _ value _ _, h =>
    (quiet_iff _).mpr ⟨rfl, List.forall_mem_singleton.mpr (quiet_of_isPlain (e := value) h)⟩
  | .unaryOp _ _ operand, h =>
    (quiet_iff _).mpr ⟨rfl, List.forall_mem_singleton.mpr (quiet_of_isPlain (e := operand) h)⟩
  | .binOp _ left _ right, h => by
    obtain ⟨hleft, hright⟩ := Bool.and_eq_true_iff.mp h
    refine (quiet_iff _).mpr ⟨rfl, List.forall_mem_cons.mpr ⟨quiet_of_isPlain hleft, ?_⟩⟩
    exact List.forall_mem_singleton.mpr (quiet_of_isPlain hright)

/-- **What is quiet counts nothing.** -/
theorem constructCount_of_quiet {e : Expr} (h : e.Quiet) (k : Counter) :
    constructCount k (Node.expr e).preorder = 0 := by
  refine constructCount_eq_zero fun n hn => ?_
  have hvalue := Node.isValue_of_mem_preorder (Node.isValue_expr e) hn
  have hquiet := h n hn
  cases n with
  | expr d =>
    cases d with
    | call | compare | boolOp | ifExp => exact absurd hquiet (by simp [Node.contributes])
    | _ => cases k <;> rfl
  | keyword | arg | comprehension | withItem => cases k <;> rfl
  | stmt | handler | matchCase => exact absurd hvalue (by simp [Node.isValue])

/-- Only what is not quiet counts. -/
theorem constructCount_filter {es : List Expr} (p : Expr → Bool)
    (h : ∀ e ∈ es, e.Quiet ∨ p e = true) (k : Counter) :
    constructCount k (exprNodes es) = constructCount k (exprNodes (es.filter p)) := by
  induction es with
  | nil => rfl
  | cons e es ih =>
    obtain ⟨he, hes⟩ := List.forall_mem_cons.mp h
    have hcons : ∀ ds, exprNodes (e :: ds) = (Node.expr e).preorder ++ exprNodes ds := fun _ => rfl
    by_cases hp : p e = true
    · rw [List.filter_cons_of_pos hp, hcons, hcons, constructCount_append, constructCount_append,
        ih hes]
    · rw [List.filter_cons_of_neg hp, hcons, constructCount_append,
        constructCount_of_quiet (he.resolve_right hp), ih hes, Nat.zero_add]

theorem constructCount_of_all_quiet {es : List Expr} (h : ∀ e ∈ es, e.Quiet) (k : Counter) :
    constructCount k (exprNodes es) = 0 := by
  rw [constructCount_filter (fun _ => false) fun e he => Or.inl (h e he), List.filter_false]
  cases k <;> rfl

/-! ## Tallying nodes -/

section

variable {ns : List Node}

theorem tallyNodes_eq (lines : LineIndex) (ns : List Node) :
    tallyNodes lines ns =
      Tally.empty.absorbAll ((ns.flatMap Node.credits).map (Credit.vector lines)) :=
  foldlM_classify lines ns Tally.empty

/-- **Nodes whose counts fit are tallied**, and their total is these counts. -/
theorem tallyNodes_ok (lines : LineIndex) (h : ∀ k, constructCount k ns < UInt32.size) :
    ∃ t, tallyNodes lines ns = .ok t ∧ t.total.line = none ∧ t.total.origin = none ∧
      ∀ k, t.total.count k = constructCount k ns := by
  rw [tallyNodes_eq]
  have hsum : ∀ k, AbcVector.placedSum k ((ns.flatMap Node.credits).map (Credit.vector lines)) =
      constructCount k ns := fun k => by rw [placedSum_credits, creditSum_flatMap]
  obtain ⟨t, ht, ha⟩ := Tally.absorbAll_empty_ok size_lt_of_mem_credits
    fun k => by rw [hsum]; exact h k
  refine ⟨t, ht, ha.line, ha.origin, fun k => ?_⟩
  rw [ha.count, hsum]

theorem tallyNodes_overflow (lines : LineIndex) {k : Counter}
    (h : UInt32.size ≤ constructCount k ns) : tallyNodes lines ns = .error .overflow := by
  rw [tallyNodes_eq]
  refine Tally.absorbAll_empty_overflow size_lt_of_mem_credits (k := k) ?_
  rw [placedSum_credits, creditSum_flatMap]
  exact h

/-- The total depends on the counts of the nodes alone. -/
theorem map_total_tallyNodes (lines : LineIndex) {ms : List Node}
    (h : ∀ k, constructCount k ns = constructCount k ms) :
    (tallyNodes lines ns).map Tally.total = (tallyNodes lines ms).map Tally.total := by
  by_cases hfit : ∀ k, constructCount k ns < UInt32.size
  · obtain ⟨t, ht, hline, horigin, hcount⟩ := tallyNodes_ok lines hfit
    obtain ⟨u, hu, hline', horigin', hcount'⟩ := tallyNodes_ok lines fun k => h k ▸ hfit k
    rw [ht, hu]
    refine congrArg Except.ok (AbcVector.ext_count (fun k => ?_) ?_ ?_)
    · rw [hcount, hcount', h]
    · rw [hline, hline']
    · rw [horigin, horigin']
  · obtain ⟨k, hk⟩ := Classical.not_forall.mp hfit
    have hover := Nat.not_lt.mp hk
    rw [tallyNodes_overflow lines hover, tallyNodes_overflow lines (h k ▸ hover)]

theorem map_total_ne (lines : LineIndex) {ms : List Node} {k : Counter}
    (hn : ∀ k, constructCount k ns < UInt32.size) (hm : ∀ k, constructCount k ms < UInt32.size)
    (hne : constructCount k ns ≠ constructCount k ms) :
    (tallyNodes lines ns).map Tally.total ≠ (tallyNodes lines ms).map Tally.total := by
  obtain ⟨t, ht, -, -, htotal⟩ := tallyNodes_ok lines hn
  obtain ⟨u, hu, -, -, hutotal⟩ := tallyNodes_ok lines hm
  rw [ht, hu]
  intro heq
  have hcount := congrArg (AbcVector.count · k) (Except.ok.inj heq)
  exact hne ((htotal k).symm.trans (hcount.trans (hutotal k)))

end

/-! ## Parsed modules -/

/-- **The patterns of a parsed module hold quiet expressions and formatted strings.** -/
theorem quiet_or_formatted {source : String} {names : CharNames} {body : List Stmt}
    (h : parseModule source names = .ok body) :
    ∀ e ∈ heldExprs body, e.Quiet ∨ e.isFormatted = true := by
  intro e he
  obtain ⟨n, hn, hheld⟩ := List.mem_flatMap.mp he
  cases n with
  | matchCase c =>
    have hfits := parseModule_patterns (P := Pattern.Fits)
      (fun rules depth => PatternRules.yields_top (PatternRules.yields_level rules depth)) h c hn
    rcases hfits e hheld with hplain | hformatted
    · exact Or.inl (Expr.quiet_of_isPlain hplain)
    · exact Or.inr hformatted
  | _ => exact absurd hheld List.not_mem_nil

/-- **A total falls short of one with the patterns by what formatted strings in patterns count.**
The walk that enters patterns goes on, below each node, with what the pattern of the node holds and
with the children. Nothing that a pattern holds could count but formatted strings. So the two totals
agree if these are quiet, and if the counts fit, the difference is theirs. -/
theorem tally_misses_formatted (lines : LineIndex) (source : String) (names : CharNames)
    (body : List Stmt) (h : parseModule source names = .ok body) :
    (∀ n : Node, n.preorder.flatMap Node.withHeld = n ::
      (Node.ofExprs n.heldExprs ++ n.children).flatMap fun m => m.preorder.flatMap Node.withHeld) ∧
      walkWithPatterns body =
        (Node.ofStmts body).flatMap (fun m => m.preorder.flatMap Node.withHeld) ∧
      (∀ e ∈ heldExprs body, e.Quiet ∨ e.isFormatted = true) ∧
      ((∀ e ∈ heldExprs body, e.isFormatted = true → e.Quiet) →
        (tallyNodes lines (walkWithPatterns body)).map Tally.total =
          (tally lines body).map Tally.total) ∧
      ((∀ k, constructCount k (walkWithPatterns body) < UInt32.size) →
        ∃ t u, tally lines body = .ok t ∧ tallyNodes lines (walkWithPatterns body) = .ok u ∧
          ∀ k, u.total.count k = t.total.count k + constructCount k (formattedNodes body)) := by
  have hheld := quiet_or_formatted h
  have hcount : ∀ k, constructCount k (walkWithPatterns body) =
      constructCount k (walk body) + constructCount k (formattedNodes body) := by
    intro k
    rw [constructCount_walkWithPatterns, constructCount_filter _ hheld, formattedNodes]
  refine ⟨Node.flatMap_withHeld_preorder, walkWithPatterns_eq body, hheld, fun hquiet => ?_,
    fun hfit => ?_⟩
  · rw [tally_eq_tallyNodes]
    refine map_total_tallyNodes lines fun k => ?_
    have hall : ∀ e ∈ heldExprs body, e.Quiet := fun e he => (hheld e he).elim id (hquiet e he)
    rw [constructCount_walkWithPatterns, constructCount_of_all_quiet hall, Nat.add_zero]
  · have hwalk : ∀ k, constructCount k (walk body) < UInt32.size := by
      intro k
      have := hfit k
      rw [hcount] at this
      exact Nat.lt_of_le_of_lt (Nat.le_add_right _ _) this
    obtain ⟨t, ht, -, -, htotal⟩ := tallyNodes_ok lines hwalk
    obtain ⟨u, hu, -, -, hutotal⟩ := tallyNodes_ok lines hfit
    refine ⟨t, u, ht, hu, fun k => ?_⟩
    rw [hutotal, htotal, hcount]

/-! ## Fixed sources

Walks are evaluated through the listings `occurrences`, which hold the same nodes. -/

/-- The module of a source; no statements if it has a fault. -/
def moduleOf (source : String) : List Stmt := (parseModule source).toOption.getD []

theorem parseModule_moduleOf {source : String} (h : (parseModule source).isOk = true) :
    parseModule source = .ok (moduleOf source) := by
  unfold moduleOf
  cases hparse : parseModule source with
  | error fault => exact absurd h (by simp [hparse, Except.isOk, Except.toBool])
  | ok body => rfl

theorem Node.preorder_perm_occurrences (n : Node) : n.preorder.Perm n.occurrences := by
  have h := Walk.toList_perm_occurrences ⟨#[n]⟩
  rw [Walk.toList_eq_preorder] at h
  simpa [Walk.waiting] using h

theorem exprNodes_perm_occurrences (es : List Expr) :
    (exprNodes es).Perm (exprOccurrences es) := by
  rw [← Node.flatMap_ofExprs]
  exact List.Perm.flatMap_left _ fun n _ => n.preorder_perm_occurrences

/-- The nodes of a walk that enters patterns, with no regard to their order. -/
theorem constructCount_withPatterns_occurrences (k : Counter) (body : List Stmt) :
    constructCount k (walkWithPatterns body) = constructCount k (occurrences body) +
      constructCount k (exprOccurrences ((occurrences body).flatMap Node.heldExprs)) := by
  have hheld : (heldExprs body).Perm ((occurrences body).flatMap Node.heldExprs) :=
    (walk_perm_occurrences body).flatMap_right _
  have hnodes : (exprNodes (heldExprs body)).Perm
      (exprOccurrences ((occurrences body).flatMap Node.heldExprs)) :=
    ((hheld.map Node.expr).flatMap_right _).trans (exprNodes_perm_occurrences _)
  rw [constructCount_walkWithPatterns, constructCount_perm k (walk_perm_occurrences body),
    constructCount_perm k hnodes]

/-- An alternative of three: a formatted string with a call, a dotted name and a number. -/
theorem tally_misses_formatted_alternatives :
    let source := "match x:\n case f'{f(y)}' | a.b | -1: pass\n"
    ∃ t u, tally (.ofSource source) (moduleOf source) = .ok t ∧
      tallyNodes (.ofSource source) (walkWithPatterns (moduleOf source)) = .ok u ∧
      ∀ k, u.total.count k =
        t.total.count k + constructCount k (formattedNodes (moduleOf source)) := by
  intro source
  obtain ⟨-, -, -, -, hshort⟩ := tally_misses_formatted (.ofSource source) source .basic
    (moduleOf source) (parseModule_moduleOf (by decide +kernel))
  refine hshort fun k => ?_
  rw [constructCount_withPatterns_occurrences]
  revert k
  exact Counter.forall_iff.mpr (by decide +kernel)

/-- A `case` with a call in a formatted string: the walk misses the call. -/
theorem call_in_pattern_missed :
    let source := "match x:\n    case f\"{f(y)}\":\n        pass\n"
    ∃ body, parseModule source = .ok body ∧ (∃ e ∈ heldExprs body, ¬ e.Quiet) ∧
      (tallyNodes (.ofSource source) (walkWithPatterns body)).map Tally.total ≠
        (tally (.ofSource source) body).map Tally.total := by
  intro source
  have hwith : ∀ k, constructCount k (walkWithPatterns (moduleOf source)) =
      if k = .branch then 1 else 0 := by
    intro k
    rw [constructCount_withPatterns_occurrences]
    revert k
    exact Counter.forall_iff.mpr (by decide +kernel)
  have hwalk : ∀ k, constructCount k (walk (moduleOf source)) = 0 := by
    intro k
    rw [constructCount_perm k (walk_perm_occurrences _)]
    revert k
    exact Counter.forall_iff.mpr (by decide +kernel)
  refine ⟨moduleOf source, parseModule_moduleOf (by decide +kernel), ?_, ?_⟩
  · -- quiet expressions alone would leave both walks without a branch
    by_contra hall
    have hquiet : ∀ e ∈ heldExprs (moduleOf source), e.Quiet := fun e he =>
      Classical.not_not.mp fun hnot => hall ⟨e, he, hnot⟩
    have hbranch := constructCount_walkWithPatterns .branch (moduleOf source)
    rw [hwith, hwalk, constructCount_of_all_quiet hquiet] at hbranch
    exact absurd hbranch (by decide)
  · refine map_total_ne (k := .branch) _ (fun k => ?_) (fun k => ?_) ?_
    · rw [hwith]
      split <;> decide
    · rw [hwalk]
      decide
    · rw [hwith, hwalk]
      decide

end AbcMetric
