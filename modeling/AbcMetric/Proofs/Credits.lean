import AbcMetric.Classify
import AbcMetric.Proofs.Counters

/-!
# What a node is credited with, apart from where it stands

Classifying a node decides two things: what is counted, and on which line. A `Credit` is the first
alone. It knows no line, only the nodes that the line will be read from, so it is the same wherever
the source puts them; `Credit.vector` adds the line.

* `Node.credits` lists the credits of a node.
* `classify_eq`: classifying never fails, and gives the credits of the node, each on its line. What
  holds of classification is proved of credits from here on.
* `Credit.line_eq`: a credit is on the line of its node, unless it is for an alternative.
* `points_credits`: a credit is for the node classified, a child of it, or an element of a tuple
  that is assigned to, and that node has a place whenever something is counted. `sound_credits`
  forgets which child of a child it can be.
-/

namespace AbcMetric

/-- One contribution of a node, apart from its line. -/
inductive Credit where
  /-- Nothing counted for a node. -/
  | nothing (node : Node)
  /-- An assignment to a target. -/
  | assignment (target : Node)
  /-- A call. -/
  | branch (call : Node)
  /-- A tested construct. -/
  | condition (tested : Node)
  /-- The alternative of `owner` that starts with `first`. -/
  | alternative (owner first : Node)

namespace Credit

/-- The node that the credit is for. -/
def node : Credit → Node
  | .nothing n | .assignment n | .branch n | .condition n | .alternative _ n => n

/-- Whether the credit is for an alternative. -/
def isAlternative : Credit → Bool
  | .alternative .. => true
  | _ => false

/-- What is counted. -/
def counters : Credit → AbcVector
  | .nothing _ => .zero
  | .assignment _ => .ofCounts 1 0 0
  | .branch _ => .ofCounts 0 1 0
  | .condition _ | .alternative .. => .ofCounts 0 0 1

/-- The line the credit is on. -/
def line (lines : LineIndex) (c : Credit) : Option Nat :=
  AbcVector.resolveLine (c.node.origin lines)
    (match c with
      | .alternative owner first => alternativeLine lines owner first
      | _ => none)

/-- The vector of a credit. -/
def vector (lines : LineIndex) (c : Credit) : AbcVector :=
  { c.counters with line := c.line lines, origin := some (c.node.origin lines) }

@[simp]
theorem count_vector (lines : LineIndex) (c : Credit) (k : Counter) :
    (c.vector lines).count k = c.counters.count k := by
  cases k <;> rfl

end Credit

/-- One condition counted for a node, on a given line. -/
def conditionAt (lines : LineIndex) (n : Node) (line : Nat) : AbcVector :=
  ⟨0, 0, 1, some line, some (n.origin lines)⟩

/-! ## The credits of a node -/

/-- The credit of an alternative that may be missing. -/
def alternativeCredit (owner : Node) : Option Node → Credit
  | none => .nothing owner
  | some first => .alternative owner first

/-- The credits of a tested expression and its alternative. -/
def conditionalCredits (owner : Node) (test : Expr) (first : Option Node) : List Credit :=
  if test.isSettledTest then [alternativeCredit owner first]
  else [.condition (.expr test), alternativeCredit owner first]

/-- The credits of a statement. -/
def Stmt.credits : Stmt → List Credit
  | s@(.forLoop _ false _ _ _ orelse) => [alternativeCredit (.stmt s) (firstOf orelse)]
  | s@(.whileLoop _ _ _ orelse) => [alternativeCredit (.stmt s) (firstOf orelse)]
  | s@(.tryBlock _ false _ _ orelse _) => [alternativeCredit (.stmt s) (firstOf orelse)]
  | .assign _ targets _ =>
    (targets.flatMap Expr.boundTargets).map fun target => .assignment (.expr target)
  | s@(.annAssign ..) => [.assignment (.stmt s)]
  | s@(.augAssign ..) => [.assignment (.stmt s)]
  | s@(.ifElse _ test _ orelse) => conditionalCredits (.stmt s) test (firstOf orelse)
  | .assertTest _ (.name s id usage) _ => [.condition (.expr (.name s id usage))]
  | s => [.nothing (.stmt s)]

/-- The credits of an expression. -/
def Expr.credits : Expr → List Credit
  | e@(.call ..) => [.branch (.expr e)]
  | e@(.boolOp _ _ values) =>
    match values.filter (!·.countsItself) with
    | [] => [.nothing (.expr e)]
    | counted => counted.map fun value => .condition (.expr value)
  | e@(.compare ..) => [.condition (.expr e)]
  | e@(.ifExp _ test _ orelse) => conditionalCredits (.expr e) test (some (.expr orelse))
  | e => [.nothing (.expr e)]

/-- The credits of a node. -/
def Node.credits : Node → List Credit
  | .stmt s => s.credits
  | .expr e => e.credits
  | .handler h => [.condition (.handler h)]
  | n => [.nothing n]

/-! ## Classifying gives the credits -/

/-- The node has a place in the source. -/
def Node.Placed (n : Node) : Prop := n.offset.isSome = true

theorem Node.placed_stmt (s : Stmt) : (Node.stmt s).Placed := rfl

theorem Node.placed_expr (e : Expr) : (Node.expr e).Placed := rfl

theorem Node.placed_handler (h : ExceptHandler) : (Node.handler h).Placed := rfl

theorem Node.placed_firstOf {block : List Stmt} : ∀ n ∈ firstOf block, n.Placed := by
  intro n hn
  obtain ⟨s, -, rfl⟩ := Option.map_eq_some_iff.mp hn
  exact placed_stmt s

/-- A placed node is on a line. -/
theorem Node.Placed.exists_line {n : Node} (h : n.Placed) (lines : LineIndex) :
    ∃ l, n.line lines = some l := by
  obtain ⟨o, ho⟩ := Option.isSome_iff_exists.mp h
  exact ⟨lines.lineOf o, by rw [Node.line, ho]; rfl⟩

section Classify

variable {lines : LineIndex}

theorem AbcVector.unit_eq {n : Node} (h : n.Placed) (line : Option Nat) (a b c : UInt32) :
    AbcVector.unit (n.origin lines) line a b c =
      .ok ⟨a, b, c, resolveLine (n.origin lines) line, some (n.origin lines)⟩ := by
  obtain ⟨o, ho⟩ := Option.isSome_iff_exists.mp h
  have hr : (resolveLine (n.origin lines) line).isSome = true := by
    simp [resolveLine, Node.origin, Node.line, ho]
  obtain ⟨l, hl⟩ := Option.isSome_iff_exists.mp hr
  rw [unit, hl]

theorem assignmentFor_eq {n : Node} (h : n.Placed) :
    assignmentFor lines n = .ok ((Credit.assignment n).vector lines) :=
  AbcVector.unit_eq h none 1 0 0

theorem branchFor_eq {n : Node} (h : n.Placed) :
    branchFor lines n = .ok ((Credit.branch n).vector lines) :=
  AbcVector.unit_eq h none 0 1 0

theorem conditionFor_eq {n : Node} (h : n.Placed) :
    conditionFor lines n none = .ok ((Credit.condition n).vector lines) :=
  AbcVector.unit_eq h none 0 0 1

theorem alternativeFor_eq (owner : Node) {first : Option Node} (h : ∀ n ∈ first, n.Placed) :
    alternativeFor lines owner first = .ok ((alternativeCredit owner first).vector lines) := by
  cases first with
  | none => rfl
  | some n => exact AbcVector.unit_eq (h n rfl) (alternativeLine lines owner n) 0 0 1

theorem conditionalFor_eq (owner : Node) (test : Expr) {first : Option Node}
    (h : ∀ n ∈ first, n.Placed) :
    conditionalFor lines owner test first =
      .ok ((conditionalCredits owner test first).map (Credit.vector lines)) := by
  unfold conditionalFor conditionalCredits
  rw [alternativeFor_eq owner h, conditionFor_eq (Node.placed_expr test)]
  split <;> rfl

/-- Classifying a list one by one, where each member can be classified. -/
theorem mapM_vector {α : Type} {f : α → Except CountFault AbcVector} {g : α → Credit}
    (h : ∀ a, f a = .ok ((g a).vector lines)) (as : List α) :
    as.mapM f = .ok ((as.map g).map (Credit.vector lines)) := by
  rw [funext h, List.map_map]
  exact List.mapM_pure

theorem classifyStmt_eq (s : Stmt) :
    classifyStmt lines s = .ok (s.credits.map (Credit.vector lines)) := by
  cases s with
  | forLoop span isAsync target iter body orelse =>
    cases isAsync with
    | false =>
      simp only [classifyStmt, alternativeFor_eq _ Node.placed_firstOf]
      rfl
    | true => rfl
  | whileLoop span test body orelse =>
    simp only [classifyStmt, alternativeFor_eq _ Node.placed_firstOf]
    rfl
  | tryBlock span isStar body handlers orelse final =>
    cases isStar with
    | false =>
      simp only [classifyStmt, alternativeFor_eq _ Node.placed_firstOf]
      rfl
    | true => rfl
  | assign span targets value =>
    exact mapM_vector (fun target => assignmentFor_eq (Node.placed_expr target)) _
  | annAssign span target hint value =>
    simp only [classifyStmt, assignmentFor_eq (Node.placed_stmt _)]
    rfl
  | augAssign span target op value =>
    simp only [classifyStmt, assignmentFor_eq (Node.placed_stmt _)]
    rfl
  | ifElse span test body orelse => exact conditionalFor_eq _ _ Node.placed_firstOf
  | assertTest span test msg =>
    cases test with
    | name s id usage =>
      simp only [classifyStmt, conditionFor_eq (Node.placed_expr _)]
      rfl
    | _ => rfl
  | _ => rfl

theorem classifyExpr_eq (e : Expr) :
    classifyExpr lines e = .ok (e.credits.map (Credit.vector lines)) := by
  cases e with
  | call span func args keywords =>
    simp only [classifyExpr, branchFor_eq (Node.placed_expr _)]
    rfl
  | boolOp span op values =>
    simp only [classifyExpr, Expr.credits,
      mapM_vector fun value => conditionFor_eq (Node.placed_expr value)]
    cases values.filter (!·.countsItself) with
    | nil => rfl
    | cons value counted => rfl
  | compare span left links =>
    simp only [classifyExpr, conditionFor_eq (Node.placed_expr _)]
    rfl
  | ifExp span test body orelse =>
    refine conditionalFor_eq _ _ fun n hn => ?_
    obtain rfl := Option.some.inj hn
    exact Node.placed_expr orelse
  | _ => rfl

/-- **Classifying never fails**, and gives the credits of the node, each on its line. -/
theorem classify_eq (lines : LineIndex) (n : Node) :
    classify lines n = .ok (n.credits.map (Credit.vector lines)) := by
  cases n with
  | stmt s => exact classifyStmt_eq s
  | expr e => exact classifyExpr_eq e
  | handler h =>
    simp only [classify, conditionFor_eq (Node.placed_handler h)]
    rfl
  | keyword | arg | comprehension | withItem | matchCase => rfl

/-! ## The line of a credit -/

/-- A credit is on the line of its node, unless it is for an alternative. -/
theorem Credit.line_eq {c : Credit} (h : c.isAlternative = false) :
    c.line lines = c.node.line lines := by
  cases c with
  | alternative => exact absurd h (by simp [isAlternative])
  | _ => rfl

/-- The line asked for an alternative is that of its first node or the one above. -/
theorem alternativeLine_cases (owner : Node) {first : Node} {l : Nat}
    (h : first.line lines = some l) :
    alternativeLine lines owner first = some l ∨
      alternativeLine lines owner first = some (l - 1) := by
  unfold alternativeLine
  split
  · exact Or.inl h
  · split
    · rw [h]
      exact Or.inr rfl
    · exact Or.inl h

/-- An alternative that starts with an `if` is taken for an `elif`. -/
def Node.isElif : Node → Bool
  | .stmt (.ifElse ..) => true
  | _ => false

theorem alternativeLine_eq {owner first : Node} {l m : Nat} (hl : owner.line lines = some l)
    (hm : first.line lines = some m) :
    alternativeLine lines owner first = some (if first.isElif ∨ m = l then m else m - 1) := by
  unfold alternativeLine
  split
  · simp [Node.isElif, hm]
  · rename_i hne
    have helif : first.isElif = false := by
      unfold Node.isElif
      split
      · exact absurd rfl (hne _ _ _ _)
      · rfl
    by_cases heq : m = l
    · simp [hm, hl, heq]
    · simp [hm, hl, helif, heq]

theorem AbcVector.resolveLine_pos {origin : Origin} {l : Nat} (h : 0 < l) :
    resolveLine origin (some l) = some l := by
  simp [resolveLine, h]

theorem AbcVector.resolveLine_zero (origin : Origin) :
    resolveLine origin (some 0) = origin.line := rfl

/-- **An alternative is on a line**, that of its first node or the one above it: the line above the
first line is none, so there the first node keeps its own. -/
theorem Credit.line_alternative (owner : Node) {first : Node} {l : Nat}
    (h : first.line lines = some l) (hl : 0 < l) :
    ∃ m, (Credit.alternative owner first).line lines = some m ∧ 0 < m ∧ m ≤ l := by
  have hline : (Credit.alternative owner first).line lines =
      AbcVector.resolveLine (first.origin lines) (alternativeLine lines owner first) := rfl
  rw [hline]
  rcases alternativeLine_cases owner h with ha | ha
  · rw [ha, AbcVector.resolveLine_pos hl]
    exact ⟨l, rfl, hl, Nat.le_refl l⟩
  · rw [ha]
    by_cases hpos : 0 < l - 1
    · rw [AbcVector.resolveLine_pos hpos]
      exact ⟨l - 1, rfl, hpos, Nat.sub_le l 1⟩
    · rw [show l - 1 = 0 by omega, AbcVector.resolveLine_zero]
      exact ⟨l, h, hl, Nat.le_refl l⟩

/-- **A credit is on a line** if its node is, and not below that node. -/
theorem Credit.line_of_node {c : Credit} {l : Nat} (h : c.node.line lines = some l) (hl : 0 < l) :
    ∃ m, c.line lines = some m ∧ 0 < m ∧ m ≤ l := by
  cases c with
  | alternative owner first => exact line_alternative owner h hl
  | _ => exact ⟨l, h, hl, Nat.le_refl l⟩

/-- Without a line for its node a credit is on none. -/
theorem Credit.line_of_no_line {c : Credit} (h : c.node.line lines = none) :
    c.line lines = none := by
  cases c with
  | alternative owner first =>
    have ha : alternativeLine lines owner first = none := by
      have hfirst : first.line lines = none := h
      unfold alternativeLine
      split
      · exact hfirst
      · rw [hfirst]
        split <;> rfl
    have hline : (Credit.alternative owner first).line lines =
        AbcVector.resolveLine (first.origin lines) (alternativeLine lines owner first) := rfl
    rw [hline, ha]
    exact h
  | _ => exact h

end Classify

/-! ## Where the credits of a node point -/

/-- An element of a tuple that is a target of the assignment. -/
def Node.BindsElement (n m : Node) : Prop :=
  ∃ span targets value tupleSpan elts usage element,
    n = .stmt (.assign span targets value) ∧ Expr.tuple tupleSpan elts usage ∈ targets ∧
      element ∈ elts ∧ m = .expr element

/-- The node itself, a child, or an element of a tuple that is assigned to. -/
def Node.LooksAt (n m : Node) : Prop := m = n ∨ m ∈ n.children ∨ n.BindsElement m

/-- The credit is for a node looked at that has a place, or for the node itself and nothing is
counted. -/
def Credit.Points (n : Node) (c : Credit) : Prop :=
  c = .nothing n ∨ n.LooksAt c.node ∧ c.node.Placed

/-- The node itself, a child, or a child of a child. -/
def Node.Reach (n m : Node) : Prop :=
  m = n ∨ m ∈ n.children ∨ ∃ child ∈ n.children, m ∈ child.children

/-- The credit is for a node within reach that has a place, or for the node itself and nothing is
counted. -/
def Credit.Sound (n : Node) (c : Credit) : Prop :=
  c = .nothing n ∨ n.Reach c.node ∧ c.node.Placed

theorem Node.mem_ofExprs {e : Expr} {es : List Expr} (h : e ∈ es) : Node.expr e ∈ ofExprs es :=
  List.mem_map_of_mem h

theorem Node.mem_ofStmts_of_firstOf {block : List Stmt} {n : Node} (h : n ∈ firstOf block) :
    n ∈ ofStmts block := by
  obtain ⟨s, hs, rfl⟩ := Option.map_eq_some_iff.mp h
  exact List.mem_map_of_mem (List.mem_of_head? hs)

/-- The tuple of an element is a child of the assignment. -/
theorem Node.BindsElement.exists_child {n m : Node} (h : n.BindsElement m) :
    ∃ child ∈ n.children, m ∈ child.children := by
  obtain ⟨span, targets, value, tupleSpan, elts, usage, element, rfl, htuple, helement, rfl⟩ := h
  exact ⟨_, List.mem_append_left _ (mem_ofExprs htuple), mem_ofExprs helement⟩

theorem Node.LooksAt.reach {n m : Node} (h : n.LooksAt m) : n.Reach m := by
  rcases h with hself | hchild | helement
  · exact Or.inl hself
  · exact Or.inr (Or.inl hchild)
  · exact Or.inr (Or.inr helement.exists_child)

theorem Credit.Points.looksAt {n : Node} {c : Credit} (h : c.Points n) : n.LooksAt c.node := by
  rcases h with rfl | ⟨hlooks, -⟩
  · exact Or.inl rfl
  · exact hlooks

theorem Credit.Points.sound {n : Node} {c : Credit} (h : c.Points n) : c.Sound n :=
  h.imp_right fun hpoints => ⟨hpoints.1.reach, hpoints.2⟩

/-- The credit of an alternative that stands among the children. -/
theorem points_alternativeCredit {owner : Node} {first : Option Node}
    (hp : ∀ n ∈ first, n.Placed) (hc : ∀ n ∈ first, n ∈ owner.children) :
    (alternativeCredit owner first).Points owner := by
  cases first with
  | none => exact Or.inl rfl
  | some n => exact Or.inr ⟨Or.inr (Or.inl (hc n rfl)), hp n rfl⟩

/-- The credits of a test and an alternative that stand among the children. -/
theorem points_conditionalCredits {owner : Node} {test : Expr} {first : Option Node}
    (ht : .expr test ∈ owner.children) (hp : ∀ n ∈ first, n.Placed)
    (hc : ∀ n ∈ first, n ∈ owner.children) :
    ∀ c ∈ conditionalCredits owner test first, c.Points owner := by
  intro c hmem
  unfold conditionalCredits at hmem
  split at hmem
  · obtain rfl := List.mem_singleton.mp hmem
    exact points_alternativeCredit hp hc
  · rcases List.mem_cons.mp hmem with rfl | hmem
    · exact Or.inr ⟨Or.inr (Or.inl ht), Node.placed_expr test⟩
    · obtain rfl := List.mem_singleton.mp hmem
      exact points_alternativeCredit hp hc

theorem points_nothing {n : Node} : ∀ c ∈ [Credit.nothing n], c.Points n := by
  intro c hc
  exact Or.inl (List.mem_singleton.mp hc)

/-- Credits for the node itself. -/
theorem points_self {n : Node} {c : Credit} (hn : c.node = n) (hp : n.Placed) :
    ∀ d ∈ [c], d.Points n := by
  intro d hd
  obtain rfl := List.mem_singleton.mp hd
  exact Or.inr ⟨Or.inl hn, by rw [hn]; exact hp⟩

theorem points_stmt_credits (s : Stmt) : ∀ c ∈ s.credits, c.Points (.stmt s) := by
  -- the block that an alternative starts stands among the children
  have alternative : ∀ {block : List Stmt},
      (∀ n ∈ Node.ofStmts block, n ∈ (Node.stmt s).children) →
      ∀ c ∈ [alternativeCredit (.stmt s) (firstOf block)], c.Points (.stmt s) := by
    intro block hsub c hc
    obtain rfl := List.mem_singleton.mp hc
    exact points_alternativeCredit Node.placed_firstOf fun n hn =>
      hsub n (Node.mem_ofStmts_of_firstOf hn)
  cases s with
  | forLoop span isAsync target iter body orelse =>
    cases isAsync with
    | false => exact alternative fun n hn => by simp [Node.children, Node.ofStmt, hn]
    | true => exact points_nothing
  | whileLoop span test body orelse =>
    exact alternative fun n hn => by simp [Node.children, Node.ofStmt, hn]
  | tryBlock span isStar body handlers orelse final =>
    cases isStar with
    | false => exact alternative fun n hn => by simp [Node.children, Node.ofStmt, hn]
    | true => exact points_nothing
  | assign span targets value =>
    intro c hc
    obtain ⟨bound, hbound, rfl⟩ := List.mem_map.mp hc
    obtain ⟨target, htarget, hmem⟩ := List.mem_flatMap.mp hbound
    refine Or.inr ⟨Or.inr ?_, Node.placed_expr bound⟩
    unfold Expr.boundTargets at hmem
    split at hmem
    · exact Or.inr ⟨span, targets, value, _, _, _, bound, rfl, htarget, hmem, rfl⟩
    · obtain rfl := List.mem_singleton.mp hmem
      exact Or.inl (List.mem_append_left _ (Node.mem_ofExprs htarget))
  | annAssign span target hint value => exact points_self rfl (Node.placed_stmt _)
  | augAssign span target op value => exact points_self rfl (Node.placed_stmt _)
  | ifElse span test body orelse =>
    refine points_conditionalCredits (by simp [Node.children, Node.ofStmt]) Node.placed_firstOf ?_
    intro n hn
    simp [Node.children, Node.ofStmt, Node.mem_ofStmts_of_firstOf hn]
  | assertTest span test msg =>
    cases test with
    | name s id usage =>
      intro c hc
      obtain rfl := List.mem_singleton.mp hc
      exact Or.inr ⟨Or.inr (Or.inl (by simp [Credit.node, Node.children, Node.ofStmt])),
        Node.placed_expr _⟩
    | _ => exact points_nothing
  | _ => exact points_nothing

theorem points_expr_credits (e : Expr) : ∀ c ∈ e.credits, c.Points (.expr e) := by
  cases e with
  | call span func args keywords => exact points_self rfl (Node.placed_expr _)
  | compare span left links => exact points_self rfl (Node.placed_expr _)
  | boolOp span op values =>
    intro c hc
    simp only [Expr.credits] at hc
    split at hc
    · exact points_nothing c hc
    · obtain ⟨value, hvalue, rfl⟩ := List.mem_map.mp hc
      have hmem : value ∈ values := (List.mem_filter.mp hvalue).1
      exact Or.inr ⟨Or.inr (Or.inl (Node.mem_ofExprs hmem)), Node.placed_expr value⟩
  | ifExp span test body orelse =>
    refine points_conditionalCredits (by simp [Node.children, Node.ofExpr]) ?_ ?_
    · intro n hn
      obtain rfl := Option.some.inj hn
      exact Node.placed_expr orelse
    · intro n hn
      obtain rfl := Option.some.inj hn
      simp [Node.children, Node.ofExpr]
  | _ => exact points_nothing

/-- **Every credit of a node is for a placed node that it looks at**, or counts nothing. -/
theorem points_credits (n : Node) : ∀ c ∈ n.credits, c.Points n := by
  cases n with
  | stmt s => exact points_stmt_credits s
  | expr e => exact points_expr_credits e
  | handler h => exact points_self rfl (Node.placed_handler h)
  | keyword | arg | comprehension | withItem | matchCase => exact points_nothing

/-- **Every credit of a node is for a placed node within reach**, or counts nothing. -/
theorem sound_credits (n : Node) : ∀ c ∈ n.credits, c.Sound n :=
  fun c hc => (points_credits n c hc).sound

end AbcMetric
