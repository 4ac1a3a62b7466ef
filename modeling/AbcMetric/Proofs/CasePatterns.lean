import AbcMetric.Proofs.Traversal

/-!
# The cases below a node

`Node.CasesHave P n` says that every `case` at or below the node `n` has a pattern with the property
`P`. Expressions and what stands below them hold no `case` (`casesHave_of_isValue`), so for a
statement only its blocks count, and its cases themselves: there is one lemma for each kind of
statement that has blocks, and one for all others (`casesHave_of_isSimple`).
-/

namespace AbcMetric

/-! ## Nodes without statements -/

namespace Node

/-- Whether the node is of a kind that holds no statements. -/
def isValue : Node → Bool
  | .expr _ | .keyword _ | .arg _ | .comprehension _ | .withItem _ => true
  | .stmt _ | .handler _ | .matchCase _ => false

@[simp]
theorem isValue_expr (e : Expr) : (Node.expr e).isValue = true := rfl

theorem all_isValue_map {α : Type} {f : α → Node} (h : ∀ a, (f a).isValue = true) (as : List α) :
    (as.map f).all isValue = true :=
  List.all_eq_true.mpr (List.forall_mem_map.mpr fun a _ => h a)

@[simp]
theorem all_isValue_ofExprs (es : List Expr) : (ofExprs es).all isValue = true :=
  all_isValue_map isValue_expr es

@[simp]
theorem all_isValue_ofOption (o : Option Expr) : (ofOption o).all isValue = true := by
  cases o <;> rfl

@[simp]
theorem all_isValue_ofArg (o : Option Arg) : (ofArg o).all isValue = true := by
  cases o <;> rfl

@[simp]
theorem all_isValue_ofParam (ps : List Param) : (ps.flatMap ofParam).all isValue = true := by
  induction ps with
  | nil => rfl
  | cons p ps ih => simp [ofParam, isValue]

@[simp]
theorem all_isValue_ofParams (ps : Params) : (ofParams ps).all isValue = true := by
  simp only [ofParams, List.all_append, all_isValue_ofParam, all_isValue_ofArg, Bool.and_self]

@[simp]
theorem all_isValue_ofTypeParam (ts : List TypeParam) :
    (ts.flatMap ofTypeParam).all isValue = true := by
  induction ts with
  | nil => rfl
  | cons t ts ih =>
    rw [List.flatMap_cons, List.all_append, ih]
    cases t with
    | typeVar span name bound => simp [ofTypeParam]
    | paramSpec | typeVarTuple => rfl

theorem all_isValue_ofKey (items : List DictItem) : (items.flatMap ofKey).all isValue = true := by
  induction items with
  | nil => rfl
  | cons item items ih => cases item <;> simpa [ofKey] using ih

theorem isValue_ofValue (item : DictItem) : (ofValue item).isValue = true := by
  cases item <;> rfl

theorem all_isValue_ofExpr (e : Expr) : (ofExpr e).all isValue = true := by
  have hgenerators := all_isValue_map (f := Node.comprehension) fun _ => rfl
  have hkeywords := all_isValue_map (f := Node.keyword) fun _ => rfl
  cases e with
  | dict span items =>
    rw [ofExpr, List.all_append, all_isValue_ofKey, all_isValue_map isValue_ofValue]
    rfl
  | compare span left links =>
    rw [ofExpr, List.all_cons, all_isValue_map fun link : CompareLink => isValue_expr link.operand]
    rfl
  | _ =>
    simp only [ofExpr, List.cons_append, List.all_append, List.all_cons, List.all_nil,
      isValue_expr, all_isValue_ofExprs, all_isValue_ofOption, all_isValue_ofParams, hgenerators,
      hkeywords, Bool.and_self]

/-- Below a node that holds no statements there are only such nodes. -/
theorem all_isValue_children {n : Node} (h : n.isValue = true) :
    n.children.all isValue = true := by
  cases n with
  | expr e => exact all_isValue_ofExpr e
  | keyword | arg | comprehension | withItem => simp [children]
  | stmt | handler | matchCase => exact absurd h (by simp [isValue])

theorem isValue_of_mem_preorder {n m : Node} (h : n.isValue = true) (hm : m ∈ n.preorder) :
    m.isValue = true := by
  induction n using preorder.induct with
  | case1 n ih =>
    rw [preorder_eq] at hm
    rcases List.mem_cons.mp hm with rfl | hm
    · exact h
    · obtain ⟨child, hchild, hm⟩ := List.mem_flatMap.mp hm
      exact ih ⟨child, hchild⟩ (List.all_eq_true.mp (all_isValue_children h) child hchild) hm

/-! ## The cases at or below a node -/

/-- Every `case` at or below the node has a pattern with the property. -/
def CasesHave (P : Pattern → Prop) (n : Node) : Prop :=
  ∀ c, .matchCase c ∈ n.preorder → P c.pattern

variable {P : Pattern → Prop}

theorem casesHave_iff {n : Node} :
    n.CasesHave P ↔ (∀ c, n = .matchCase c → P c.pattern) ∧
      ∀ child ∈ n.children, child.CasesHave P := by
  unfold CasesHave
  rw [preorder_eq]
  simp only [List.mem_cons, List.mem_flatMap]
  constructor
  · intro h
    exact ⟨fun c hc => h c (Or.inl hc.symm),
      fun child hchild c hc => h c (Or.inr ⟨child, hchild, hc⟩)⟩
  · rintro ⟨hself, hbelow⟩ c (hc | ⟨child, hchild, hc⟩)
    · exact hself c hc.symm
    · exact hbelow child hchild c hc

theorem casesHave_of_isValue {n : Node} (h : n.isValue = true) : n.CasesHave P :=
  fun _ hc => absurd (isValue_of_mem_preorder h hc) (by simp [isValue])

theorem casesHave_of_all_isValue {ns : List Node} (h : ns.all isValue = true) :
    ∀ n ∈ ns, n.CasesHave P :=
  fun n hn => casesHave_of_isValue (List.all_eq_true.mp h n hn)

end Node

/-! ## Statements -/

/-- Every `case` in the block has a pattern with the property. -/
def BlockHas (P : Pattern → Prop) (body : List Stmt) : Prop :=
  ∀ s ∈ body, (Node.stmt s).CasesHave P

/-- Whether the statement is of a kind without blocks. -/
def Stmt.isSimple : Stmt → Bool
  | .functionDef .. | .classDef .. | .forLoop .. | .whileLoop .. | .ifElse .. | .withBlock ..
  | .matchCases .. | .tryBlock .. => false
  | _ => true

namespace Node

variable {P : Pattern → Prop} {span : Span} {isAsync isStar : Bool}

theorem casesHave_block {body : List Stmt} (h : BlockHas P body) :
    ∀ n ∈ ofStmts body, n.CasesHave P :=
  List.forall_mem_map.mpr h

theorem casesHave_stmt {s : Stmt} (h : ∀ child ∈ ofStmt s, child.CasesHave P) :
    (Node.stmt s).CasesHave P :=
  casesHave_iff.mpr ⟨fun c hc => absurd hc (by simp), h⟩

theorem casesHave_of_isSimple {s : Stmt} (h : s.isSimple = true) : (Node.stmt s).CasesHave P := by
  refine casesHave_stmt (casesHave_of_all_isValue ?_)
  cases s with
  | functionDef | classDef | forLoop | whileLoop | ifElse | withBlock | matchCases | tryBlock =>
    exact absurd h (by simp [Stmt.isSimple])
  | _ =>
    simp only [ofStmt, List.cons_append, List.all_append, List.all_cons, List.all_nil,
      isValue_expr, all_isValue_ofExprs, all_isValue_ofOption, all_isValue_ofTypeParam,
      Bool.and_self]

theorem casesHave_ifElse {test : Expr} {body orelse : List Stmt} (hb : BlockHas P body)
    (ho : BlockHas P orelse) : (Node.stmt (.ifElse span test body orelse)).CasesHave P := by
  refine casesHave_stmt (List.forall_mem_append.mpr ⟨List.forall_mem_cons.mpr ⟨?_, ?_⟩, ?_⟩)
  · exact casesHave_of_isValue rfl
  · exact casesHave_block hb
  · exact casesHave_block ho

theorem casesHave_whileLoop {test : Expr} {body orelse : List Stmt} (hb : BlockHas P body)
    (ho : BlockHas P orelse) : (Node.stmt (.whileLoop span test body orelse)).CasesHave P := by
  refine casesHave_stmt (List.forall_mem_append.mpr ⟨List.forall_mem_cons.mpr ⟨?_, ?_⟩, ?_⟩)
  · exact casesHave_of_isValue rfl
  · exact casesHave_block hb
  · exact casesHave_block ho

theorem casesHave_forLoop {target iter : Expr} {body orelse : List Stmt} (hb : BlockHas P body)
    (ho : BlockHas P orelse) :
    (Node.stmt (.forLoop span isAsync target iter body orelse)).CasesHave P := by
  refine casesHave_stmt (List.forall_mem_append.mpr
    ⟨List.forall_mem_cons.mpr ⟨?_, List.forall_mem_cons.mpr ⟨?_, ?_⟩⟩, ?_⟩)
  · exact casesHave_of_isValue rfl
  · exact casesHave_of_isValue rfl
  · exact casesHave_block hb
  · exact casesHave_block ho

theorem casesHave_withBlock {items : List WithItem} {body : List Stmt} (hb : BlockHas P body) :
    (Node.stmt (.withBlock span isAsync items body)).CasesHave P := by
  refine casesHave_stmt (List.forall_mem_append.mpr ⟨?_, casesHave_block hb⟩)
  exact casesHave_of_all_isValue (all_isValue_map (fun _ => rfl) items)

theorem casesHave_functionDef {name : String} {params : Params} {body : List Stmt}
    {decorators : List Expr} {returns : Option Expr} {typeParams : List TypeParam}
    (hb : BlockHas P body) :
    (Node.stmt (.functionDef span isAsync name params body decorators returns
      typeParams)).CasesHave P := by
  refine casesHave_stmt (List.forall_mem_append.mpr ⟨?_, casesHave_block hb⟩)
  apply casesHave_of_all_isValue
  simp only [List.all_append, all_isValue_ofExprs, all_isValue_ofTypeParam, all_isValue_ofParams,
    all_isValue_ofOption, Bool.and_self]

theorem casesHave_classDef {name : String} {bases : List Expr} {keywords : List Keyword}
    {body : List Stmt} {decorators : List Expr} {typeParams : List TypeParam}
    (hb : BlockHas P body) :
    (Node.stmt (.classDef span name bases keywords body decorators typeParams)).CasesHave P := by
  refine casesHave_stmt (List.forall_mem_append.mpr ⟨?_, casesHave_block hb⟩)
  apply casesHave_of_all_isValue
  rw [List.all_append, all_isValue_map fun _ => rfl]
  simp only [List.all_append, all_isValue_ofExprs, all_isValue_ofTypeParam, Bool.and_self]

/-- The type of an `except` clause is of no account. -/
theorem casesHave_handler {h : ExceptHandler} (hb : BlockHas P h.body) :
    (Node.handler h).CasesHave P := by
  refine casesHave_iff.mpr ⟨fun c hc => absurd hc (by simp), ?_⟩
  exact List.forall_mem_append.mpr
    ⟨casesHave_of_all_isValue (all_isValue_ofOption h.type), casesHave_block hb⟩

theorem casesHave_tryBlock {body orelse final : List Stmt} {handlers : List ExceptHandler}
    (hb : BlockHas P body) (hh : ∀ h ∈ handlers, BlockHas P h.body) (ho : BlockHas P orelse)
    (hf : BlockHas P final) :
    (Node.stmt (.tryBlock span isStar body handlers orelse final)).CasesHave P := by
  refine casesHave_stmt (List.forall_mem_append.mpr ⟨List.forall_mem_append.mpr
    ⟨List.forall_mem_append.mpr ⟨?_, ?_⟩, ?_⟩, ?_⟩)
  · exact casesHave_block hb
  · exact List.forall_mem_map.mpr fun h hmem => casesHave_handler (hh h hmem)
  · exact casesHave_block ho
  · exact casesHave_block hf

/-- A `case` counts itself, and its guard is of no account. -/
theorem casesHave_matchCase {c : MatchCase} (hp : P c.pattern) (hb : BlockHas P c.body) :
    (Node.matchCase c).CasesHave P := by
  refine casesHave_iff.mpr ⟨?_, ?_⟩
  · rintro d hd
    obtain rfl := Node.matchCase.inj hd
    exact hp
  · exact List.forall_mem_append.mpr
      ⟨casesHave_of_all_isValue (all_isValue_ofOption c.guard), casesHave_block hb⟩

theorem casesHave_matchCases {subject : Expr} {cases : List MatchCase}
    (h : ∀ c ∈ cases, (Node.matchCase c).CasesHave P) :
    (Node.stmt (.matchCases span subject cases)).CasesHave P := by
  refine casesHave_stmt (List.forall_mem_cons.mpr ⟨casesHave_of_isValue rfl, ?_⟩)
  exact List.forall_mem_map.mpr h

end Node

end AbcMetric
