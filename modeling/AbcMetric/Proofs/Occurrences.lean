import AbcMetric.Node

/-!
# The constructs of a module

`occurrences body` lists every construct of a module that is a node, once for each place where it
stands in the syntax tree. It is a plain recursion over the tree: each clause names every field that
can hold a construct, in the order in which the fields are declared, and knows nothing of walks and
their order. Match patterns are left out.

* `Node.occurrences` is the same below one node, the node itself first.
* `Node.occurrences_perm`: up to order, the constructs of a node are the node and those of its
  children. This is where every field of every construct is compared with `Node.children`.
-/

namespace AbcMetric

/-! ## The listing -/

mutual

/-- The constructs of an expression, itself included. -/
def Expr.occurrences : Expr → List Node
  | e@(.boolOp _ _ values) => .expr e :: exprOccurrences values
  | e@(.namedExpr _ target value) => .expr e :: target.occurrences ++ value.occurrences
  | e@(.binOp _ left _ right) => .expr e :: left.occurrences ++ right.occurrences
  | e@(.unaryOp _ _ operand) => .expr e :: operand.occurrences
  | e@(.lambda _ params body) => .expr e :: params.occurrences ++ body.occurrences
  | e@(.ifExp _ test body orelse) =>
    .expr e :: test.occurrences ++ body.occurrences ++ orelse.occurrences
  | e@(.dict _ items) => .expr e :: itemOccurrences items
  | e@(.set _ elts) => .expr e :: exprOccurrences elts
  | e@(.listComp _ elt generators) =>
    .expr e :: elt.occurrences ++ comprehensionOccurrences generators
  | e@(.setComp _ elt generators) =>
    .expr e :: elt.occurrences ++ comprehensionOccurrences generators
  | e@(.dictComp _ key value generators) =>
    .expr e :: key.occurrences ++ value.occurrences ++ comprehensionOccurrences generators
  | e@(.generatorExp _ elt generators) =>
    .expr e :: elt.occurrences ++ comprehensionOccurrences generators
  | e@(.await _ value) => .expr e :: value.occurrences
  | e@(.yield _ value) => .expr e :: optionOccurrences value
  | e@(.yieldFrom _ value) => .expr e :: value.occurrences
  | e@(.compare _ left links) => .expr e :: left.occurrences ++ linkOccurrences links
  | e@(.call _ func args keywords) =>
    .expr e :: func.occurrences ++ exprOccurrences args ++ keywordOccurrences keywords
  | e@(.formattedValue _ value _ formatSpec) =>
    .expr e :: value.occurrences ++ optionOccurrences formatSpec
  | e@(.joinedStr _ values) => .expr e :: exprOccurrences values
  | e@(.constant ..) => [.expr e]
  | e@(.attr _ value _ _) => .expr e :: value.occurrences
  | e@(.subscript _ value slice _) => .expr e :: value.occurrences ++ slice.occurrences
  | e@(.starred _ value _) => .expr e :: value.occurrences
  | e@(.name ..) => [.expr e]
  | e@(.list _ elts _) => .expr e :: exprOccurrences elts
  | e@(.tuple _ elts _) => .expr e :: exprOccurrences elts
  | e@(.slice _ lower upper step) =>
    .expr e :: optionOccurrences lower ++ optionOccurrences upper ++ optionOccurrences step

/-- The constructs of expressions. -/
def exprOccurrences : List Expr → List Node
  | [] => []
  | e :: rest => e.occurrences ++ exprOccurrences rest

/-- The constructs of an expression that may be missing. -/
def optionOccurrences : Option Expr → List Node
  | none => []
  | some e => e.occurrences

/-- The constructs of dictionary entries, key and value side by side. -/
def itemOccurrences : List DictItem → List Node
  | [] => []
  | .pair key value :: rest => key.occurrences ++ value.occurrences ++ itemOccurrences rest
  | .spread value :: rest => value.occurrences ++ itemOccurrences rest

/-- The constructs right of the comparison operators. -/
def linkOccurrences : List CompareLink → List Node
  | [] => []
  | ⟨_, operand⟩ :: rest => operand.occurrences ++ linkOccurrences rest

/-- The constructs of a comprehension clause, itself included. -/
def Comprehension.occurrences : Comprehension → List Node
  | c@⟨target, iter, conditions, _⟩ =>
    .comprehension c :: target.occurrences ++ iter.occurrences ++ exprOccurrences conditions

/-- The constructs of comprehension clauses. -/
def comprehensionOccurrences : List Comprehension → List Node
  | [] => []
  | c :: rest => c.occurrences ++ comprehensionOccurrences rest

/-- The constructs of a named argument, itself included. -/
def Keyword.occurrences : Keyword → List Node
  | k@⟨_, _, value⟩ => .keyword k :: value.occurrences

/-- The constructs of named arguments. -/
def keywordOccurrences : List Keyword → List Node
  | [] => []
  | k :: rest => k.occurrences ++ keywordOccurrences rest

/-- The constructs of a parameter name, itself included. -/
def Arg.occurrences : Arg → List Node
  | a@⟨_, _, hint⟩ => .arg a :: optionOccurrences hint

/-- The constructs of a parameter name that may be missing. -/
def argOccurrences : Option Arg → List Node
  | none => []
  | some a => a.occurrences

/-- The constructs of a parameter and its default. -/
def Param.occurrences : Param → List Node
  | ⟨arg, default⟩ => arg.occurrences ++ optionOccurrences default

/-- The constructs of parameters. -/
def paramOccurrences : List Param → List Node
  | [] => []
  | p :: rest => p.occurrences ++ paramOccurrences rest

/-- The constructs of a parameter list. -/
def Params.occurrences : Params → List Node
  | ⟨positionalOnly, regular, vararg, keywordOnly, kwarg⟩ =>
    paramOccurrences positionalOnly ++ paramOccurrences regular ++ argOccurrences vararg ++
      paramOccurrences keywordOnly ++ argOccurrences kwarg

end

/-- The constructs in the bound of a type parameter. -/
def TypeParam.occurrences : TypeParam → List Node
  | .typeVar _ _ bound => optionOccurrences bound
  | .paramSpec .. | .typeVarTuple .. => []

/-- The constructs of a context manager, itself included. -/
def WithItem.occurrences (item : WithItem) : List Node :=
  .withItem item :: item.context.occurrences ++ optionOccurrences item.vars

mutual

/-- The constructs of a statement, itself included. -/
def Stmt.occurrences : Stmt → List Node
  | s@(.functionDef _ _ _ params body decorators returns typeParams) =>
    .stmt s :: params.occurrences ++ stmtOccurrences body ++ exprOccurrences decorators ++
      optionOccurrences returns ++ typeParams.flatMap TypeParam.occurrences
  | s@(.classDef _ _ bases keywords body decorators typeParams) =>
    .stmt s :: exprOccurrences bases ++ keywordOccurrences keywords ++ stmtOccurrences body ++
      exprOccurrences decorators ++ typeParams.flatMap TypeParam.occurrences
  | s@(.returnValue _ value) => .stmt s :: optionOccurrences value
  | s@(.delete _ targets) => .stmt s :: exprOccurrences targets
  | s@(.assign _ targets value) => .stmt s :: exprOccurrences targets ++ value.occurrences
  | s@(.typeAlias _ name typeParams value) =>
    .stmt s :: name.occurrences ++ typeParams.flatMap TypeParam.occurrences ++ value.occurrences
  | s@(.augAssign _ target _ value) => .stmt s :: target.occurrences ++ value.occurrences
  | s@(.annAssign _ target hint value) =>
    .stmt s :: target.occurrences ++ hint.occurrences ++ optionOccurrences value
  | s@(.forLoop _ _ target iter body orelse) =>
    .stmt s :: target.occurrences ++ iter.occurrences ++ stmtOccurrences body ++
      stmtOccurrences orelse
  | s@(.whileLoop _ test body orelse) =>
    .stmt s :: test.occurrences ++ stmtOccurrences body ++ stmtOccurrences orelse
  | s@(.ifElse _ test body orelse) =>
    .stmt s :: test.occurrences ++ stmtOccurrences body ++ stmtOccurrences orelse
  | s@(.withBlock _ _ items body) =>
    .stmt s :: items.flatMap WithItem.occurrences ++ stmtOccurrences body
  | s@(.matchCases _ subject cases) => .stmt s :: subject.occurrences ++ caseOccurrences cases
  | s@(.raise _ exc cause) => .stmt s :: optionOccurrences exc ++ optionOccurrences cause
  | s@(.tryBlock _ _ body handlers orelse final) =>
    .stmt s :: stmtOccurrences body ++ handlerOccurrences handlers ++ stmtOccurrences orelse ++
      stmtOccurrences final
  | s@(.assertTest _ test msg) => .stmt s :: test.occurrences ++ optionOccurrences msg
  | s@(.importModules ..) => [.stmt s]
  | s@(.importFrom ..) => [.stmt s]
  | s@(.global ..) => [.stmt s]
  | s@(.nonlocal ..) => [.stmt s]
  | s@(.expr _ value) => .stmt s :: value.occurrences
  | s@(.pass _) => [.stmt s]
  | s@(.breakLoop _) => [.stmt s]
  | s@(.continueLoop _) => [.stmt s]

/-- The constructs of statements. -/
def stmtOccurrences : List Stmt → List Node
  | [] => []
  | s :: rest => s.occurrences ++ stmtOccurrences rest

/-- The constructs of an `except` clause, itself included. -/
def ExceptHandler.occurrences : ExceptHandler → List Node
  | h@⟨_, type, _, body⟩ => .handler h :: optionOccurrences type ++ stmtOccurrences body

/-- The constructs of `except` clauses. -/
def handlerOccurrences : List ExceptHandler → List Node
  | [] => []
  | h :: rest => h.occurrences ++ handlerOccurrences rest

/-- The constructs of a `case`, itself included and its pattern left out. -/
def MatchCase.occurrences : MatchCase → List Node
  | c@⟨_, guard, body⟩ => .matchCase c :: optionOccurrences guard ++ stmtOccurrences body

/-- The constructs of `case` clauses. -/
def caseOccurrences : List MatchCase → List Node
  | [] => []
  | c :: rest => c.occurrences ++ caseOccurrences rest

end

/-- The constructs of a module. -/
def occurrences (body : List Stmt) : List Node := stmtOccurrences body

/-- The constructs of a node, the node first. -/
def Node.occurrences : Node → List Node
  | .stmt s => s.occurrences
  | .expr e => e.occurrences
  | .handler h => h.occurrences
  | .keyword k => k.occurrences
  | .arg a => a.occurrences
  | .comprehension c => c.occurrences
  | .withItem item => item.occurrences
  | .matchCase c => c.occurrences

/-! ## The listing and the children -/

namespace Node

/-- A listing that goes through a list of constructs one by one. -/
theorem flatMap_of_cons {α : Type} {f : α → Node} {listing : List α → List Node}
    (hnil : listing [] = []) (hcons : ∀ a as, listing (a :: as) = (f a).occurrences ++ listing as)
    (as : List α) : (as.map f).flatMap occurrences = listing as := by
  induction as with
  | nil => rw [hnil, List.map_nil, List.flatMap_nil]
  | cons a as ih => rw [List.map_cons, List.flatMap_cons, ih, hcons]

@[simp]
theorem flatMap_ofExprs (es : List Expr) :
    (ofExprs es).flatMap occurrences = exprOccurrences es :=
  flatMap_of_cons rfl (fun _ _ => rfl) es

@[simp]
theorem flatMap_ofStmts (ss : List Stmt) :
    (ofStmts ss).flatMap occurrences = stmtOccurrences ss :=
  flatMap_of_cons rfl (fun _ _ => rfl) ss

@[simp]
theorem flatMap_keyword (ks : List Keyword) :
    (ks.map Node.keyword).flatMap occurrences = keywordOccurrences ks :=
  flatMap_of_cons rfl (fun _ _ => rfl) ks

@[simp]
theorem flatMap_comprehension (cs : List Comprehension) :
    (cs.map Node.comprehension).flatMap occurrences = comprehensionOccurrences cs :=
  flatMap_of_cons rfl (fun _ _ => rfl) cs

@[simp]
theorem flatMap_handler (hs : List ExceptHandler) :
    (hs.map Node.handler).flatMap occurrences = handlerOccurrences hs :=
  flatMap_of_cons rfl (fun _ _ => rfl) hs

@[simp]
theorem flatMap_matchCase (cs : List MatchCase) :
    (cs.map Node.matchCase).flatMap occurrences = caseOccurrences cs :=
  flatMap_of_cons rfl (fun _ _ => rfl) cs

@[simp]
theorem flatMap_link (links : List CompareLink) :
    (links.map fun link => Node.expr link.operand).flatMap occurrences = linkOccurrences links :=
  flatMap_of_cons rfl (fun ⟨_, _⟩ _ => rfl) links

@[simp]
theorem flatMap_withItem (items : List WithItem) :
    (items.map Node.withItem).flatMap occurrences = items.flatMap WithItem.occurrences :=
  flatMap_of_cons rfl (fun _ _ => rfl) items

@[simp]
theorem flatMap_ofOption (o : Option Expr) :
    (ofOption o).flatMap occurrences = optionOccurrences o := by
  cases o with
  | none => rfl
  | some e => simp [ofOption, occurrences, optionOccurrences]

@[simp]
theorem flatMap_ofArg (o : Option Arg) :
    (ofArg o).flatMap occurrences = argOccurrences o := by
  cases o with
  | none => rfl
  | some a => simp [ofArg, occurrences, argOccurrences]

@[simp]
theorem flatMap_ofTypeParam (ts : List TypeParam) :
    (ts.flatMap ofTypeParam).flatMap occurrences = ts.flatMap TypeParam.occurrences := by
  rw [List.flatMap_assoc]
  congr 1
  funext t
  cases t with
  | typeVar s name bound => exact flatMap_ofOption bound
  | paramSpec | typeVarTuple => rfl

@[simp]
theorem flatMap_ofParam (ps : List Param) :
    (ps.flatMap ofParam).flatMap occurrences = paramOccurrences ps := by
  induction ps with
  | nil => rfl
  | cons p ps ih =>
    cases p
    rw [List.flatMap_cons, List.flatMap_append, ih, ofParam, List.flatMap_cons, flatMap_ofOption]
    rfl

/-- The starred parameters are declared where they stand and visited last. -/
theorem flatMap_ofParams_perm (ps : Params) :
    ((ofParams ps).flatMap occurrences).Perm ps.occurrences := by
  cases ps
  classical
  rw [List.perm_iff_count]
  intro n
  simp only [ofParams, Params.occurrences, List.flatMap_append, flatMap_ofParam, flatMap_ofArg,
    List.count_append]
  omega

/-- All keys are visited before all values. -/
theorem flatMap_ofKey_ofValue_perm (items : List DictItem) :
    ((items.flatMap ofKey ++ items.map ofValue).flatMap occurrences).Perm
      (itemOccurrences items) := by
  classical
  rw [List.perm_iff_count]
  intro n
  induction items with
  | nil => rfl
  | cons item items ih =>
    cases item with
    | pair key value =>
      simp only [List.flatMap_cons, List.map_cons, List.flatMap_append, List.count_append,
        ofKey, ofValue, occurrences, itemOccurrences, List.flatMap_nil, List.append_nil] at ih ⊢
      omega
    | spread value =>
      simp only [List.flatMap_cons, List.map_cons, List.flatMap_append, List.count_append,
        ofKey, ofValue, occurrences, itemOccurrences, List.nil_append] at ih ⊢
      omega

/-- The constructs of an expression are itself and those below its children. -/
theorem occurrences_expr_perm (e : Expr) :
    e.occurrences.Perm (.expr e :: (ofExpr e).flatMap occurrences) := by
  cases e with
  | lambda s params body =>
    have h := (flatMap_ofParams_perm params).symm.append_right body.occurrences
    simpa [Expr.occurrences, ofExpr, occurrences] using h
  | dict s items =>
    have h := (flatMap_ofKey_ofValue_perm items).symm
    simpa [Expr.occurrences, ofExpr] using h
  | _ => simp [Expr.occurrences, ofExpr, occurrences]

/-- The constructs of a statement are itself and those below its children. -/
theorem occurrences_stmt_perm (s : Stmt) :
    s.occurrences.Perm (.stmt s :: (ofStmt s).flatMap occurrences) := by
  cases s with
  | functionDef s isAsync name params body decorators returns typeParams =>
    classical
    have h := flatMap_ofParams_perm params
    rw [List.perm_iff_count] at h ⊢
    intro n
    have := h n
    simp only [Stmt.occurrences, ofStmt, List.flatMap_append, flatMap_ofExprs, flatMap_ofStmts,
      flatMap_ofOption, flatMap_ofTypeParam, List.cons_append, List.count_cons, List.count_append]
    omega
  | classDef s name bases keywords body decorators typeParams =>
    classical
    rw [List.perm_iff_count]
    intro n
    simp only [Stmt.occurrences, ofStmt, List.flatMap_append, flatMap_ofExprs, flatMap_ofStmts,
      flatMap_keyword, flatMap_ofTypeParam, List.cons_append, List.count_cons, List.count_append]
    omega
  | _ => simp [Stmt.occurrences, ofStmt, occurrences]

/-- **Up to order, the constructs of a node are the node and those of its children.** -/
theorem occurrences_perm (n : Node) :
    n.occurrences.Perm (n :: n.children.flatMap occurrences) := by
  cases n with
  | stmt s => exact occurrences_stmt_perm s
  | expr e => exact occurrences_expr_perm e
  | handler h => cases h; simp [occurrences, children, ExceptHandler.occurrences]
  | keyword k => cases k; simp [occurrences, children, Keyword.occurrences]
  | arg a => cases a; simp [occurrences, children, Arg.occurrences]
  | comprehension c => cases c; simp [occurrences, children, Comprehension.occurrences]
  | withItem item => simp [occurrences, children, WithItem.occurrences]
  | matchCase c => cases c; simp [occurrences, children, MatchCase.occurrences]

end Node

end AbcMetric
