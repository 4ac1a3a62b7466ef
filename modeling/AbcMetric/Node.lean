import AbcMetric.Source.Lines
import AbcMetric.Syntax.Stmt
import AbcMetric.Vector

/-!
# Nodes

A node is any construct of a module that can contribute to its metric or hold one that does. Match
patterns are no nodes: only the guard and the body of a `case` are looked into.

* `Node.children` lists what stands directly under a node, in the order in which it is visited.
* `Node.totalWeight_children_lt` says that the children are smaller than the node, so visits end.

This is the program's view of a syntax tree, construct by construct. Not modelled: which node is
which, since nodes are values; they are told apart by their places in a walk.
-/

namespace AbcMetric

/-- A construct of a module. The last three have no place of their own. -/
inductive Node where
  | stmt (stmt : Stmt)
  | expr (expr : Expr)
  | handler (handler : ExceptHandler)
  | keyword (keyword : Keyword)
  | arg (arg : Arg)
  | comprehension (comprehension : Comprehension)
  | withItem (item : WithItem)
  | matchCase (case : MatchCase)

namespace Node

/-- The grammatical kind. -/
def kind : Node → String
  | .stmt s => s.kind
  | .expr e => e.kind
  | .handler _ => "ExceptHandler"
  | .keyword _ => "Keyword"
  | .arg _ => "Arg"
  | .comprehension _ => "Comprehension"
  | .withItem _ => "WithItem"
  | .matchCase _ => "MatchCase"

/-- Where the node starts, if it has a place. -/
def offset : Node → Option Nat
  | .stmt s => some s.span.start
  | .expr e => some e.span.start
  | .handler h => some h.span.start
  | .keyword k => some k.span.start
  | .arg a => some a.span.start
  | .comprehension _ | .withItem _ | .matchCase _ => none

/-- The line of the node, if it has a place. -/
def line (lines : LineIndex) (node : Node) : Option Nat :=
  node.offset.map lines.lineOf

/-- What a vector counted for the node remembers of it. -/
def origin (lines : LineIndex) (node : Node) : Origin :=
  ⟨node.kind, node.offset.getD 0, node.line lines⟩

/-! ## Children -/

/-- Expressions as nodes. -/
def ofExprs (es : List Expr) : List Node := es.map .expr

/-- An expression that may be missing, as nodes. -/
def ofOption : Option Expr → List Node
  | none => []
  | some e => [.expr e]

/-- Statements as nodes. -/
def ofStmts (ss : List Stmt) : List Node := ss.map .stmt

/-- A parameter: its name, then its default. -/
def ofParam (p : Param) : List Node := .arg p.arg :: ofOption p.default

/-- A parameter name that may be missing. -/
def ofArg : Option Arg → List Node
  | none => []
  | some a => [.arg a]

/-- The parameters of a function; the starred ones come last. -/
def ofParams (ps : Params) : List Node :=
  ps.positionalOnly.flatMap ofParam ++ ps.regular.flatMap ofParam ++
    ps.keywordOnly.flatMap ofParam ++ ofArg ps.vararg ++ ofArg ps.kwarg

/-- Type parameters; only the bound of a type variable is an expression. -/
def ofTypeParam : TypeParam → List Node
  | .typeVar _ _ bound => ofOption bound
  | .paramSpec .. | .typeVarTuple .. => []

/-- The key of a dictionary entry. -/
def ofKey : DictItem → List Node
  | .pair key _ => [.expr key]
  | .spread _ => []

/-- The value of a dictionary entry. -/
def ofValue : DictItem → Node
  | .pair _ value => .expr value
  | .spread value => .expr value

/-- What stands directly under a statement. -/
def ofStmt : Stmt → List Node
  | .functionDef _ _ _ params body decorators returns typeParams =>
    ofExprs decorators ++ typeParams.flatMap ofTypeParam ++ ofParams params ++ ofOption returns ++
      ofStmts body
  | .classDef _ _ bases keywords body decorators typeParams =>
    ofExprs decorators ++ typeParams.flatMap ofTypeParam ++ ofExprs bases ++
      keywords.map .keyword ++ ofStmts body
  | .returnValue _ value => ofOption value
  | .delete _ targets => ofExprs targets
  | .assign _ targets value => ofExprs targets ++ [.expr value]
  | .typeAlias _ name typeParams value =>
    .expr name :: typeParams.flatMap ofTypeParam ++ [.expr value]
  | .augAssign _ target _ value => [.expr target, .expr value]
  | .annAssign _ target hint value => .expr target :: .expr hint :: ofOption value
  | .forLoop _ _ target iter body orelse =>
    .expr target :: .expr iter :: ofStmts body ++ ofStmts orelse
  | .whileLoop _ test body orelse => .expr test :: ofStmts body ++ ofStmts orelse
  | .ifElse _ test body orelse => .expr test :: ofStmts body ++ ofStmts orelse
  | .withBlock _ _ items body => items.map .withItem ++ ofStmts body
  | .matchCases _ subject cases => .expr subject :: cases.map .matchCase
  | .raise _ exc cause => ofOption exc ++ ofOption cause
  | .tryBlock _ _ body handlers orelse final =>
    ofStmts body ++ handlers.map .handler ++ ofStmts orelse ++ ofStmts final
  | .assertTest _ test msg => .expr test :: ofOption msg
  | .expr _ value => [.expr value]
  | .importModules .. | .importFrom .. | .global .. | .nonlocal .. | .pass _ | .breakLoop _
  | .continueLoop _ => []

/-- What stands directly under an expression. -/
def ofExpr : Expr → List Node
  | .boolOp _ _ values => ofExprs values
  | .namedExpr _ target value => [.expr target, .expr value]
  | .binOp _ left _ right => [.expr left, .expr right]
  | .unaryOp _ _ operand => [.expr operand]
  | .lambda _ params body => ofParams params ++ [.expr body]
  | .ifExp _ test body orelse => [.expr test, .expr body, .expr orelse]
  | .dict _ items => items.flatMap ofKey ++ items.map ofValue
  | .set _ elts => ofExprs elts
  | .listComp _ elt generators => .expr elt :: generators.map .comprehension
  | .setComp _ elt generators => .expr elt :: generators.map .comprehension
  | .dictComp _ key value generators =>
    .expr key :: .expr value :: generators.map .comprehension
  | .generatorExp _ elt generators => .expr elt :: generators.map .comprehension
  | .await _ value => [.expr value]
  | .yield _ value => ofOption value
  | .yieldFrom _ value => [.expr value]
  | .compare _ left links => .expr left :: links.map (.expr ·.operand)
  | .call _ func args keywords => .expr func :: ofExprs args ++ keywords.map .keyword
  | .formattedValue _ value _ formatSpec => .expr value :: ofOption formatSpec
  | .joinedStr _ values => ofExprs values
  | .attr _ value _ _ => [.expr value]
  | .subscript _ value slice _ => [.expr value, .expr slice]
  | .starred _ value _ => [.expr value]
  | .list _ elts _ => ofExprs elts
  | .tuple _ elts _ => ofExprs elts
  | .slice _ lower upper step => ofOption lower ++ ofOption upper ++ ofOption step
  | .constant .. | .name .. => []

/-- What stands directly under a node, in the order in which it is visited. -/
def children : Node → List Node
  | .stmt s => ofStmt s
  | .expr e => ofExpr e
  | .handler h => ofOption h.type ++ ofStmts h.body
  | .keyword k => [.expr k.value]
  | .arg a => ofOption a.hint
  | .comprehension c => .expr c.target :: .expr c.iter :: ofExprs c.conditions
  | .withItem item => .expr item.context :: ofOption item.vars
  | .matchCase c => ofOption c.guard ++ ofStmts c.body

/-! ## Children are smaller -/

/-- The size of the construct that a node stands for. -/
noncomputable def weight : Node → Nat
  | .stmt s => sizeOf s
  | .expr e => sizeOf e
  | .handler h => sizeOf h
  | .keyword k => sizeOf k
  | .arg a => sizeOf a
  | .comprehension c => sizeOf c
  | .withItem item => sizeOf item
  | .matchCase c => sizeOf c

@[simp]
theorem weight_stmt (s : Stmt) : weight (.stmt s) = sizeOf s := rfl

@[simp]
theorem weight_expr (e : Expr) : weight (.expr e) = sizeOf e := rfl

@[simp]
theorem weight_handler (h : ExceptHandler) : weight (.handler h) = sizeOf h := rfl

@[simp]
theorem weight_keyword (k : Keyword) : weight (.keyword k) = sizeOf k := rfl

@[simp]
theorem weight_arg (a : Arg) : weight (.arg a) = sizeOf a := rfl

@[simp]
theorem weight_comprehension (c : Comprehension) : weight (.comprehension c) = sizeOf c := rfl

@[simp]
theorem weight_withItem (i : WithItem) : weight (.withItem i) = sizeOf i := rfl

@[simp]
theorem weight_matchCase (c : MatchCase) : weight (.matchCase c) = sizeOf c := rfl

/-- The size of a list of nodes: that of its members together. -/
noncomputable def totalWeight : List Node → Nat
  | [] => 0
  | n :: ns => weight n + totalWeight ns

@[simp]
theorem totalWeight_nil : totalWeight [] = 0 := rfl

@[simp]
theorem totalWeight_cons (n : Node) (ns : List Node) :
    totalWeight (n :: ns) = weight n + totalWeight ns := rfl

@[simp]
theorem totalWeight_append (ns ms : List Node) :
    totalWeight (ns ++ ms) = totalWeight ns + totalWeight ms := by
  induction ns with
  | nil => simp
  | cons n ns ih => simp [ih, Nat.add_assoc]

theorem totalWeight_map_le {α : Type} [SizeOf α] {f : α → Node}
    (hf : ∀ a, weight (f a) ≤ sizeOf a) (as : List α) : totalWeight (as.map f) < sizeOf as := by
  induction as with
  | nil => simp
  | cons a as ih => have := hf a; simp; omega

theorem totalWeight_flatMap_le {α : Type} [SizeOf α] {f : α → List Node}
    (hf : ∀ a, totalWeight (f a) ≤ sizeOf a) (as : List α) :
    totalWeight (as.flatMap f) < sizeOf as := by
  induction as with
  | nil => simp
  | cons a as ih => have := hf a; simp; omega

theorem totalWeight_ofExprs (es : List Expr) : totalWeight (ofExprs es) < sizeOf es :=
  totalWeight_map_le (fun _ => Nat.le_refl _) es

theorem totalWeight_ofStmts (ss : List Stmt) : totalWeight (ofStmts ss) < sizeOf ss :=
  totalWeight_map_le (fun _ => Nat.le_refl _) ss

theorem totalWeight_ofOption (o : Option Expr) : totalWeight (ofOption o) ≤ sizeOf o := by
  cases o <;> simp [ofOption]

theorem totalWeight_ofArg (o : Option Arg) : totalWeight (ofArg o) ≤ sizeOf o := by
  cases o <;> simp [ofArg]

theorem totalWeight_ofParam (p : Param) : totalWeight (ofParam p) ≤ sizeOf p := by
  have := totalWeight_ofOption p.default
  cases p
  simp [ofParam] at *
  omega

theorem totalWeight_ofParams (ps : Params) : totalWeight (ofParams ps) < sizeOf ps := by
  have h1 := totalWeight_flatMap_le totalWeight_ofParam ps.positionalOnly
  have h2 := totalWeight_flatMap_le totalWeight_ofParam ps.regular
  have h3 := totalWeight_flatMap_le totalWeight_ofParam ps.keywordOnly
  have h4 := totalWeight_ofArg ps.vararg
  have h5 := totalWeight_ofArg ps.kwarg
  cases ps
  simp [ofParams] at *
  omega

theorem totalWeight_ofTypeParam (t : TypeParam) : totalWeight (ofTypeParam t) ≤ sizeOf t := by
  cases t with
  | typeVar s name bound =>
    have := totalWeight_ofOption bound
    simp only [ofTypeParam, TypeParam.typeVar.sizeOf_spec]
    omega
  | _ => simp [ofTypeParam]

theorem totalWeight_dictItems (items : List DictItem) :
    totalWeight (items.flatMap ofKey) + totalWeight (items.map ofValue) < sizeOf items := by
  induction items with
  | nil => simp
  | cons item items ih => cases item <;> simp [ofKey, ofValue] <;> omega

theorem totalWeight_ofExpr_lt (e : Expr) : totalWeight (ofExpr e) < sizeOf e := by
  cases e with
  | boolOp s op values =>
    have := totalWeight_ofExprs values
    simp only [ofExpr, Expr.boolOp.sizeOf_spec]
    omega
  | namedExpr s target value =>
    simp only [ofExpr, totalWeight_cons, totalWeight_nil, weight_expr, Expr.namedExpr.sizeOf_spec]
    omega
  | binOp s left op right =>
    simp only [ofExpr, totalWeight_cons, totalWeight_nil, weight_expr, Expr.binOp.sizeOf_spec]
    omega
  | unaryOp s op operand =>
    simp only [ofExpr, totalWeight_cons, totalWeight_nil, weight_expr, Expr.unaryOp.sizeOf_spec]
    omega
  | lambda s params body =>
    have := totalWeight_ofParams params
    simp only [ofExpr, totalWeight_append, totalWeight_cons, totalWeight_nil, weight_expr,
      Expr.lambda.sizeOf_spec]
    omega
  | ifExp s test body orelse =>
    simp only [ofExpr, totalWeight_cons, totalWeight_nil, weight_expr, Expr.ifExp.sizeOf_spec]
    omega
  | dict s items =>
    have := totalWeight_dictItems items
    simp only [ofExpr, totalWeight_append, Expr.dict.sizeOf_spec]
    omega
  | set s elts =>
    have := totalWeight_ofExprs elts
    simp only [ofExpr, Expr.set.sizeOf_spec]
    omega
  | listComp s elt gs | setComp s elt gs | generatorExp s elt gs | dictComp s key value gs =>
    have := totalWeight_map_le (f := .comprehension) (fun _ => Nat.le_refl _) gs
    simp only [ofExpr, totalWeight_cons, weight_expr, Expr.listComp.sizeOf_spec,
      Expr.setComp.sizeOf_spec, Expr.generatorExp.sizeOf_spec, Expr.dictComp.sizeOf_spec]
    omega
  | await s value =>
    simp only [ofExpr, totalWeight_cons, totalWeight_nil, weight_expr, Expr.await.sizeOf_spec]
    omega
  | yield s value =>
    have := totalWeight_ofOption value
    simp only [ofExpr, Expr.yield.sizeOf_spec]
    omega
  | yieldFrom s value =>
    simp only [ofExpr, totalWeight_cons, totalWeight_nil, weight_expr, Expr.yieldFrom.sizeOf_spec]
    omega
  | compare s left links =>
    have := totalWeight_map_le (f := (.expr ·.operand)) (fun l => by cases l; simp) links
    simp only [ofExpr, totalWeight_cons, weight_expr, Expr.compare.sizeOf_spec]
    omega
  | call s func args keywords =>
    have := totalWeight_ofExprs args
    have := totalWeight_map_le (f := .keyword) (fun _ => Nat.le_refl _) keywords
    simp only [ofExpr, totalWeight_append, totalWeight_cons, weight_expr, Expr.call.sizeOf_spec]
    omega
  | formattedValue s value conversion spec =>
    have := totalWeight_ofOption spec
    simp only [ofExpr, totalWeight_cons, weight_expr, Expr.formattedValue.sizeOf_spec]
    omega
  | joinedStr s values =>
    have := totalWeight_ofExprs values
    simp only [ofExpr, Expr.joinedStr.sizeOf_spec]
    omega
  | constant s value mark =>
    simp only [ofExpr, totalWeight_nil, Expr.constant.sizeOf_spec]
    omega
  | attr s value name usage =>
    simp only [ofExpr, totalWeight_cons, totalWeight_nil, weight_expr, Expr.attr.sizeOf_spec]
    omega
  | subscript s value slice usage =>
    simp only [ofExpr, totalWeight_cons, totalWeight_nil, weight_expr, Expr.subscript.sizeOf_spec]
    omega
  | starred s value usage =>
    simp only [ofExpr, totalWeight_cons, totalWeight_nil, weight_expr, Expr.starred.sizeOf_spec]
    omega
  | name s id usage =>
    simp only [ofExpr, totalWeight_nil, Expr.name.sizeOf_spec]
    omega
  | list s elts usage | tuple s elts usage =>
    have := totalWeight_ofExprs elts
    simp only [ofExpr, Expr.list.sizeOf_spec, Expr.tuple.sizeOf_spec]
    omega
  | slice s lower upper step =>
    have := totalWeight_ofOption lower
    have := totalWeight_ofOption upper
    have := totalWeight_ofOption step
    simp only [ofExpr, totalWeight_append, Expr.slice.sizeOf_spec]
    omega

theorem totalWeight_ofStmt_lt (s : Stmt) : totalWeight (ofStmt s) < sizeOf s := by
  cases s with
  | functionDef s isAsync name params body decorators returns typeParams =>
    have := totalWeight_ofExprs decorators
    have := totalWeight_flatMap_le totalWeight_ofTypeParam typeParams
    have := totalWeight_ofParams params
    have := totalWeight_ofOption returns
    have := totalWeight_ofStmts body
    simp only [ofStmt, totalWeight_append, Stmt.functionDef.sizeOf_spec]
    omega
  | classDef s name bases keywords body decorators typeParams =>
    have := totalWeight_ofExprs decorators
    have := totalWeight_flatMap_le totalWeight_ofTypeParam typeParams
    have := totalWeight_ofExprs bases
    have := totalWeight_map_le (f := .keyword) (fun _ => Nat.le_refl _) keywords
    have := totalWeight_ofStmts body
    simp only [ofStmt, totalWeight_append, Stmt.classDef.sizeOf_spec]
    omega
  | returnValue s value =>
    have := totalWeight_ofOption value
    simp only [ofStmt, Stmt.returnValue.sizeOf_spec]
    omega
  | delete s targets =>
    have := totalWeight_ofExprs targets
    simp only [ofStmt, Stmt.delete.sizeOf_spec]
    omega
  | assign s targets value =>
    have := totalWeight_ofExprs targets
    simp only [ofStmt, totalWeight_append, totalWeight_cons, totalWeight_nil, weight_expr,
      Stmt.assign.sizeOf_spec]
    omega
  | typeAlias s name typeParams value =>
    have := totalWeight_flatMap_le totalWeight_ofTypeParam typeParams
    simp only [ofStmt, totalWeight_append, totalWeight_cons, totalWeight_nil, weight_expr,
      Stmt.typeAlias.sizeOf_spec]
    omega
  | augAssign s target op value =>
    simp only [ofStmt, totalWeight_cons, totalWeight_nil, weight_expr, Stmt.augAssign.sizeOf_spec]
    omega
  | annAssign s target hint value =>
    have := totalWeight_ofOption value
    simp only [ofStmt, totalWeight_cons, weight_expr, Stmt.annAssign.sizeOf_spec]
    omega
  | forLoop s isAsync target iter body orelse =>
    have := totalWeight_ofStmts body
    have := totalWeight_ofStmts orelse
    simp only [ofStmt, totalWeight_append, totalWeight_cons, weight_expr, Stmt.forLoop.sizeOf_spec]
    omega
  | whileLoop s test body orelse | ifElse s test body orelse =>
    have := totalWeight_ofStmts body
    have := totalWeight_ofStmts orelse
    simp only [ofStmt, totalWeight_append, totalWeight_cons, weight_expr,
      Stmt.whileLoop.sizeOf_spec, Stmt.ifElse.sizeOf_spec]
    omega
  | withBlock s isAsync items body =>
    have := totalWeight_map_le (f := .withItem) (fun _ => Nat.le_refl _) items
    have := totalWeight_ofStmts body
    simp only [ofStmt, totalWeight_append, Stmt.withBlock.sizeOf_spec]
    omega
  | matchCases s subject cases =>
    have := totalWeight_map_le (f := .matchCase) (fun _ => Nat.le_refl _) cases
    simp only [ofStmt, totalWeight_cons, weight_expr, Stmt.matchCases.sizeOf_spec]
    omega
  | raise s exc cause =>
    have := totalWeight_ofOption exc
    have := totalWeight_ofOption cause
    simp only [ofStmt, totalWeight_append, Stmt.raise.sizeOf_spec]
    omega
  | tryBlock s isStar body handlers orelse final =>
    have := totalWeight_ofStmts body
    have := totalWeight_map_le (f := .handler) (fun _ => Nat.le_refl _) handlers
    have := totalWeight_ofStmts orelse
    have := totalWeight_ofStmts final
    simp only [ofStmt, totalWeight_append, Stmt.tryBlock.sizeOf_spec]
    omega
  | assertTest s test msg =>
    have := totalWeight_ofOption msg
    simp only [ofStmt, totalWeight_cons, weight_expr, Stmt.assertTest.sizeOf_spec]
    omega
  | expr s value =>
    simp only [ofStmt, totalWeight_cons, totalWeight_nil, weight_expr, Stmt.expr.sizeOf_spec]
    omega
  | importModules s names | importFrom s module names level | global s names | nonlocal s names =>
    simp only [ofStmt, totalWeight_nil, Stmt.importModules.sizeOf_spec, Stmt.importFrom.sizeOf_spec,
      Stmt.global.sizeOf_spec, Stmt.nonlocal.sizeOf_spec]
    omega
  | pass s | breakLoop s | continueLoop s =>
    simp only [ofStmt, totalWeight_nil, Stmt.pass.sizeOf_spec, Stmt.breakLoop.sizeOf_spec,
      Stmt.continueLoop.sizeOf_spec]
    omega

/-- The children of a node together are smaller than the node. -/
theorem totalWeight_children_lt (n : Node) : totalWeight n.children < weight n := by
  cases n with
  | stmt s => simpa [children] using totalWeight_ofStmt_lt s
  | expr e => simpa [children] using totalWeight_ofExpr_lt e
  | handler h =>
    have h1 := totalWeight_ofOption h.type
    have h2 := totalWeight_ofStmts h.body
    cases h
    simp [children] at *
    omega
  | keyword k =>
    cases k
    simp only [children, totalWeight_cons, totalWeight_nil, weight_expr, weight_keyword,
      Keyword.mk.sizeOf_spec]
    omega
  | arg a =>
    have := totalWeight_ofOption a.hint
    cases a
    simp [children] at *
    omega
  | comprehension c =>
    have := totalWeight_ofExprs c.conditions
    cases c
    simp [children] at *
    omega
  | withItem i =>
    have := totalWeight_ofOption i.vars
    cases i
    simp [children] at *
    omega
  | matchCase c =>
    have h1 := totalWeight_ofOption c.guard
    have h2 := totalWeight_ofStmts c.body
    cases c
    simp [children] at *
    omega

end Node

end AbcMetric
