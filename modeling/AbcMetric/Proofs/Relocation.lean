import AbcMetric.Proofs.Credits
import AbcMetric.Proofs.Traversal
import Mathlib.Data.List.Basic

/-!
# Moving a syntax tree

`relocate f` puts every construct of a syntax tree at the place that `f` gives for its old one, and
changes nothing else; match patterns are moved too. What does not look at places goes along.

* `Node.children_relocate`: the children of a moved node are its children, moved. So are the nodes
  of a preorder (`Node.preorder_relocate`) and of a walk (`walk_relocate`).
* `Node.credits_relocate`: a moved node has its credits, moved.
-/

namespace AbcMetric

/-! ## The operation -/

mutual

/-- The expression with every place moved by `f`. -/
def Expr.relocate (f : Span → Span) : Expr → Expr
  | .boolOp s op values => .boolOp (f s) op (relocateExprs f values)
  | .namedExpr s target value => .namedExpr (f s) (target.relocate f) (value.relocate f)
  | .binOp s left op right => .binOp (f s) (left.relocate f) op (right.relocate f)
  | .unaryOp s op operand => .unaryOp (f s) op (operand.relocate f)
  | .lambda s params body => .lambda (f s) (params.relocate f) (body.relocate f)
  | .ifExp s test body orelse =>
    .ifExp (f s) (test.relocate f) (body.relocate f) (orelse.relocate f)
  | .dict s items => .dict (f s) (relocateItems f items)
  | .set s elts => .set (f s) (relocateExprs f elts)
  | .listComp s elt generators =>
    .listComp (f s) (elt.relocate f) (relocateComprehensions f generators)
  | .setComp s elt generators =>
    .setComp (f s) (elt.relocate f) (relocateComprehensions f generators)
  | .dictComp s key value generators =>
    .dictComp (f s) (key.relocate f) (value.relocate f) (relocateComprehensions f generators)
  | .generatorExp s elt generators =>
    .generatorExp (f s) (elt.relocate f) (relocateComprehensions f generators)
  | .await s value => .await (f s) (value.relocate f)
  | .yield s value => .yield (f s) (relocateOption f value)
  | .yieldFrom s value => .yieldFrom (f s) (value.relocate f)
  | .compare s left links => .compare (f s) (left.relocate f) (relocateLinks f links)
  | .call s func args keywords =>
    .call (f s) (func.relocate f) (relocateExprs f args) (relocateKeywords f keywords)
  | .formattedValue s value conversion formatSpec =>
    .formattedValue (f s) (value.relocate f) conversion (relocateOption f formatSpec)
  | .joinedStr s values => .joinedStr (f s) (relocateExprs f values)
  | .constant s value mark => .constant (f s) value mark
  | .attr s value name usage => .attr (f s) (value.relocate f) name usage
  | .subscript s value slice usage =>
    .subscript (f s) (value.relocate f) (slice.relocate f) usage
  | .starred s value usage => .starred (f s) (value.relocate f) usage
  | .name s id usage => .name (f s) id usage
  | .list s elts usage => .list (f s) (relocateExprs f elts) usage
  | .tuple s elts usage => .tuple (f s) (relocateExprs f elts) usage
  | .slice s lower upper step =>
    .slice (f s) (relocateOption f lower) (relocateOption f upper) (relocateOption f step)

/-- Expressions, moved. -/
def relocateExprs (f : Span → Span) : List Expr → List Expr
  | [] => []
  | e :: rest => e.relocate f :: relocateExprs f rest

/-- An expression that may be missing, moved. -/
def relocateOption (f : Span → Span) : Option Expr → Option Expr
  | none => none
  | some e => some (e.relocate f)

/-- A dictionary entry, moved. -/
def DictItem.relocate (f : Span → Span) : DictItem → DictItem
  | .pair key value => .pair (key.relocate f) (value.relocate f)
  | .spread value => .spread (value.relocate f)

/-- Dictionary entries, moved. -/
def relocateItems (f : Span → Span) : List DictItem → List DictItem
  | [] => []
  | item :: rest => item.relocate f :: relocateItems f rest

/-- A link of a comparison, moved. -/
def CompareLink.relocate (f : Span → Span) : CompareLink → CompareLink
  | ⟨op, operand⟩ => ⟨op, operand.relocate f⟩

/-- Links of a comparison, moved. -/
def relocateLinks (f : Span → Span) : List CompareLink → List CompareLink
  | [] => []
  | link :: rest => link.relocate f :: relocateLinks f rest

/-- A comprehension clause, moved. -/
def Comprehension.relocate (f : Span → Span) : Comprehension → Comprehension
  | ⟨target, iter, conditions, isAsync⟩ =>
    ⟨target.relocate f, iter.relocate f, relocateExprs f conditions, isAsync⟩

/-- Comprehension clauses, moved. -/
def relocateComprehensions (f : Span → Span) : List Comprehension → List Comprehension
  | [] => []
  | c :: rest => c.relocate f :: relocateComprehensions f rest

/-- A named argument, moved. -/
def Keyword.relocate (f : Span → Span) : Keyword → Keyword
  | ⟨s, arg, value⟩ => ⟨f s, arg, value.relocate f⟩

/-- Named arguments, moved. -/
def relocateKeywords (f : Span → Span) : List Keyword → List Keyword
  | [] => []
  | k :: rest => k.relocate f :: relocateKeywords f rest

/-- A parameter name, moved. -/
def Arg.relocate (f : Span → Span) : Arg → Arg
  | ⟨s, name, hint⟩ => ⟨f s, name, relocateOption f hint⟩

/-- A parameter name that may be missing, moved. -/
def relocateArg (f : Span → Span) : Option Arg → Option Arg
  | none => none
  | some a => some (a.relocate f)

/-- A parameter, moved. -/
def Param.relocate (f : Span → Span) : Param → Param
  | ⟨arg, default⟩ => ⟨arg.relocate f, relocateOption f default⟩

/-- Parameters of one kind, moved. -/
def relocateParams (f : Span → Span) : List Param → List Param
  | [] => []
  | p :: rest => p.relocate f :: relocateParams f rest

/-- The parameters of a function, moved. -/
def Params.relocate (f : Span → Span) : Params → Params
  | ⟨positionalOnly, regular, vararg, keywordOnly, kwarg⟩ =>
    ⟨relocateParams f positionalOnly, relocateParams f regular, relocateArg f vararg,
      relocateParams f keywordOnly, relocateArg f kwarg⟩

end

mutual

/-- A match pattern, moved. -/
def Pattern.relocate (f : Span → Span) : Pattern → Pattern
  | .value s value => .value (f s) (value.relocate f)
  | .singleton s value => .singleton (f s) value
  | .sequence s patterns => .sequence (f s) (relocatePatterns f patterns)
  | .mapping s entries rest => .mapping (f s) (relocateEntries f entries) rest
  | .classPattern s cls patterns named =>
    .classPattern (f s) (cls.relocate f) (relocatePatterns f patterns) (relocateNamed f named)
  | .star s name => .star (f s) name
  | .capture s pattern name => .capture (f s) (relocatePattern f pattern) name
  | .alternatives s patterns => .alternatives (f s) (relocatePatterns f patterns)

/-- Match patterns, moved. -/
def relocatePatterns (f : Span → Span) : List Pattern → List Pattern
  | [] => []
  | p :: rest => p.relocate f :: relocatePatterns f rest

/-- A match pattern that may be missing, moved. -/
def relocatePattern (f : Span → Span) : Option Pattern → Option Pattern
  | none => none
  | some p => some (p.relocate f)

/-- Entries of a mapping pattern, moved. -/
def relocateEntries (f : Span → Span) : List MappingEntry → List MappingEntry
  | [] => []
  | ⟨key, pattern⟩ :: rest => ⟨key.relocate f, pattern.relocate f⟩ :: relocateEntries f rest

/-- Attributes of a class pattern, moved. -/
def relocateNamed (f : Span → Span) : List NamedPattern → List NamedPattern
  | [] => []
  | ⟨name, pattern⟩ :: rest => ⟨name, pattern.relocate f⟩ :: relocateNamed f rest

end

/-- A type parameter, moved. -/
def TypeParam.relocate (f : Span → Span) : TypeParam → TypeParam
  | .typeVar s name bound => .typeVar (f s) name (relocateOption f bound)
  | .paramSpec s name => .paramSpec (f s) name
  | .typeVarTuple s name => .typeVarTuple (f s) name

/-- An imported name, moved. -/
def Alias.relocate (f : Span → Span) (a : Alias) : Alias := { a with span := f a.span }

/-- A context manager, moved. -/
def WithItem.relocate (f : Span → Span) (item : WithItem) : WithItem :=
  ⟨item.context.relocate f, relocateOption f item.vars⟩

mutual

/-- The statement with every place moved by `f`. -/
def Stmt.relocate (f : Span → Span) : Stmt → Stmt
  | .functionDef s isAsync name params body decorators returns typeParams =>
    .functionDef (f s) isAsync name (params.relocate f) (relocateStmts f body)
      (relocateExprs f decorators) (relocateOption f returns) (typeParams.map (·.relocate f))
  | .classDef s name bases keywords body decorators typeParams =>
    .classDef (f s) name (relocateExprs f bases) (relocateKeywords f keywords)
      (relocateStmts f body) (relocateExprs f decorators) (typeParams.map (·.relocate f))
  | .returnValue s value => .returnValue (f s) (relocateOption f value)
  | .delete s targets => .delete (f s) (relocateExprs f targets)
  | .assign s targets value => .assign (f s) (relocateExprs f targets) (value.relocate f)
  | .typeAlias s name typeParams value =>
    .typeAlias (f s) (name.relocate f) (typeParams.map (·.relocate f)) (value.relocate f)
  | .augAssign s target op value => .augAssign (f s) (target.relocate f) op (value.relocate f)
  | .annAssign s target hint value =>
    .annAssign (f s) (target.relocate f) (hint.relocate f) (relocateOption f value)
  | .forLoop s isAsync target iter body orelse =>
    .forLoop (f s) isAsync (target.relocate f) (iter.relocate f) (relocateStmts f body)
      (relocateStmts f orelse)
  | .whileLoop s test body orelse =>
    .whileLoop (f s) (test.relocate f) (relocateStmts f body) (relocateStmts f orelse)
  | .ifElse s test body orelse =>
    .ifElse (f s) (test.relocate f) (relocateStmts f body) (relocateStmts f orelse)
  | .withBlock s isAsync items body =>
    .withBlock (f s) isAsync (items.map (·.relocate f)) (relocateStmts f body)
  | .matchCases s subject cases => .matchCases (f s) (subject.relocate f) (relocateCases f cases)
  | .raise s exc cause => .raise (f s) (relocateOption f exc) (relocateOption f cause)
  | .tryBlock s isStar body handlers orelse final =>
    .tryBlock (f s) isStar (relocateStmts f body) (relocateHandlers f handlers)
      (relocateStmts f orelse) (relocateStmts f final)
  | .assertTest s test msg => .assertTest (f s) (test.relocate f) (relocateOption f msg)
  | .importModules s names => .importModules (f s) (names.map (·.relocate f))
  | .importFrom s module names level => .importFrom (f s) module (names.map (·.relocate f)) level
  | .global s names => .global (f s) names
  | .nonlocal s names => .nonlocal (f s) names
  | .expr s value => .expr (f s) (value.relocate f)
  | .pass s => .pass (f s)
  | .breakLoop s => .breakLoop (f s)
  | .continueLoop s => .continueLoop (f s)

/-- Statements, moved. -/
def relocateStmts (f : Span → Span) : List Stmt → List Stmt
  | [] => []
  | s :: rest => s.relocate f :: relocateStmts f rest

/-- An `except` clause, moved. -/
def ExceptHandler.relocate (f : Span → Span) : ExceptHandler → ExceptHandler
  | ⟨s, type, name, body⟩ => ⟨f s, relocateOption f type, name, relocateStmts f body⟩

/-- `except` clauses, moved. -/
def relocateHandlers (f : Span → Span) : List ExceptHandler → List ExceptHandler
  | [] => []
  | h :: rest => h.relocate f :: relocateHandlers f rest

/-- A `case` clause, moved. -/
def MatchCase.relocate (f : Span → Span) : MatchCase → MatchCase
  | ⟨pattern, guard, body⟩ => ⟨pattern.relocate f, relocateOption f guard, relocateStmts f body⟩

/-- `case` clauses, moved. -/
def relocateCases (f : Span → Span) : List MatchCase → List MatchCase
  | [] => []
  | c :: rest => c.relocate f :: relocateCases f rest

end

/-- A node, moved. -/
def Node.relocate (f : Span → Span) : Node → Node
  | .stmt s => .stmt (s.relocate f)
  | .expr e => .expr (e.relocate f)
  | .handler h => .handler (h.relocate f)
  | .keyword k => .keyword (k.relocate f)
  | .arg a => .arg (a.relocate f)
  | .comprehension c => .comprehension (c.relocate f)
  | .withItem item => .withItem (item.relocate f)
  | .matchCase c => .matchCase (c.relocate f)

/-- A credit for moved nodes. -/
def Credit.relocate (f : Span → Span) : Credit → Credit
  | .nothing n => .nothing (n.relocate f)
  | .assignment n => .assignment (n.relocate f)
  | .branch n => .branch (n.relocate f)
  | .condition n => .condition (n.relocate f)
  | .alternative owner first => .alternative (owner.relocate f) (first.relocate f)

/-! ## Places and kinds -/

section

variable (f : Span → Span)

@[simp]
theorem Expr.span_relocate (e : Expr) : (e.relocate f).span = f e.span := by
  cases e <;> rfl

@[simp]
theorem Stmt.span_relocate (s : Stmt) : (s.relocate f).span = f s.span := by
  cases s <;> rfl

theorem Node.kind_relocate (n : Node) : (n.relocate f).kind = n.kind := by
  cases n with
  | stmt s =>
    cases s with
    | functionDef span isAsync | forLoop span isAsync | withBlock span isAsync =>
      cases isAsync <;> rfl
    | tryBlock span isStar => cases isStar <;> rfl
    | _ => rfl
  | expr e => cases e <;> rfl
  | _ => rfl

theorem Credit.node_relocate (c : Credit) :
    (c.relocate f).node = c.node.relocate f := by
  cases c <;> rfl

theorem Credit.counters_relocate (c : Credit) :
    (c.relocate f).counters = c.counters := by
  cases c <;> rfl

/-! ## Lists of constructs -/

/-- A list that is moved member by member. -/
theorem eq_map_of_cons {α β : Type} {g : α → β} {moved : List α → List β} (hnil : moved [] = [])
    (hcons : ∀ a as, moved (a :: as) = g a :: moved as) (as : List α) : moved as = as.map g := by
  induction as with
  | nil => exact hnil
  | cons a as ih => rw [hcons, ih, List.map_cons]

@[simp]
theorem relocateExprs_eq (es : List Expr) : relocateExprs f es = es.map (Expr.relocate f) :=
  eq_map_of_cons rfl (fun _ _ => rfl) es

@[simp]
theorem relocateItems_eq (items : List DictItem) :
    relocateItems f items = items.map (DictItem.relocate f) :=
  eq_map_of_cons rfl (fun _ _ => rfl) items

@[simp]
theorem relocateLinks_eq (links : List CompareLink) :
    relocateLinks f links = links.map (CompareLink.relocate f) :=
  eq_map_of_cons rfl (fun _ _ => rfl) links

@[simp]
theorem relocateComprehensions_eq (cs : List Comprehension) :
    relocateComprehensions f cs = cs.map (Comprehension.relocate f) :=
  eq_map_of_cons rfl (fun _ _ => rfl) cs

@[simp]
theorem relocateKeywords_eq (ks : List Keyword) :
    relocateKeywords f ks = ks.map (Keyword.relocate f) :=
  eq_map_of_cons rfl (fun _ _ => rfl) ks

@[simp]
theorem relocateParams_eq (ps : List Param) : relocateParams f ps = ps.map (Param.relocate f) :=
  eq_map_of_cons rfl (fun _ _ => rfl) ps

@[simp]
theorem relocateStmts_eq (ss : List Stmt) : relocateStmts f ss = ss.map (Stmt.relocate f) :=
  eq_map_of_cons rfl (fun _ _ => rfl) ss

@[simp]
theorem relocateHandlers_eq (hs : List ExceptHandler) :
    relocateHandlers f hs = hs.map (ExceptHandler.relocate f) :=
  eq_map_of_cons rfl (fun _ _ => rfl) hs

@[simp]
theorem relocateCases_eq (cs : List MatchCase) :
    relocateCases f cs = cs.map (MatchCase.relocate f) :=
  eq_map_of_cons rfl (fun _ _ => rfl) cs

end

/-! ## Children -/

namespace Node

variable (f : Span → Span)

@[simp]
theorem ofExprs_relocate (es : List Expr) :
    ofExprs (es.map (Expr.relocate f)) = (ofExprs es).map (relocate f) := by
  simp [ofExprs, relocate]

@[simp]
theorem ofStmts_relocate (ss : List Stmt) :
    ofStmts (ss.map (Stmt.relocate f)) = (ofStmts ss).map (relocate f) := by
  simp [ofStmts, relocate]

@[simp]
theorem ofOption_relocate (o : Option Expr) :
    ofOption (relocateOption f o) = (ofOption o).map (relocate f) := by
  cases o <;> rfl

@[simp]
theorem ofArg_relocate (o : Option Arg) :
    ofArg (relocateArg f o) = (ofArg o).map (relocate f) := by
  cases o <;> rfl

@[simp]
theorem ofTypeParam_relocate (t : TypeParam) :
    ofTypeParam (t.relocate f) = (ofTypeParam t).map (relocate f) := by
  cases t with
  | typeVar s name bound => exact ofOption_relocate f bound
  | paramSpec | typeVarTuple => rfl

@[simp]
theorem ofParam_relocate (p : Param) :
    ofParam (p.relocate f) = (ofParam p).map (relocate f) := by
  cases p
  simp [ofParam, Param.relocate, relocate]

@[simp]
theorem ofParams_relocate (ps : Params) :
    ofParams (ps.relocate f) = (ofParams ps).map (relocate f) := by
  cases ps
  simp [ofParams, Params.relocate, List.map_flatMap, List.flatMap_map]

@[simp]
theorem ofKey_relocate (item : DictItem) :
    ofKey (item.relocate f) = (ofKey item).map (relocate f) := by
  cases item <;> rfl

@[simp]
theorem ofValue_relocate (item : DictItem) :
    ofValue (item.relocate f) = (ofValue item).relocate f := by
  cases item <;> rfl

theorem ofExpr_relocate (e : Expr) : ofExpr (e.relocate f) = (ofExpr e).map (relocate f) := by
  cases e with
  | compare s left links =>
    simp only [Expr.relocate, ofExpr, relocateLinks_eq, List.map_cons, List.map_map]
    refine congrArg _ (List.map_congr_left fun link _ => ?_)
    cases link
    rfl
  | _ => simp [Expr.relocate, ofExpr, relocate, List.map_flatMap, List.flatMap_map]

theorem ofStmt_relocate (s : Stmt) : ofStmt (s.relocate f) = (ofStmt s).map (relocate f) := by
  cases s <;> simp [Stmt.relocate, ofStmt, relocate, List.map_flatMap, List.flatMap_map]

/-- **The children of a moved node are its children, moved.** -/
theorem children_relocate (n : Node) :
    (n.relocate f).children = n.children.map (relocate f) := by
  cases n with
  | stmt s => exact ofStmt_relocate f s
  | expr e => exact ofExpr_relocate f e
  | handler h => cases h; simp [relocate, children, ExceptHandler.relocate]
  | keyword k => cases k; simp [relocate, children, Keyword.relocate]
  | arg a => cases a; simp [relocate, children, Arg.relocate]
  | comprehension c => cases c; simp [relocate, children, Comprehension.relocate]
  | withItem item => simp [relocate, children, WithItem.relocate]
  | matchCase c => cases c; simp [relocate, children, MatchCase.relocate]

/-- **A moved node is visited like the node**, in the same order. -/
theorem preorder_relocate (n : Node) :
    (n.relocate f).preorder = n.preorder.map (relocate f) := by
  induction n using preorder.induct with
  | case1 n ih =>
    rw [preorder_eq, preorder_eq, children_relocate, List.map_cons, List.flatMap_map,
      List.map_flatMap]
    exact congrArg _ (List.flatMap_congr fun child hchild => ih ⟨child, hchild⟩)

end Node

/-- **A walk through a moved module** visits the nodes of the module, moved. -/
theorem walk_relocate (f : Span → Span) (body : List Stmt) :
    walk (relocateStmts f body) = (walk body).map (Node.relocate f) := by
  rw [walk_eq_preorder, walk_eq_preorder, relocateStmts_eq, Node.ofStmts_relocate,
    List.flatMap_map, List.map_flatMap]
  exact List.flatMap_congr fun n _ => n.preorder_relocate f

/-! ## Credits -/

section

variable (f : Span → Span)

@[simp]
theorem Expr.isSettledTest_relocate (e : Expr) :
    (e.relocate f).isSettledTest = e.isSettledTest := by
  cases e <;> rfl

@[simp]
theorem Expr.countsItself_relocate (e : Expr) : (e.relocate f).countsItself = e.countsItself := by
  cases e <;> rfl

@[simp]
theorem Expr.boundTargets_relocate (e : Expr) :
    (e.relocate f).boundTargets = e.boundTargets.map (Expr.relocate f) := by
  cases e <;> simp [Expr.relocate, Expr.boundTargets]

@[simp]
theorem firstOf_relocate (block : List Stmt) :
    firstOf (block.map (Stmt.relocate f)) = (firstOf block).map (Node.relocate f) := by
  cases block <;> rfl

theorem alternativeCredit_relocate (owner : Node) (first : Option Node) :
    alternativeCredit (owner.relocate f) (first.map (Node.relocate f)) =
      (alternativeCredit owner first).relocate f := by
  cases first <;> rfl

theorem conditionalCredits_relocate (owner : Node) (test : Expr) (first : Option Node) :
    conditionalCredits (owner.relocate f) (test.relocate f) (first.map (Node.relocate f)) =
      (conditionalCredits owner test first).map (Credit.relocate f) := by
  unfold conditionalCredits
  rw [Expr.isSettledTest_relocate, alternativeCredit_relocate]
  split <;> rfl

/-- The credits of expressions counted one by one, moved. -/
theorem map_credit_relocate {c : Node → Credit}
    (h : ∀ n : Node, c (n.relocate f) = (c n).relocate f) (es : List Expr) :
    ((es.map (Expr.relocate f)).map fun e => c (.expr e)) =
      (es.map fun e => c (.expr e)).map (Credit.relocate f) := by
  rw [List.map_map, List.map_map]
  exact List.map_congr_left fun e _ => h (.expr e)

theorem credits_relocate_stmt (s : Stmt) :
    (s.relocate f).credits = s.credits.map (Credit.relocate f) := by
  -- the credit of an alternative of the statement
  have alternative : ∀ block : List Stmt,
      [alternativeCredit (.stmt (s.relocate f)) (firstOf (block.map (Stmt.relocate f)))] =
        [alternativeCredit (.stmt s) (firstOf block)].map (Credit.relocate f) := by
    intro block
    rw [firstOf_relocate]
    exact congrArg ([·]) (alternativeCredit_relocate f (.stmt s) (firstOf block))
  cases s with
  | forLoop span isAsync target iter body orelse =>
    cases isAsync with
    | false =>
      have h := alternative orelse
      simp only [Stmt.relocate, relocateStmts_eq] at h ⊢
      exact h
    | true => rfl
  | whileLoop span test body orelse =>
    have h := alternative orelse
    simp only [Stmt.relocate, relocateStmts_eq] at h ⊢
    exact h
  | tryBlock span isStar body handlers orelse final =>
    cases isStar with
    | false =>
      have h := alternative orelse
      simp only [Stmt.relocate, relocateStmts_eq] at h ⊢
      exact h
    | true => rfl
  | assign span targets value =>
    simp only [Stmt.relocate, Stmt.credits, relocateExprs_eq, List.flatMap_map,
      Expr.boundTargets_relocate]
    rw [← List.map_flatMap]
    exact map_credit_relocate f (c := .assignment) (fun _ => rfl) _
  | ifElse span test body orelse =>
    have h := conditionalCredits_relocate f (.stmt (.ifElse span test body orelse)) test
      (firstOf orelse)
    rw [← firstOf_relocate] at h
    simp only [Node.relocate, Stmt.relocate, Stmt.credits, relocateStmts_eq] at h ⊢
    exact h
  | assertTest span test msg => cases test <;> rfl
  | _ => rfl

theorem credits_relocate_expr (e : Expr) :
    (e.relocate f).credits = e.credits.map (Credit.relocate f) := by
  cases e with
  | boolOp span op values =>
    have hfilter : (values.map (Expr.relocate f)).filter (!·.countsItself) =
        (values.filter (!·.countsItself)).map (Expr.relocate f) := by
      rw [List.filter_map]
      exact congrArg _ (List.filter_congr fun e _ => by simp)
    simp only [Expr.relocate, Expr.credits, relocateExprs_eq, hfilter]
    cases values.filter (!·.countsItself) with
    | nil =>
      simp [Credit.relocate, Node.relocate, Expr.relocate]
    | cons value counted =>
      exact map_credit_relocate f (c := .condition) (fun _ => rfl) (value :: counted)
  | ifExp span test body orelse =>
    exact conditionalCredits_relocate f (.expr (.ifExp span test body orelse)) test
      (some (.expr orelse))
  | _ => rfl

/-- **A moved node has its credits, moved.** -/
theorem Node.credits_relocate (n : Node) :
    (n.relocate f).credits = n.credits.map (Credit.relocate f) := by
  cases n with
  | stmt s => exact credits_relocate_stmt f s
  | expr e => exact credits_relocate_expr f e
  | handler | keyword | arg | comprehension | withItem | matchCase => rfl

end

end AbcMetric
