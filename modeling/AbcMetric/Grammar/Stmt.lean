import AbcMetric.Syntax.Stmt
import AbcMetric.Grammar.Pattern

/-!
# The statement grammar

A module is a list of simple lines and compound statements. A compound statement covers the tokens
from its first word to the end of its last statement; decorators stand before it.

* `parseModule` reads a source text into a list of statements, or finds its first fault.

Not modelled: comments of types, and texts that are one expression or interactive input, which the
program never asks for.
-/

namespace AbcMetric

/-- The expression and pattern rules, and the statement rule that others call again: the statements
of an indented or one-line block. -/
structure StmtRules where
  rules : Rules
  patterns : PatternRules
  suite : Parser (List Stmt)

/-- Where the last of the statements stops. -/
def stopOf (stop : Nat) (body : List Stmt) : Nat :=
  (body.getLast?.map (·.span.stop)).getD stop

namespace StmtRules

open AbcMetric.Parser

/-! ## Simple statements -/

/-- An expression, an assignment or an annotation. -/
def exprStmt (r : Rules) : Parser Stmt := do
  let start ← place
  let isStarred := (← peek) = some (.punct .star)
  let first ← r.element
  if ← acceptIf (!isStarred) (.punct .colon) then
    let hint ← r.test
    let value ← if ← accept (.punct .equal) then some <$> r.testListOrYield else pure none
    return .annAssign (← since start) (first.withUsage .store) hint value
  else
    let target ← match ← commaTail startsElement r.element [first] r.budget with
      | ([single], false) => pure single
      | (elts, _) => pure (.tuple (← since start) elts .load)
    match (← peek).bind augmentedOperator? with
    | some op =>
      let _ ← advance
      let value ← r.testListOrYield
      return .augAssign (← since start) (target.withUsage .store) op value
    | none =>
      let next : Parser Expr := do
        expect (.punct .equal)
        r.testListOrYield
      let values ← manyWhile (· = .punct .equal) next [] r.budget
      match values.getLast? with
      | some value =>
        let targets := (target :: values.dropLast).map (·.withUsage .store)
        return .assign (← since start) targets value
      | none => return .expr (← since start) target

/-- A dotted name. -/
def dottedName (r : Rules) : Parser String := do
  let first ← identifier
  let next : Parser String := do
    expect (.punct .dot)
    return "." ++ (← identifier)
  let more ← manyWhile (· = .punct .dot) next [] r.budget
  return String.join (first :: more)

/-- An imported name with what it is bound to. -/
def aliasOf (name : Parser String) : Parser Alias := do
  let start ← place
  let name ← name
  if ← accept (.word .asKw) then
    let asname ← identifier
    return ⟨← since start, name, some asname⟩
  else return ⟨← since start, name, none⟩

/-- Elements with commas between, and none behind the last. -/
def strictList {α : Type} (r : Rules) (element : Parser α) : Parser (List α) := do
  let first ← element
  let next : Parser α := do
    expect (.punct .comma)
    element
  let more ← manyWhile (· = .punct .comma) next [] r.budget
  return first :: more

/-- The dots before the module of a relative import. -/
def importLevel (r : Rules) : Parser Nat := do
  let starts (t : Token) : Bool := t = .punct .dot || t = .punct .ellipsis
  let dots ← manyWhile starts advance [] r.budget
  return dots.foldl (fun level l => level + if l.token = .punct .dot then 1 else 3) 0

/-- What an import takes from a module. -/
def importedNames (r : Rules) : Parser (List Alias) := do
  let start ← place
  if ← accept (.punct .star) then return [⟨← since start, "*", none⟩]
  else if ← accept (.punct .lpar) then
    let starts : Token → Bool
      | .name _ => true
      | _ => false
    let (names, _) ← commaList r.budget starts (aliasOf identifier)
    expect (.punct .rpar)
    return names
  else strictList r (aliasOf identifier)

/-- `from … import …`. -/
def importFrom (r : Rules) : Parser Stmt := do
  let start ← place
  expect (.word .fromKw)
  let level ← importLevel r
  let module ←
    if level ≠ 0 && (← peek) = some (.word .importKw) then pure none
    else some <$> dottedName r
  expect (.word .importKw)
  let names ← importedNames r
  return .importFrom (← since start) module names level

/-- One type parameter. -/
def typeParam (r : Rules) : Parser TypeParam := do
  let start ← place
  if ← accept (.punct .star) then
    let name ← identifier
    return .typeVarTuple (← since start) name
  else if ← accept (.punct .doubleStar) then
    let name ← identifier
    return .paramSpec (← since start) name
  else
    let name ← identifier
    let bound ← if ← accept (.punct .colon) then some <$> r.test else pure none
    return .typeVar (← since start) name bound

/-- The type parameters of a definition, if it has any. -/
def typeParams (r : Rules) : Parser (List TypeParam) := do
  if ← accept (.punct .lsqb) then
    let starts : Token → Bool
      | .name _ | .punct .star | .punct .doubleStar => true
      | _ => false
    let (params, _) ← commaList r.budget starts (typeParam r)
    expect (.punct .rsqb)
    return params
  else return []

/-- A type alias. -/
def typeAlias (r : Rules) : Parser Stmt := do
  let start ← place
  expect (.word .typeKw)
  let nameStart ← place
  let id ← identifier
  let name : Expr := .name (← since nameStart) id .store
  let params ← typeParams r
  expect (.punct .equal)
  let value ← r.test
  return .typeAlias (← since start) name params value

/-- A statement that is one word. -/
def wordStmt (make : Span → Stmt) : Parser Stmt := do
  let l ← advance
  return make l.span

/-- A statement that can share its line with others. -/
def small (r : Rules) : Parser Stmt := do
  let start ← place
  match ← peek with
  | some (.word .passKw) => wordStmt .pass
  | some (.word .breakKw) => wordStmt .breakLoop
  | some (.word .continueKw) => wordStmt .continueLoop
  | some (.word .returnKw) =>
    let _ ← advance
    let value ← if ← nextIs startsElement then some <$> r.testList else pure none
    return .returnValue (← since start) value
  | some (.word .yieldKw) =>
    let e ← r.yieldExpr
    return .expr (← since start) e
  | some (.word .raiseKw) =>
    let _ ← advance
    if ← nextIs startsTest then
      let exc ← r.test
      let cause ← if ← accept (.word .fromKw) then some <$> r.test else pure none
      return .raise (← since start) (some exc) cause
    else return .raise (← since start) none none
  | some (.word .delKw) =>
    let _ ← advance
    let (targets, _) ← commaList r.budget startsElement r.targetElement
    return .delete (← since start) (targets.map (·.withUsage .del))
  | some (.word .globalKw) =>
    let _ ← advance
    let names ← strictList r identifier
    return .global (← since start) names
  | some (.word .nonlocalKw) =>
    let _ ← advance
    let names ← strictList r identifier
    return .nonlocal (← since start) names
  | some (.word .assertKw) =>
    let _ ← advance
    let test ← r.test
    let msg ← if ← accept (.punct .comma) then some <$> r.test else pure none
    return .assertTest (← since start) test msg
  | some (.word .importKw) =>
    let _ ← advance
    let names ← strictList r (aliasOf (dottedName r))
    return .importModules (← since start) names
  | some (.word .fromKw) => importFrom r
  | some (.word .typeKw) => typeAlias r
  | _ => exprStmt r

/-- Whether a small statement can start with the token. -/
def startsSmall (token : Token) : Bool :=
  startsElement token ||
    match token with
    | .word w =>
      match w with
      | .passKw | .breakKw | .continueKw | .returnKw | .yieldKw | .raiseKw | .delKw | .globalKw
      | .nonlocalKw | .assertKw | .importKw | .fromKw | .typeKw => true
      | _ => false
    | _ => false

/-- Small statements on one line, up to its newline. -/
def smallTail (r : Rules) (done : List Stmt) : Nat → Parser (List Stmt)
  | 0 => unexpected
  | fuel + 1 => do
    if ← accept (.punct .semi) then
      if ← nextIs startsSmall then
        let s ← small r
        smallTail r (s :: done) fuel
      else
        expect .newline
        return done.reverse
    else
      expect .newline
      return done.reverse

/-- A line of small statements. -/
def simpleLine (r : Rules) : Parser (List Stmt) := do
  let first ← small r
  smallTail r [first] r.budget

/-! ## Compound statements -/

/-- The colon and the block behind it. -/
def block (s : StmtRules) : Parser (List Stmt) := do
  expect (.punct .colon)
  s.suite

/-- The block of an `else`, empty when there is none. -/
def elseBlock (s : StmtRules) : Parser (List Stmt) := do
  if ← accept (.word .elseKw) then s.block else return []

/-- One `elif` with its test and block, and where it starts. -/
def elifClause (s : StmtRules) : Parser (Nat × Expr × List Stmt) := do
  let start ← place
  expect (.word .elifKw)
  let test ← s.rules.namedTest
  let body ← s.block
  return (start, test, body)

/-- `if` with its alternatives; an `elif` is an `if` of its own in the alternative. -/
def ifStmt (s : StmtRules) : Parser Stmt := do
  let start ← place
  expect (.word .ifKw)
  let test ← s.rules.namedTest
  let body ← s.block
  let elifs ← manyWhile (· = .word .elifKw) s.elifClause [] s.rules.budget
  let orelse ← s.elseBlock
  let elifBody := (elifs.getLast?.map (·.2.2)).getD body
  let stop := stopOf (stopOf 0 elifBody) orelse
  let alternative := elifs.foldr
    (fun (clause : Nat × Expr × List Stmt) rest =>
      [Stmt.ifElse ⟨clause.1, stop⟩ clause.2.1 clause.2.2 rest]) orelse
  return .ifElse ⟨start, stop⟩ test body alternative

/-- `while`. -/
def whileStmt (s : StmtRules) : Parser Stmt := do
  let start ← place
  expect (.word .whileKw)
  let test ← s.rules.namedTest
  let body ← s.block
  let orelse ← s.elseBlock
  return .whileLoop ⟨start, stopOf (stopOf 0 body) orelse⟩ test body orelse

/-- `for`, which may have started with `async`. -/
def forStmt (s : StmtRules) (start : Nat) (isAsync : Bool) : Parser Stmt := do
  expect (.word .forKw)
  let target ← s.rules.targetList
  expect (.word .inKw)
  let iter ← s.rules.testList
  let body ← s.block
  let orelse ← s.elseBlock
  return .forLoop ⟨start, stopOf (stopOf 0 body) orelse⟩ isAsync (target.withUsage .store) iter
    body orelse

/-- One context manager. -/
def withItem (r : Rules) : Parser WithItem := do
  let context ← r.test
  if ← accept (.word .asKw) then
    let vars ← r.expression
    return ⟨context, some (vars.withUsage .store)⟩
  else return ⟨context, none⟩

/-- Fails unless a colon is next. -/
def beforeColon {α : Type} (result : α) : Parser α := do
  if (← peek) = some (.punct .colon) then return result else unexpected

/-- Context managers between parentheses that hold the whole list. -/
def groupedItems (r : Rules) : Parser (List WithItem) := do
  expect (.punct .lpar)
  let (items, _) ← commaList r.budget startsTest (withItem r)
  expect (.punct .rpar)
  beforeColon items

/-- Context managers without such parentheses. -/
def plainItems (r : Rules) : Parser (List WithItem) := do
  let items ← strictList r (withItem r)
  beforeColon items

/-- `with`, which may have started with `async`. -/
def withStmt (s : StmtRules) (start : Nat) (isAsync : Bool) : Parser Stmt := do
  expect (.word .withKw)
  let items ←
    if (← peek) = some (.punct .lpar) then orFurther (groupedItems s.rules) (plainItems s.rules)
    else plainItems s.rules
  let body ← s.block
  return .withBlock ⟨start, stopOf 0 body⟩ isAsync items body

/-- One `except` clause; all clauses of a statement have a star, or none has. -/
def exceptClause (s : StmtRules) (isStar : Bool) : Parser ExceptHandler := do
  let start ← place
  expect (.word .exceptKw)
  if isStar then expect (.punct .star)
  let type ← if isStar || (← nextIs startsTest) then some <$> s.rules.test else pure none
  let name ←
    if ← acceptIf type.isSome (.word .asKw) then some <$> identifier else pure none
  let body ← s.block
  return ⟨⟨start, stopOf 0 body⟩, type, name, body⟩

/-- `try`. -/
def tryStmt (s : StmtRules) : Parser Stmt := do
  let start ← place
  expect (.word .tryKw)
  let body ← s.block
  match ← peek with
  | some (.word .exceptKw) =>
    let isStar := (← peekSecond) = some (.punct .star)
    let handlers ← manyWhile (· = .word .exceptKw) (s.exceptClause isStar) [] s.rules.budget
    let orelse ← s.elseBlock
    let final ← if ← accept (.word .finallyKw) then s.block else pure []
    let handled := (handlers.getLast?.map (·.span.stop)).getD 0
    return .tryBlock ⟨start, stopOf (stopOf handled orelse) final⟩ isStar body handlers orelse final
  | _ =>
    expect (.word .finallyKw)
    let final ← s.block
    return .tryBlock ⟨start, stopOf 0 final⟩ false body [] [] final

/-- A function definition behind its decorators and `async`. -/
def functionDef (s : StmtRules) (decorators : List Expr) (start : Nat) (isAsync : Bool) :
    Parser Stmt := do
  expect (.word .defKw)
  let name ← identifier
  let typeParams ← typeParams s.rules
  expect (.punct .lpar)
  let params ← s.rules.params (some s.rules.test) (some s.rules.element) (.punct .rpar)
  expect (.punct .rpar)
  Rules.distinctParams params
  let returns ← if ← accept (.punct .arrow) then some <$> s.rules.test else pure none
  let body ← s.block
  return .functionDef ⟨start, stopOf 0 body⟩ isAsync name params body decorators returns typeParams

/-- A class definition behind its decorators. -/
def classDef (s : StmtRules) (decorators : List Expr) : Parser Stmt := do
  let start ← place
  expect (.word .classKw)
  let name ← identifier
  let typeParams ← typeParams s.rules
  let args ←
    if (← peek) = some (.punct .lpar) then s.rules.arguments else pure ⟨[], []⟩
  let body ← s.block
  return .classDef ⟨start, stopOf 0 body⟩ name args.positional args.keywords body decorators
    typeParams

/-- One decorator, up to the end of its line. -/
def decorator (r : Rules) : Parser Expr := do
  expect (.punct .atSign)
  let e ← r.namedTest
  expect .newline
  return e

/-- A definition behind its decorators. -/
def decorated (s : StmtRules) : Parser Stmt := do
  let decorators ← manyWhile (· = .punct .atSign) (decorator s.rules) [] s.rules.budget
  match ← peek with
  | some (.word .classKw) => s.classDef decorators
  | _ =>
    let start ← place
    let isAsync ← accept (.word .asyncKw)
    s.functionDef decorators start isAsync

/-- Fails unless an indentation follows, and takes it. -/
def indent : Parser Unit := do
  if (← peek) = some .indent then
    let _ ← advance
  else
    match ← peek with
    | some _ => fail .missingBlock (← place)
    | none => fail .unknownIndent (← lastStop)

/-- One `case` clause. -/
def caseClause (s : StmtRules) : Parser MatchCase := do
  expect (.word .caseKw)
  let pattern ← s.patterns.top
  let guard ← if ← accept (.word .ifKw) then some <$> s.rules.namedTest else pure none
  let body ← s.block
  return ⟨pattern, guard, body⟩

/-- `match`. Several subjects are a tuple that covers the whole statement; a comma behind a single
one makes no tuple of it. -/
def matchStmt (s : StmtRules) : Parser Stmt := do
  let start ← place
  expect (.word .matchKw)
  let (subjects, _) ← commaList s.rules.budget startsElement s.rules.namedElement
  expect (.punct .colon)
  expect .newline
  indent
  let first ← s.caseClause
  let more ← manyWhile (· = .word .caseKw) s.caseClause [] s.rules.budget
  expect .dedent
  let cases := first :: more
  let span : Span := ⟨start, stopOf 0 ((cases.getLast?.map (·.body)).getD [])⟩
  let subject : Expr := match subjects with
    | [single] => single
    | elts => .tuple span elts .load
  return .matchCases span subject cases

/-- Whether a compound statement can start with the token. -/
def startsCompound : Token → Bool
  | .punct .atSign => true
  | .word w =>
    match w with
    | .ifKw | .whileKw | .forKw | .tryKw | .withKw | .defKw | .classKw | .matchKw | .asyncKw => true
    | _ => false
  | _ => false

/-- A compound statement. -/
def compound (s : StmtRules) : Parser Stmt := do
  let start ← place
  match ← peek with
  | some (.word .ifKw) => s.ifStmt
  | some (.word .whileKw) => s.whileStmt
  | some (.word .forKw) => s.forStmt start false
  | some (.word .tryKw) => s.tryStmt
  | some (.word .withKw) => s.withStmt start false
  | some (.word .matchKw) => s.matchStmt
  | some (.word .asyncKw) =>
    let _ ← advance
    match ← peek with
    | some (.word .forKw) => s.forStmt start true
    | some (.word .withKw) => s.withStmt start true
    | _ => s.functionDef [] start true
  | _ => s.decorated

/-- A compound statement or a simple line. -/
def statement (s : StmtRules) : Parser (List Stmt) := do
  if ← nextIs startsCompound then return [← s.compound] else simpleLine s.rules

/-- Statements up to the end of the block. -/
def blockTail (s : StmtRules) (done : List Stmt) : Nat → Parser (List Stmt)
  | 0 => unexpected
  | fuel + 1 => do
    if ← accept .dedent then return done.reverse
    else
      let found ← s.statement
      s.blockTail (found.reverse ++ done) fuel

/-- A block: the rest of the line, or indented lines. -/
def suiteBody (s : StmtRules) : Parser (List Stmt) := do
  if ← accept .newline then
    indent
    let found ← s.statement
    s.blockTail found.reverse s.rules.budget
  else simpleLine s.rules

/-- The rules with `depth` levels of nesting left. -/
def level (rules : Rules) (patterns : PatternRules) : Nat → StmtRules
  | 0 => ⟨rules, patterns, do fail .nestingLimit (← place)⟩
  | depth + 1 => ⟨rules, patterns, fun s => (level rules patterns depth).suiteBody s⟩

/-- The statements of a module. -/
def moduleTail (s : StmtRules) (done : List Stmt) : Nat → Parser (List Stmt)
  | 0 => unexpected
  | fuel + 1 => do
    match ← peek with
    | none => return done.reverse
    | some .newline =>
      let _ ← advance
      s.moduleTail done fuel
    | some _ =>
      let found ← s.statement
      s.moduleTail (found.reverse ++ done) fuel

end StmtRules

/-- The statements of a source text, or its first fault. -/
def parseModule (source : String) (table : CharNames := .basic) : Except Fault (List Stmt) :=
  let tokens := (scanSource source).settle true
  let size := tokens.lexemes.length
  let rules := Rules.forTokens ⟨table, parseField table (source.utf8ByteSize + 1)⟩ size
  let patterns := PatternRules.level rules (size + 1)
  let stmts := StmtRules.level rules patterns (size + 1)
  tokens.parse 0 (stmts.moduleTail [] (size + 1))

end AbcMetric
