import AbcMetric.Grammar.Params

/-!
# The expression grammar

One rule per level of precedence, from atoms to tests. A composite expression covers the tokens of
its rule, so it starts at an opening parenthesis in front of its first operand, while a
parenthesised expression keeps the range of what stands inside.

* `Rules.level` ties the rules together.
* `parseField` parses the expression of a replacement field.

The rules follow the parser that the program uses, its ranges and its faults included. Not modelled:
comments of types and interactive input.
-/

namespace AbcMetric

namespace Rules

open AbcMetric.Parser

/-! ## Displays -/

/-- What stands between parentheses. -/
def parenthesised (r : Rules) : Parser Expr := do
  let start ← place
  expect (.punct .lpar)
  match ← peek with
  | some (.punct .rpar) =>
    expect (.punct .rpar)
    return .tuple (← since start) [] .load
  | some (.word .yieldKw) =>
    let e ← r.yieldExpr
    expect (.punct .rpar)
    return e
  | some (.punct .doubleStar) =>
    let offset ← place
    expect (.punct .doubleStar)
    let _ ← r.expression
    expect (.punct .rpar)
    fail .doubleStarredHere offset
  | next =>
    let isStarred := next = some (.punct .star)
    let first ← r.namedElement
    if !isStarred && (← nextIs startsClause) then
      let generators ← r.clauses
      expect (.punct .rpar)
      return .generatorExp (← since start) first generators
    else
      let (elts, trailing) ← commaTail startsElement r.namedElement [first] r.budget
      expect (.punct .rpar)
      match elts, trailing with
      | [single], false =>
        if isStarred then fail .starredHere single.span.start else return single
      | _, _ => return .tuple (← since start) elts .load

/-- A list display or a list comprehension. -/
def bracketed (r : Rules) : Parser Expr := do
  let start ← place
  expect (.punct .lsqb)
  if ← accept (.punct .rsqb) then return .list (← since start) [] .load
  else
    let first ← r.namedElement
    if ← nextIs startsClause then
      let generators ← r.clauses
      expect (.punct .rsqb)
      return .listComp (← since start) first generators
    else
      let (elts, _) ← commaTail startsElement r.namedElement [first] r.budget
      expect (.punct .rsqb)
      return .list (← since start) elts .load

/-- An entry of a dictionary display. -/
def dictItem (r : Rules) : Parser DictItem := do
  if ← accept (.punct .doubleStar) then return .spread (← r.expression)
  else
    let key ← r.test
    expect (.punct .colon)
    return .pair key (← r.test)

/-- The rest of a dictionary display behind its first entry. -/
def dictTail (r : Rules) (start : Nat) (first : DictItem) : Parser Expr := do
  let starts (t : Token) : Bool := startsTest t || t = .punct .doubleStar
  let (items, _) ← commaTail starts r.dictItem [first] r.budget
  expect (.punct .rbrace)
  return .dict (← since start) items

/-- A set or dictionary, display or comprehension; the first entry decides which. -/
def braced (r : Rules) : Parser Expr := do
  let start ← place
  expect (.punct .lbrace)
  match ← peek with
  | some (.punct .rbrace) =>
    expect (.punct .rbrace)
    return .dict (← since start) []
  | some (.punct .doubleStar) => r.dictTail start (← r.dictItem)
  | next =>
    let isPlain := next ≠ some (.punct .star) && (← peekSecond) ≠ some (.punct .colonEqual)
    let isStarred := next = some (.punct .star)
    let first ← r.namedElement
    if ← acceptIf isPlain (.punct .colon) then
      let value ← r.test
      if ← nextIs startsClause then
        let generators ← r.clauses
        expect (.punct .rbrace)
        return .dictComp (← since start) first value generators
      else r.dictTail start (.pair first value)
    else if !isStarred && (← nextIs startsClause) then
      let generators ← r.clauses
      expect (.punct .rbrace)
      return .setComp (← since start) first generators
    else
      let (elts, _) ← commaTail startsElement r.namedElement [first] r.budget
      expect (.punct .rbrace)
      return .set (← since start) elts

/-! ## Atoms -/

/-- An atom. -/
def atom (r : Rules) : Parser Expr := do
  let constant (value : Constant) : Parser Expr := do
    let l ← advance
    return .constant l.span value none
  match ← peek with
  | some (.string _) => r.strings followsAtom
  | some (.int n) => constant (.int n)
  | some (.float x) => constant (.float x)
  | some (.imaginary x) => constant (.imaginary x)
  | some (.name id) =>
    let l ← advance
    return .name l.span id .load
  | some (.word .trueKw) => constant (.bool true)
  | some (.word .falseKw) => constant (.bool false)
  | some (.word .noneKw) => constant .none
  | some (.punct .ellipsis) => constant .ellipsis
  | some (.punct .lpar) => r.parenthesised
  | some (.punct .lsqb) => r.bracketed
  | some (.punct .lbrace) => r.braced
  | _ => unexpected

/-! ## Arguments -/

/-- An argument of a call: a value by position, or with a name or a double star before it. -/
inductive Argument where
  | positional (value : Expr)
  | keyword (keyword : Keyword)

/-- One argument. -/
def argument (r : Rules) : Parser Argument := do
  let start ← place
  match ← peek, ← peekSecond with
  | some (.punct .star), _ =>
    expect (.punct .star)
    let value ← r.test
    return .positional (.starred (← since start) value .load)
  | some (.punct .doubleStar), _ =>
    expect (.punct .doubleStar)
    let value ← r.test
    return .keyword ⟨← since start, none, value⟩
  | some (.name id), some (.punct .equal) =>
    let _ ← advance
    expect (.punct .equal)
    let value ← r.test
    return .keyword ⟨← since start, some id, value⟩
  | _, _ =>
    let value ← r.namedTest
    if ← nextIs startsClause then
      let generators ← r.clauses
      return .positional (.generatorExp (← since start) value generators)
    else return .positional value

/-- The arguments of one call, by position and by name. -/
structure Arguments where
  positional : List Expr
  keywords : List Keyword

/-- Sorts arguments by kind, both lists reversed onto those given. A name may be given once, a
value by position may follow a named one only with a star, and never a double star. -/
def sortArguments (positional : List Expr) (keywords : List Keyword) :
    List Argument → Except Fault Arguments
  | [] => .ok ⟨positional.reverse, keywords.reverse⟩
  | .keyword k :: rest =>
    match k.arg with
    | some name =>
      if keywords.any (·.arg == some name) then .error ⟨.repeatedKeyword name, k.span.start⟩
      else sortArguments positional (k :: keywords) rest
    | none => sortArguments positional (k :: keywords) rest
  | .positional value :: rest =>
    let isStarred := match value with
      | .starred .. => true
      | _ => false
    if !keywords.isEmpty && !isStarred then
      .error ⟨.positionalAfterKeyword, value.span.start⟩
    else if keywords.any (·.arg.isNone) then .error ⟨.starAfterDoubleStar, value.span.start⟩
    else sortArguments (value :: positional) keywords rest

/-- The arguments between parentheses, which are both taken. -/
def arguments (r : Rules) : Parser Arguments := do
  expect (.punct .lpar)
  if ← accept (.punct .rpar) then return ⟨[], []⟩
  else
    let starts (t : Token) : Bool := startsElement t || t = .punct .doubleStar
    let (args, _) ← commaList r.budget starts r.argument
    if (← peek) = some (.punct .rpar) then
      match sortArguments [] [] args with
      | .ok sorted =>
        expect (.punct .rpar)
        return sorted
      | .error fault => fail fault.cause fault.offset
    else unexpected

/-! ## Subscripts -/

/-- An optional test in a slice. -/
def sliceBound (r : Rules) : Parser (Option Expr) := do
  if ← nextIs startsTest then return some (← r.test) else return none

/-- The rest of a slice behind its lower bound, from its first colon on. -/
def sliceTail (r : Rules) (start : Nat) (lower : Option Expr) : Parser Expr := do
  expect (.punct .colon)
  let upper ← r.sliceBound
  let step ← if ← accept (.punct .colon) then r.sliceBound else pure none
  return .slice (← since start) lower upper step

/-- One subscript. -/
def subscript (r : Rules) : Parser Expr := do
  let start ← place
  match ← peek, ← peekSecond with
  | some (.punct .colon), _ => r.sliceTail start none
  | some (.punct .star), _ => r.starred
  | some (.name _), some (.punct .colonEqual) => r.namedTest
  | _, _ =>
    let e ← r.test
    if (← peek) = some (.punct .colon) then r.sliceTail start (some e) else return e

/-- The subscripts between brackets: one alone, or a tuple. -/
def subscripts (r : Rules) : Parser Expr := do
  let start ← place
  let starts (t : Token) : Bool := startsElement t || t = .punct .colon
  match ← commaList r.budget starts r.subscript with
  | ([single], false) => return single
  | (elts, _) => return .tuple (← since start) elts .load

/-! ## Trailers and operators -/

/-- Calls, subscripts and attributes behind an expression that starts at `start`. -/
def trailers (r : Rules) (start : Nat) (e : Expr) : Nat → Parser Expr
  | 0 => unexpected
  | fuel + 1 => do
    match ← peek with
    | some (.punct .lpar) =>
      let args ← r.arguments
      r.trailers start (.call (← since start) e args.positional args.keywords) fuel
    | some (.punct .lsqb) =>
      expect (.punct .lsqb)
      let index ← r.subscripts
      expect (.punct .rsqb)
      r.trailers start (.subscript (← since start) e index .load) fuel
    | some (.punct .dot) =>
      expect (.punct .dot)
      let attr ← identifier
      r.trailers start (.attr (← since start) e attr .load) fuel
    | _ => return e

/-- An atom with its trailers. -/
def primary (r : Rules) : Parser Expr := do
  let start ← place
  let e ← r.atom
  r.trailers start e r.budget

/-- An atom with its trailers, awaited or not. -/
def awaited (r : Rules) : Parser Expr := do
  let start ← place
  if ← accept (.word .awaitKw) then
    let e ← r.primary
    return .await (← since start) e
  else r.primary

/-- A power; its exponent may have a sign. -/
def power (r : Rules) : Parser Expr := do
  let start ← place
  let base ← r.awaited
  if ← accept (.punct .doubleStar) then
    let exponent ← r.factor
    return .binOp (← since start) base .pow exponent
  else return base

/-- The operator before an operand. -/
def unaryOperator? : Token → Option UnaryOperator
  | .punct .plus => some .plus
  | .punct .minus => some .minus
  | .punct .tilde => some .invert
  | _ => none

/-- An operand with its signs. -/
def signed (r : Rules) : Parser Expr := do
  let start ← place
  match (← peek).bind unaryOperator? with
  | some op =>
    let _ ← advance
    let operand ← r.factor
    return .unaryOp (← since start) op operand
  | none => r.power

/-- What follows `left` in a chain of operators that group to the left. -/
def chainTail (operator? : Token → Option BinaryOperator) (operand : Parser Expr) (start : Nat)
    (left : Expr) : Nat → Parser Expr
  | 0 => unexpected
  | fuel + 1 => do
    match (← peek).bind operator? with
    | some op =>
      let _ ← advance
      let right ← operand
      chainTail operator? operand start (.binOp (← since start) left op right) fuel
    | none => return left

/-- Operands joined by operators that group to the left. -/
def chain (r : Rules) (operator? : Token → Option BinaryOperator) (operand : Parser Expr) :
    Parser Expr := do
  let start ← place
  let first ← operand
  chainTail operator? operand start first r.budget

/-- The operators of each level, tightest first. -/
def binaryLevels : List (Token → Option BinaryOperator) :=
  [fun
    | .punct .star => some .mult
    | .punct .slash => some .div
    | .punct .doubleSlash => some .floorDiv
    | .punct .percent => some .mod
    | .punct .atSign => some .matMult
    | _ => none,
   fun
    | .punct .plus => some .add
    | .punct .minus => some .sub
    | _ => none,
   fun
    | .punct .leftShift => some .lShift
    | .punct .rightShift => some .rShift
    | _ => none,
   fun t => if t = .punct .amper then some .bitAnd else none,
   fun t => if t = .punct .caret then some .bitXor else none,
   fun t => if t = .punct .vbar then some .bitOr else none]

/-- An expression: operands and binary operators. -/
def binary (r : Rules) : Parser Expr :=
  binaryLevels.foldl (fun operand operator? => r.chain operator? operand) r.signed

/-! ## Comparisons and connectives -/

/-- Takes a comparison operator, if one is next. -/
def compareOperator : Parser (Option CompareOperator) := do
  let take (op : CompareOperator) : Parser (Option CompareOperator) := do
    let _ ← advance
    return some op
  match ← peek with
  | some (.punct .eqEqual) => take .eq
  | some (.punct .notEqual) => take .notEq
  | some (.punct .less) => take .lt
  | some (.punct .lessEqual) => take .ltE
  | some (.punct .greater) => take .gt
  | some (.punct .greaterEqual) => take .gtE
  | some (.word .inKw) => take .contained
  | some (.word .isKw) =>
    let _ ← advance
    if ← accept (.word .notKw) then return some .isNot else return some .is
  | some (.word .notKw) =>
    let _ ← advance
    expect (.word .inKw)
    return some .notContained
  | _ => return none

/-- The links of a chain of comparisons. -/
def compareLinks (operand : Parser Expr) (done : List CompareLink) : Nat → Parser (List CompareLink)
  | 0 => unexpected
  | fuel + 1 => do
    match ← compareOperator with
    | some op =>
      let e ← operand
      compareLinks operand (⟨op, e⟩ :: done) fuel
    | none => return done.reverse

/-- A comparison: one expression for the whole chain. -/
def comparison (r : Rules) : Parser Expr := do
  let start ← place
  let left ← r.binary
  match ← compareLinks r.binary [] r.budget with
  | [] => return left
  | links => return .compare (← since start) left links

/-- A negation or a comparison. -/
def negation (r : Rules) : Parser Expr := do
  let start ← place
  if ← accept (.word .notKw) then
    let operand ← r.notTest
    return .unaryOp (← since start) .not operand
  else r.comparison

/-- Operands joined by one connective: one expression for the whole chain. -/
def connective (r : Rules) (word : Word) (op : BoolOperator) (operand : Parser Expr) :
    Parser Expr := do
  let start ← place
  let first ← operand
  let next : Parser Expr := do
    expect (.word word)
    operand
  match ← manyWhile (· = .word word) next [] r.budget with
  | [] => return first
  | more => return .boolOp (← since start) op (first :: more)

/-- Negations joined by `and`, and those by `or`. -/
def disjunction (r : Rules) : Parser Expr :=
  r.connective .orKw .or (r.connective .andKw .and r.negation)

/-- A `lambda`. Its parameters are compared once its body is complete. -/
def lambda (r : Rules) : Parser Expr := do
  let start ← place
  expect (.word .lambdaKw)
  let ps ← r.params none none (.punct .colon)
  expect (.punct .colon)
  let body ← r.test
  if ← nextIs followsTest then
    distinctParams ps
    return .lambda (← since start) ps body
  else unexpected

/-- A test: a conditional expression, a disjunction or a `lambda`. -/
def conditional (r : Rules) : Parser Expr := do
  if (← peek) = some (.word .lambdaKw) then r.lambda
  else
    let start ← place
    let body ← r.disjunction
    if ← accept (.word .ifKw) then
      let test ← r.orTest
      expect (.word .elseKw)
      let orelse ← r.test
      return .ifExp (← since start) test body orelse
    else return body

/-! ## Tying the rules together -/

/-- The rules with `depth` levels of nesting left. Every level is entered behind a token, so the
number of tokens bounds the levels needed. -/
def level (literals : LiteralReader) (budget : Nat) : Nat → Rules
  | 0 =>
    let out : Parser Expr := do fail .nestingLimit (← place)
    ⟨budget, literals, out, out, out, out, out⟩
  | depth + 1 =>
    { budget, literals
      test := fun s => (level literals budget depth).conditional s
      orTest := fun s => (level literals budget depth).disjunction s
      notTest := fun s => (level literals budget depth).negation s
      expression := fun s => (level literals budget depth).binary s
      factor := fun s => (level literals budget depth).signed s }

end Rules

/-- The stream of a scan. -/
def Scan.stream (s : Scan) (offset : Nat) : Stream := ⟨s.lexemes, s.fault, offset⟩

/-- Runs a rule on a whole scan. -/
def Scan.parse {α : Type} (s : Scan) (offset : Nat) (rule : Parser α) : Except Fault α :=
  match (do Parser.settle; rule : Parser α) (s.stream offset) with
  | .ok (result, _) => .ok result
  | .error failure => .error failure.fault

/-- The expression rules for a scan of `tokens` lexemes. -/
def Rules.forTokens (literals : LiteralReader) (tokens : Nat) : Rules :=
  Rules.level literals (tokens + 1) (tokens + 1)

open AbcMetric.Parser in
/-- A list of tests and nothing behind it but the end of the line. -/
def wholeTestList (r : Rules) : Parser Expr := do
  let e ← r.testList
  let _ ← manyWhile (· = .newline) advance [] r.budget
  match ← peek with
  | none => return e
  | some _ => unexpected

/-- The expression of a replacement field, given with the parentheses put around it and the offset
of the first; `depth` bounds how many formatted strings are nested in each other. -/
def parseField (table : CharNames) : Nat → Nat → List Char → Except Fault Expr
  | 0, offset, _ => .error ⟨.nestingLimit, offset⟩
  | depth + 1, offset, text =>
    let tokens := (scan offset text).settle false
    let rules := Rules.forTokens ⟨table, parseField table depth⟩ tokens.lexemes.length
    tokens.parse offset (wholeTestList rules)

end AbcMetric
