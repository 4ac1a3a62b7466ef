import AbcMetric.Grammar.Literal

/-!
# The recursive rules of the expression grammar

The rules for expressions call each other. They are written against a record of the rules they call
again, and the record is tied together level by level (`AbcMetric.Grammar.Expr`), each level being
entered only after a token has been read.
-/

namespace AbcMetric

/-- The rules that others call again, a bound on the length of lists, and what string literals are
read with. -/
structure Rules where
  budget : Nat
  literals : LiteralReader
  test : Parser Expr
  orTest : Parser Expr
  notTest : Parser Expr
  expression : Parser Expr
  factor : Parser Expr

/-! ## What can start or follow a construct -/

/-- Whether a test can start with the token. -/
def startsTest : Token → Bool
  | .name _ | .int _ | .float _ | .imaginary _ | .string _ => true
  | .word w =>
    match w with
    | .trueKw | .falseKw | .noneKw | .notKw | .lambdaKw | .awaitKw => true
    | _ => false
  | .punct p =>
    match p with
    | .lpar | .lsqb | .lbrace | .plus | .minus | .tilde | .ellipsis => true
    | _ => false
  | _ => false

/-- Whether an element of a list can start with the token. -/
def startsElement (token : Token) : Bool :=
  startsTest token || token = .punct .star

/-- The operator of an augmented assignment. -/
def augmentedOperator? : Token → Option BinaryOperator
  | .punct p =>
    match p with
    | .plusEqual => some .add
    | .minusEqual => some .sub
    | .starEqual => some .mult
    | .atEqual => some .matMult
    | .slashEqual => some .div
    | .percentEqual => some .mod
    | .amperEqual => some .bitAnd
    | .vbarEqual => some .bitOr
    | .caretEqual => some .bitXor
    | .leftShiftEqual => some .lShift
    | .rightShiftEqual => some .rShift
    | .doubleStarEqual => some .pow
    | .doubleSlashEqual => some .floorDiv
    | _ => none
  | _ => none

/-- Whether the token can follow a complete test. -/
def followsTest : Token → Bool
  | .newline => true
  | .word w =>
    match w with
    | .forKw | .asyncKw | .asKw | .fromKw => true
    | _ => false
  | .punct p =>
    match p with
    | .comma | .rpar | .rsqb | .rbrace | .colon | .equal | .semi => true
    | _ => (augmentedOperator? (.punct p)).isSome
  | _ => false

/-- Whether the token can follow an atom. -/
def followsAtom (token : Token) : Bool :=
  followsTest token ||
    match token with
    | .word w =>
      match w with
      | .inKw | .notKw | .isKw | .andKw | .orKw | .ifKw | .elseKw => true
      | _ => false
    | .punct p =>
      match p with
      | .lpar | .lsqb | .dot | .doubleStar | .star | .atSign | .slash | .percent | .doubleSlash
      | .plus | .minus | .leftShift | .rightShift | .amper | .caret | .vbar | .eqEqual | .notEqual
      | .less | .lessEqual | .greater | .greaterEqual => true
      | _ => false
    | _ => false

namespace Rules

open AbcMetric.Parser

/-- A run of string literals. They are read once a token has been seen that can follow them. -/
def strings (r : Rules) (follows : Token → Bool) : Parser Expr := do
  let isString : Token → Bool
    | .string _ => true
    | _ => false
  let piece : Parser (List PlacedLiteral) := do
    let l ← advance
    match l.token with
    | .string literal => return [⟨literal, l.span⟩]
    | _ => return []
  let run := (← manyWhile isString piece [] r.budget).flatten
  if ← nextIs follows then
    match joinLiterals r.literals run with
    | .ok e => return e
    | .error fault => fail fault.cause fault.offset
  else unexpected

/-- A test that may bind a name: `n := test`. -/
def namedTest (r : Rules) : Parser Expr := do
  match ← peek, ← peekSecond with
  | some (.name id), some (.punct .colonEqual) =>
    let l ← advance
    let _ ← advance
    let value ← r.test
    return .namedExpr (← since l.span.start) (.name l.span id .store) value
  | _, _ => r.test

/-- `*` and an expression. -/
def starred (r : Rules) : Parser Expr := do
  let start ← place
  expect (.punct .star)
  let value ← r.expression
  return .starred (← since start) value .load

/-- An element of a list: a test or a starred expression. -/
def element (r : Rules) : Parser Expr := do
  if (← peek) = some (.punct .star) then r.starred else r.test

/-- An element of a display: a test that may bind a name, or a starred expression. -/
def namedElement (r : Rules) : Parser Expr := do
  if (← peek) = some (.punct .star) then r.starred else r.namedTest

/-- An element of a target list: an expression, starred or not. -/
def targetElement (r : Rules) : Parser Expr := do
  if (← peek) = some (.punct .star) then r.starred else r.expression

/-- One or more elements: the element itself when it is alone without a comma, else a tuple. -/
def tupleOf (r : Rules) (item : Parser Expr) : Parser Expr := do
  let start ← place
  match ← commaList r.budget startsElement item with
  | ([single], false) => return single
  | (elts, _) => return .tuple (← since start) elts .load

/-- A list of tests, starred or not. -/
def testList (r : Rules) : Parser Expr := r.tupleOf r.element

/-- A list of targets. -/
def targetList (r : Rules) : Parser Expr := r.tupleOf r.targetElement

/-- `yield` with its value. -/
def yieldExpr (r : Rules) : Parser Expr := do
  let start ← place
  expect (.word .yieldKw)
  if ← accept (.word .fromKw) then
    let value ← r.test
    return .yieldFrom (← since start) value
  else if ← nextIs startsElement then
    let value ← r.testList
    return .yield (← since start) (some value)
  else return .yield (← since start) none

/-- A list of tests, or a `yield`. -/
def testListOrYield (r : Rules) : Parser Expr := do
  if (← peek) = some (.word .yieldKw) then r.yieldExpr else r.testList

/-- Whether a comprehension clause can start with the token. -/
def startsClause (token : Token) : Bool :=
  token = .word .forKw || token = .word .asyncKw

/-- One `for` clause of a comprehension. -/
def clause (r : Rules) : Parser Comprehension := do
  let isAsync ← accept (.word .asyncKw)
  expect (.word .forKw)
  let target ← r.targetList
  expect (.word .inKw)
  let iter ← r.orTest
  let condition : Parser Expr := do
    expect (.word .ifKw)
    r.orTest
  let conditions ← manyWhile (· = .word .ifKw) condition [] r.budget
  return ⟨target.withUsage .store, iter, conditions, isAsync⟩

/-- The clauses of a comprehension. -/
def clauses (r : Rules) : Parser (List Comprehension) := do
  let first ← r.clause
  let more ← manyWhile startsClause r.clause [] r.budget
  return first :: more

end Rules

end AbcMetric
