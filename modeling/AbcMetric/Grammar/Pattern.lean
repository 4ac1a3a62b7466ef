import AbcMetric.Syntax.Pattern
import AbcMetric.Grammar.Expr

/-!
# The pattern grammar

What a `case` may match against: literals, captures, dotted names, sequences, mappings and classes,
joined by bars and bound by `as`.
-/

namespace AbcMetric

/-- The expression rules, and the pattern rule that others call again. -/
structure PatternRules where
  rules : Rules
  pattern : Parser Pattern

/-- The name that a capture binds; an underscore binds none. -/
def captured (name : String) : Option String :=
  if name = "_" then none else some name

/-- Whether a pattern can start with the token. -/
def startsPattern : Token → Bool
  | .name _ | .int _ | .float _ | .imaginary _ | .string _ => true
  | .word w =>
    match w with
    | .trueKw | .falseKw | .noneKw => true
    | _ => false
  | .punct p =>
    match p with
    | .lpar | .lsqb | .lbrace | .minus | .star => true
    | _ => false
  | _ => false

/-- Whether the token can follow a complete pattern without `as`. -/
def followsPattern : Token → Bool
  | .word w =>
    match w with
    | .asKw | .ifKw => true
    | _ => false
  | .punct p =>
    match p with
    | .vbar | .comma | .colon | .rpar | .rsqb | .rbrace => true
    | _ => false
  | _ => false

namespace PatternRules

open AbcMetric.Parser

/-- A number. -/
def number : Parser Expr := do
  let constant (value : Constant) : Parser Expr := do
    let l ← advance
    return .constant l.span value none
  match ← peek with
  | some (.int n) => constant (.int n)
  | some (.float x) => constant (.float x)
  | some (.imaginary x) => constant (.imaginary x)
  | _ => unexpected

/-- A number with or without a minus, or the sum or difference of such a number and another. -/
def signedSum : Parser Expr := do
  let start ← place
  let left ←
    if ← accept (.punct .minus) then do
      let operand ← number
      pure (.unaryOp (← since start) .minus operand)
    else number
  let join (op : BinaryOperator) : Parser Expr := do
    let _ ← advance
    let right ← number
    return .binOp (← since start) left op right
  match ← peek with
  | some (.punct .plus) => join .add
  | some (.punct .minus) => join .sub
  | _ => return left

/-- Attributes behind a name. -/
def dots (start : Nat) (e : Expr) : Nat → Parser Expr
  | 0 => unexpected
  | fuel + 1 => do
    if ← accept (.punct .dot) then
      let attr ← identifier
      dots start (.attr (← since start) e attr .load) fuel
    else return e

/-- The literal, dotted name or singleton that is the key of a mapping pattern. -/
def mappingKey (p : PatternRules) : Parser Expr := do
  let constant (value : Constant) : Parser Expr := do
    let l ← advance
    return .constant l.span value none
  match ← peek with
  | some (.string _) => p.rules.strings (· = .punct .colon)
  | some (.word .trueKw) => constant (.bool true)
  | some (.word .falseKw) => constant (.bool false)
  | some (.word .noneKw) => constant .none
  | some (.name id) =>
    let l ← advance
    expect (.punct .dot)
    let attr ← identifier
    dots l.span.start (.attr (← since l.span.start) (.name l.span id .load) attr .load)
      p.rules.budget
  | _ => signedSum

/-- One key with its pattern. -/
def mappingEntry (p : PatternRules) : Parser MappingEntry := do
  let key ← p.mappingKey
  expect (.punct .colon)
  return ⟨key, ← p.pattern⟩

/-- The entries of a mapping pattern and the name for the rest, which comes last. -/
def mappingTail (p : PatternRules) (done : List MappingEntry) :
    Nat → Parser (List MappingEntry × Option String)
  | 0 => unexpected
  | fuel + 1 => do
    match ← peek with
    | some (.punct .rbrace) => return (done.reverse, none)
    | some (.punct .doubleStar) =>
      let _ ← advance
      let name ← identifier
      let _ ← accept (.punct .comma)
      return (done.reverse, some name)
    | _ =>
      let e ← p.mappingEntry
      if ← accept (.punct .comma) then p.mappingTail (e :: done) fuel
      else return ((e :: done).reverse, none)

/-- A mapping pattern. -/
def mapping (p : PatternRules) : Parser Pattern := do
  let start ← place
  expect (.punct .lbrace)
  let (entries, rest) ← p.mappingTail [] p.rules.budget
  expect (.punct .rbrace)
  return .mapping (← since start) entries rest

/-- A named sub-pattern of a class pattern. -/
def namedPattern (p : PatternRules) : Parser NamedPattern := do
  let name ← identifier
  expect (.punct .equal)
  return ⟨name, ← p.pattern⟩

/-- The sub-patterns of a class pattern: those by position, then those by name. -/
def classArguments (p : PatternRules) (done : List Pattern) :
    Nat → Parser (List Pattern × List NamedPattern)
  | 0 => unexpected
  | fuel + 1 => do
    match ← peek, ← peekSecond with
    | some (.punct .rpar), _ => return (done.reverse, [])
    | some (.name _), some (.punct .equal) =>
      let starts : Token → Bool
        | .name _ => true
        | _ => false
      let (named, _) ← commaList p.rules.budget starts p.namedPattern
      return (done.reverse, named)
    | _, _ =>
      let q ← p.pattern
      if ← accept (.punct .comma) then p.classArguments (q :: done) fuel
      else return ((q :: done).reverse, [])

/-- What starts with a name: a capture, a dotted value or a class pattern. -/
def named (p : PatternRules) : Parser Pattern := do
  let start ← place
  let l ← advance
  let id := match l.token with
    | .name id => id
    | _ => ""
  let cls ← dots start (.name l.span id .load) p.rules.budget
  if ← accept (.punct .lpar) then
    let (patterns, named) ← p.classArguments [] p.rules.budget
    expect (.punct .rpar)
    return .classPattern (← since start) cls patterns named
  else
    match cls with
    | .name .. => return .capture (← since start) none (captured id)
    | _ => return .value (← since start) cls

/-- Patterns between parentheses: a group, or a sequence. -/
def group (p : PatternRules) : Parser Pattern := do
  let start ← place
  expect (.punct .lpar)
  if ← accept (.punct .rpar) then return .sequence (← since start) []
  else
    let (patterns, trailing) ← commaList p.rules.budget startsPattern p.pattern
    expect (.punct .rpar)
    match patterns, trailing with
    | [single], false => return single
    | _, _ => return .sequence (← since start) patterns

/-- Patterns between brackets. -/
def bracketed (p : PatternRules) : Parser Pattern := do
  let start ← place
  expect (.punct .lsqb)
  if ← accept (.punct .rsqb) then return .sequence (← since start) []
  else
    let (patterns, _) ← commaList p.rules.budget startsPattern p.pattern
    expect (.punct .rsqb)
    return .sequence (← since start) patterns

/-- A pattern without bars and `as`. -/
def closed (p : PatternRules) : Parser Pattern := do
  let start ← place
  let singleton (value : Constant) : Parser Pattern := do
    let l ← advance
    return .singleton l.span value
  match ← peek with
  | some (.word .noneKw) => singleton .none
  | some (.word .trueKw) => singleton (.bool true)
  | some (.word .falseKw) => singleton (.bool false)
  | some (.string _) =>
    let e ← p.rules.strings followsPattern
    return .value (← since start) e
  | some (.name _) => p.named
  | some (.punct .star) =>
    let _ ← advance
    let name ← identifier
    return .star (← since start) (captured name)
  | some (.punct .lpar) => p.group
  | some (.punct .lsqb) => p.bracketed
  | some (.punct .lbrace) => p.mapping
  | _ =>
    let e ← signedSum
    return .value (← since start) e

/-- Closed patterns joined by bars. -/
def alternatives (p : PatternRules) : Parser Pattern := do
  let start ← place
  let first ← p.closed
  let next : Parser Pattern := do
    expect (.punct .vbar)
    p.closed
  match ← manyWhile (· = .punct .vbar) next [] p.rules.budget with
  | [] => return first
  | more => return .alternatives (← since start) (first :: more)

/-- A pattern, bound to a name by `as` or not. -/
def binding (p : PatternRules) : Parser Pattern := do
  let start ← place
  let pattern ← p.alternatives
  if ← accept (.word .asKw) then
    let name ← identifier
    if name = "_" then fail .underscoreTarget start
    else return .capture (← since start) (some pattern) (some name)
  else return pattern

/-- The pattern of a `case`: one alone, or a sequence without brackets. -/
def top (p : PatternRules) : Parser Pattern := do
  let start ← place
  match ← commaList p.rules.budget startsPattern p.binding with
  | ([single], false) => return single
  | (patterns, _) => return .sequence (← since start) patterns

/-- The rules with `depth` levels of nesting left. -/
def level (rules : Rules) : Nat → PatternRules
  | 0 => ⟨rules, do fail .nestingLimit (← place)⟩
  | depth + 1 => ⟨rules, fun s => (level rules depth).binding s⟩

end PatternRules

end AbcMetric
