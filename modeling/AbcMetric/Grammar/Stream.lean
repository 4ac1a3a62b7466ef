import AbcMetric.Token.SoftWord

/-!
# Reading tokens

The grammar rules read from a `Stream` of tokens. Behind the last token stands the end of the text
or a lexical fault; the fault is raised as soon as the token before it is taken, so it wins over
every check that would be made later.

A rule fails with a `Failure`, which also tells how many tokens were left, so that of two attempts
the one that got further can be reported (`orFurther`).
-/

namespace AbcMetric

/-- The tokens not yet read, what stands behind them, and where the last token read stopped. -/
structure Stream where
  rest : List Lexeme
  fault : Option Fault
  last : Nat

/-- A fault and how many tokens were left when it was found. -/
structure Failure where
  fault : Fault
  left : Nat

/-- A grammar rule. -/
abbrev Parser := StateT Stream (Except Failure)

namespace Parser

/-- Fails for `cause` at a byte offset. -/
def fail {α : Type} (cause : Cause) (offset : Nat) : Parser α := fun s =>
  .error ⟨⟨cause, offset⟩, s.rest.length⟩

/-- Fails at the next token, or at the end of the last one when the text has ended. -/
def unexpected {α : Type} : Parser α := fun s =>
  match s.rest with
  | [] => .error ⟨⟨.unexpectedEnd, s.last⟩, 0⟩
  | l :: _ => .error ⟨⟨.unexpectedToken l.token, l.span.start⟩, s.rest.length⟩

/-- The next token. -/
def peek : Parser (Option Token) := fun s =>
  .ok (s.rest.head?.map (·.token), s)

/-- The token after the next. -/
def peekSecond : Parser (Option Token) := fun s =>
  .ok ((s.rest.drop 1).head?.map (·.token), s)

/-- Where the next token starts. -/
def place : Parser Nat := fun s =>
  match s.rest with
  | [] => .ok (s.last, s)
  | l :: _ => .ok (l.span.start, s)

/-- Where the last token read stopped. -/
def lastStop : Parser Nat := fun s => .ok (s.last, s)

/-- The range from `start` to where the last token read stopped. -/
def since (start : Nat) : Parser Span := fun s => .ok (⟨start, s.last⟩, s)

/-- Raises the lexical fault if it is what comes next. -/
def settle : Parser Unit := fun s =>
  match s.rest, s.fault with
  | [], some fault => .error ⟨fault, 0⟩
  | _, _ => .ok ((), s)

/-- Takes the next token. -/
def advance : Parser Lexeme := do
  match (← get).rest with
  | [] => unexpected
  | l :: rest =>
    modify fun s => { s with rest, last := l.span.stop }
    settle
    return l

/-- Takes the next token if it is `token`. -/
def accept (token : Token) : Parser Bool := do
  if (← peek) = some token then
    let _ ← advance
    return true
  else return false

/-- Takes the next token if `token` may stand here and it is that one. -/
def acceptIf (allowed : Bool) (token : Token) : Parser Bool :=
  if allowed then accept token else return false

/-- Takes the next token, which has to be `token`. -/
def expect (token : Token) : Parser Unit := do
  if (← peek) = some token then
    let _ ← advance
  else unexpected

/-- Whether the next token satisfies `p`. -/
def nextIs (p : Token → Bool) : Parser Bool :=
  return ((← peek).map p).getD false

/-- Takes a name. -/
def identifier : Parser String := do
  match ← peek with
  | some (.name text) =>
    let _ ← advance
    return text
  | _ => unexpected

/-- The first attempt that succeeds; if both fail, the failure that left fewer tokens. -/
def orFurther {α : Type} (first second : Parser α) : Parser α := fun s =>
  match first s with
  | .ok result => .ok result
  | .error a =>
    match second s with
    | .ok result => .ok result
    | .error b => .error (if a.left < b.left then a else b)

/-! ## Lists -/

/-- What follows the elements in `done`: more of them, each after a comma. The flag tells whether
the list ends in a comma. -/
def commaTail {α : Type} (starts : Token → Bool) (element : Parser α) (done : List α) :
    Nat → Parser (List α × Bool)
  | 0 => unexpected
  | fuel + 1 => do
    if ← accept (.punct .comma) then
      if ← nextIs starts then
        let x ← element
        commaTail starts element (x :: done) fuel
      else return (done.reverse, true)
    else return (done.reverse, false)

/-- One or more elements with commas between and, perhaps, behind them. -/
def commaList {α : Type} (budget : Nat) (starts : Token → Bool) (element : Parser α) :
    Parser (List α × Bool) := do
  let first ← element
  commaTail starts element [first] budget

/-- As many elements as start with a token that satisfies `starts`. -/
def manyWhile {α : Type} (starts : Token → Bool) (element : Parser α) (done : List α) :
    Nat → Parser (List α)
  | 0 => unexpected
  | fuel + 1 => do
    if ← nextIs starts then
      let x ← element
      manyWhile starts element (x :: done) fuel
    else return done.reverse

end Parser

end AbcMetric
