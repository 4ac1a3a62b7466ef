import AbcMetric.Grammar.Rules

/-!
# Parameter lists

The parameters of a function or a `lambda`: positional-only ones before a slash, regular ones, a
star with or without a name, keyword-only ones, and a double star.

* `Params.misordered?` finds a parameter without a default after one that has a default.
* `Params.duplicate?` finds a parameter whose name an earlier one has.
-/

namespace AbcMetric

namespace Params

/-- No parameters. -/
def empty : Params := ⟨[], [], none, [], none⟩

/-- The positional parameters. -/
def positional (ps : Params) : List Param := ps.positionalOnly ++ ps.regular

/-- The names in the order in which they are compared. -/
def args (ps : Params) : List Arg :=
  (ps.positional ++ ps.keywordOnly).map (·.arg) ++ ps.vararg.toList ++ ps.kwarg.toList

/-- The first positional parameter that lacks a default after one that has a default. -/
def misordered? (ps : Params) : Option Param :=
  ((ps.positional.dropWhile (·.default.isNone)).dropWhile (·.default.isSome)).head?

end Params

/-- The first argument whose name is in `seen` or belongs to an earlier one. -/
def duplicateArg? (seen : List String) : List Arg → Option Arg
  | [] => none
  | a :: rest => if seen.contains a.name then some a else duplicateArg? (a.name :: seen) rest

/-- The first parameter whose name an earlier one has. -/
def Params.duplicate? (ps : Params) : Option Arg := duplicateArg? [] ps.args

namespace Rules

open AbcMetric.Parser

/-- A parameter name with its type hint, where one is allowed. -/
def arg (hint : Option (Parser Expr)) : Parser Arg := do
  let start ← place
  let name ← identifier
  match hint with
  | some rule =>
    if ← accept (.punct .colon) then
      let e ← rule
      return ⟨← since start, name, some e⟩
    else return ⟨← since start, name, none⟩
  | none => return ⟨← since start, name, none⟩

/-- A parameter with its default. -/
def param (r : Rules) (hint : Option (Parser Expr)) : Parser Param := do
  let a ← arg hint
  if ← accept (.punct .equal) then
    let value ← r.test
    return ⟨a, some value⟩
  else return ⟨a, none⟩

/-- Where a parameter list stands: after names only, after a slash, after a star, or after the
double star, behind which nothing may follow. -/
inductive Phase where
  | regular
  | afterSlash
  | afterStar (star : Nat)
  | afterDoubleStar
  deriving DecidableEq

/-- Parameters read so far, in source order. -/
structure ParamState where
  phase : Phase := .regular
  params : Params := Params.empty

/-- Adds a parameter in the group that the phase selects. -/
def ParamState.add (s : ParamState) (p : Param) : ParamState :=
  match s.phase with
  | .afterStar _ =>
    { s with params := { s.params with keywordOnly := s.params.keywordOnly ++ [p] } }
  | _ => { s with params := { s.params with regular := s.params.regular ++ [p] } }

/-- Whether the parameters before the next one allow a slash. -/
def ParamState.allowsSlash (s : ParamState) : Bool :=
  s.phase = .regular && !s.params.regular.isEmpty

/-- Whether a star may come next. -/
def ParamState.allowsStar (s : ParamState) : Bool :=
  s.phase = .regular || s.phase = .afterSlash

/-- Whether a parameter list can go on with the token. -/
def ParamState.allows (s : ParamState) : Token → Bool
  | .name _ => true
  | .punct .star => s.allowsStar
  | .punct .slash => s.allowsSlash
  | .punct .doubleStar => true
  | _ => false

/-- One item of a parameter list. -/
def paramItem (r : Rules) (hint starHint : Option (Parser Expr)) (s : ParamState) :
    Parser ParamState := do
  let start ← place
  match ← peek with
  | some (.punct .doubleStar) =>
    let _ ← advance
    let kwarg ← match ← peek with
      | some (.name _) => some <$> arg hint
      | _ => pure none
    return ⟨.afterDoubleStar, { s.params with kwarg }⟩
  | some (.punct .star) =>
    if s.allowsStar then
      let _ ← advance
      let vararg ← match ← peek with
        | some (.name _) => some <$> arg starHint
        | _ => pure none
      return ⟨.afterStar start, { s.params with vararg }⟩
    else unexpected
  | some (.punct .slash) =>
    if s.allowsSlash then
      let _ ← advance
      return ⟨.afterSlash, { s.params with positionalOnly := s.params.regular, regular := [] }⟩
    else unexpected
  | _ => return s.add (← r.param hint)

/-- The rules that hold between the parameters of one list: a bare star needs a name after it, and
defaults come last among the positional ones. -/
def checkParams (s : ParamState) (star : Option Nat) : Parser Params := do
  let ps := s.params
  match star with
  | some offset =>
    if ps.vararg.isNone && ps.keywordOnly.isEmpty && s.phase ≠ .afterDoubleStar then
      fail .bareStar offset
  | none => pure ()
  match ps.misordered? with
  | some p => fail .defaultOrder p.arg.span.start
  | none => return ps

/-- The items of a parameter list after `s`, each behind a comma; the list is checked when `closer`
is next, or at once behind a comma after the double star. -/
def paramTail (r : Rules) (hint starHint : Option (Parser Expr)) (closer : Token)
    (star : Option Nat) (s : ParamState) : Nat → Parser Params
  | 0 => unexpected
  | fuel + 1 => do
    let star := match s.phase with
      | .afterStar offset => some offset
      | _ => star
    if ← accept (.punct .comma) then
      if s.phase = .afterDoubleStar then checkParams s star
      else if ← nextIs s.allows then
        let s ← r.paramItem hint starHint s
        r.paramTail hint starHint closer star s fuel
      else if (← peek) = some closer then checkParams s star
      else unexpected
    else if (← peek) = some closer then checkParams s star
    else unexpected

/-- A parameter list up to `closer`, which is not taken. -/
def params (r : Rules) (hint starHint : Option (Parser Expr)) (closer : Token) :
    Parser Params := do
  if (← peek) = some closer then return Params.empty
  else
    let s ← r.paramItem hint starHint {}
    r.paramTail hint starHint closer none s r.budget

/-- Refuses parameters of one name. -/
def distinctParams (ps : Params) : Parser Unit :=
  match ps.duplicate? with
  | some a => fail (.duplicateArgument a.name) a.span.start
  | none => pure ()

end Rules

end AbcMetric
