import AbcMetric.Syntax.Expr
import AbcMetric.Syntax.Pattern

/-!
# Statements

The tree of a statement; a module is a list of them. Clauses without a place of their own
(`with` items and `case` blocks) carry no span.
-/

namespace AbcMetric

/-- A type parameter of a function, class or alias; only a type variable has a bound. -/
inductive TypeParam where
  | typeVar (span : Span) (name : String) (bound : Option Expr)
  | paramSpec (span : Span) (name : String)
  | typeVarTuple (span : Span) (name : String)

/-- An imported name and what it is bound to. -/
structure Alias where
  span : Span
  name : String
  asname : Option String
  deriving Repr

/-- One context manager of a `with`. -/
structure WithItem where
  context : Expr
  vars : Option Expr

mutual

/-- A statement. `isAsync` tells the `async` form apart, `isStar` the `except*` form. -/
inductive Stmt where
  | functionDef (span : Span) (isAsync : Bool) (name : String) (params : Params)
      (body : List Stmt) (decorators : List Expr) (returns : Option Expr)
      (typeParams : List TypeParam)
  | classDef (span : Span) (name : String) (bases : List Expr) (keywords : List Keyword)
      (body : List Stmt) (decorators : List Expr) (typeParams : List TypeParam)
  | returnValue (span : Span) (value : Option Expr)
  | delete (span : Span) (targets : List Expr)
  | assign (span : Span) (targets : List Expr) (value : Expr)
  | typeAlias (span : Span) (name : Expr) (typeParams : List TypeParam) (value : Expr)
  | augAssign (span : Span) (target : Expr) (op : BinaryOperator) (value : Expr)
  | annAssign (span : Span) (target hint : Expr) (value : Option Expr)
  | forLoop (span : Span) (isAsync : Bool) (target iter : Expr) (body orelse : List Stmt)
  | whileLoop (span : Span) (test : Expr) (body orelse : List Stmt)
  | ifElse (span : Span) (test : Expr) (body orelse : List Stmt)
  | withBlock (span : Span) (isAsync : Bool) (items : List WithItem) (body : List Stmt)
  | matchCases (span : Span) (subject : Expr) (cases : List MatchCase)
  | raise (span : Span) (exc cause : Option Expr)
  | tryBlock (span : Span) (isStar : Bool) (body : List Stmt) (handlers : List ExceptHandler)
      (orelse final : List Stmt)
  | assertTest (span : Span) (test : Expr) (msg : Option Expr)
  | importModules (span : Span) (names : List Alias)
  | importFrom (span : Span) (module : Option String) (names : List Alias) (level : Nat)
  | global (span : Span) (names : List String)
  | nonlocal (span : Span) (names : List String)
  | expr (span : Span) (value : Expr)
  | pass (span : Span)
  | breakLoop (span : Span)
  | continueLoop (span : Span)

/-- An `except` clause. -/
structure ExceptHandler where
  span : Span
  type : Option Expr
  name : Option String
  body : List Stmt

/-- A `case` clause. -/
structure MatchCase where
  pattern : Pattern
  guard : Option Expr
  body : List Stmt

end

namespace Stmt

/-- The bytes a statement covers. -/
def span : Stmt → Span
  | .functionDef s .. | .classDef s .. | .returnValue s .. | .delete s .. | .assign s ..
  | .typeAlias s .. | .augAssign s .. | .annAssign s .. | .forLoop s .. | .whileLoop s ..
  | .ifElse s .. | .withBlock s .. | .matchCases s .. | .raise s .. | .tryBlock s ..
  | .assertTest s .. | .importModules s .. | .importFrom s .. | .global s .. | .nonlocal s ..
  | .expr s .. | .pass s | .breakLoop s | .continueLoop s => s

/-- The grammatical kind. -/
def kind : Stmt → String
  | .functionDef _ false .. => "FunctionDef"
  | .functionDef _ true .. => "AsyncFunctionDef"
  | .classDef .. => "ClassDef"
  | .returnValue .. => "Return"
  | .delete .. => "Delete"
  | .assign .. => "Assign"
  | .typeAlias .. => "TypeAlias"
  | .augAssign .. => "AugAssign"
  | .annAssign .. => "AnnAssign"
  | .forLoop _ false .. => "For"
  | .forLoop _ true .. => "AsyncFor"
  | .whileLoop .. => "While"
  | .ifElse .. => "If"
  | .withBlock _ false .. => "With"
  | .withBlock _ true .. => "AsyncWith"
  | .matchCases .. => "Match"
  | .raise .. => "Raise"
  | .tryBlock _ false .. => "Try"
  | .tryBlock _ true .. => "TryStar"
  | .assertTest .. => "Assert"
  | .importModules .. => "Import"
  | .importFrom .. => "ImportFrom"
  | .global .. => "Global"
  | .nonlocal .. => "Nonlocal"
  | .expr .. => "Expr"
  | .pass .. => "Pass"
  | .breakLoop .. => "Break"
  | .continueLoop .. => "Continue"

end Stmt

end AbcMetric
