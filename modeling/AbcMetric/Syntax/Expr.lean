import AbcMetric.Source.Span
import AbcMetric.Syntax.Operator
import AbcMetric.Syntax.Constant

/-!
# Expressions

The tree of an expression. Every construct that has a place in the source carries its `span` first;
comprehension clauses and parameter lists have none.

* `Expr.kind` is the grammatical kind, the name under which a construct is reported.
* `Expr.withUsage` marks a target as bound or deleted, through tuples, lists and stars.
-/

namespace AbcMetric

mutual

/-- An expression. -/
inductive Expr where
  | boolOp (span : Span) (op : BoolOperator) (values : List Expr)
  | namedExpr (span : Span) (target value : Expr)
  | binOp (span : Span) (left : Expr) (op : BinaryOperator) (right : Expr)
  | unaryOp (span : Span) (op : UnaryOperator) (operand : Expr)
  | lambda (span : Span) (params : Params) (body : Expr)
  | ifExp (span : Span) (test body orelse : Expr)
  | dict (span : Span) (items : List DictItem)
  | set (span : Span) (elts : List Expr)
  | listComp (span : Span) (elt : Expr) (generators : List Comprehension)
  | setComp (span : Span) (elt : Expr) (generators : List Comprehension)
  | dictComp (span : Span) (key value : Expr) (generators : List Comprehension)
  | generatorExp (span : Span) (elt : Expr) (generators : List Comprehension)
  | await (span : Span) (value : Expr)
  | yield (span : Span) (value : Option Expr)
  | yieldFrom (span : Span) (value : Expr)
  | compare (span : Span) (left : Expr) (links : List CompareLink)
  | call (span : Span) (func : Expr) (args : List Expr) (keywords : List Keyword)
  | formattedValue (span : Span) (value : Expr) (conversion : Conversion)
      (formatSpec : Option Expr)
  | joinedStr (span : Span) (values : List Expr)
  | constant (span : Span) (value : Constant) (mark : Option String)
  | attr (span : Span) (value : Expr) (name : String) (usage : Usage)
  | subscript (span : Span) (value slice : Expr) (usage : Usage)
  | starred (span : Span) (value : Expr) (usage : Usage)
  | name (span : Span) (id : String) (usage : Usage)
  | list (span : Span) (elts : List Expr) (usage : Usage)
  | tuple (span : Span) (elts : List Expr) (usage : Usage)
  | slice (span : Span) (lower upper step : Option Expr)

/-- An entry of a dictionary display: a pair, or a mapping spread into it. -/
inductive DictItem where
  | pair (key value : Expr)
  | spread (value : Expr)

/-- One link of a chain of comparisons: the operator and what stands right of it. -/
structure CompareLink where
  op : CompareOperator
  operand : Expr

/-- A `for` clause of a comprehension with its conditions. -/
structure Comprehension where
  target : Expr
  iter : Expr
  conditions : List Expr
  isAsync : Bool

/-- A named argument of a call, or a mapping spread into it when there is no name. -/
structure Keyword where
  span : Span
  arg : Option String
  value : Expr

/-- The name of a parameter with its type hint. -/
structure Arg where
  span : Span
  name : String
  hint : Option Expr

/-- A parameter with its default. -/
structure Param where
  arg : Arg
  default : Option Expr

/-- The parameters of a function, by how an argument reaches them. -/
structure Params where
  positionalOnly : List Param
  regular : List Param
  vararg : Option Arg
  keywordOnly : List Param
  kwarg : Option Arg

end

instance : Inhabited Expr := ⟨.constant default .none none⟩

namespace Expr

/-- The bytes an expression covers. -/
def span : Expr → Span
  | .boolOp s .. | .namedExpr s .. | .binOp s .. | .unaryOp s .. | .lambda s .. | .ifExp s ..
  | .dict s .. | .set s .. | .listComp s .. | .setComp s .. | .dictComp s .. | .generatorExp s ..
  | .await s .. | .yield s .. | .yieldFrom s .. | .compare s .. | .call s .. | .formattedValue s ..
  | .joinedStr s .. | .constant s .. | .attr s .. | .subscript s .. | .starred s ..
  | .name s .. | .list s .. | .tuple s .. | .slice s .. => s

/-- The grammatical kind. -/
def kind : Expr → String
  | .boolOp .. => "BoolOp"
  | .namedExpr .. => "NamedExpr"
  | .binOp .. => "BinOp"
  | .unaryOp .. => "UnaryOp"
  | .lambda .. => "Lambda"
  | .ifExp .. => "IfExp"
  | .dict .. => "Dict"
  | .set .. => "Set"
  | .listComp .. => "ListComp"
  | .setComp .. => "SetComp"
  | .dictComp .. => "DictComp"
  | .generatorExp .. => "GeneratorExp"
  | .await .. => "Await"
  | .yield .. => "Yield"
  | .yieldFrom .. => "YieldFrom"
  | .compare .. => "Compare"
  | .call .. => "Call"
  | .formattedValue .. => "FormattedValue"
  | .joinedStr .. => "JoinedStr"
  | .constant .. => "Constant"
  | .attr .. => "Attribute"
  | .subscript .. => "Subscript"
  | .starred .. => "Starred"
  | .name .. => "Name"
  | .list .. => "List"
  | .tuple .. => "Tuple"
  | .slice .. => "Slice"

end Expr

mutual

/-- The expression as a target: tuples, lists and stars hand the usage on, an attribute or a
subscript takes it for itself, anything else stays. -/
def Expr.withUsage (usage : Usage) : Expr → Expr
  | .name s id _ => .name s id usage
  | .attr s value name _ => .attr s value name usage
  | .subscript s value slice _ => .subscript s value slice usage
  | .starred s value _ => .starred s (value.withUsage usage) usage
  | .list s elts _ => .list s (withUsageAll usage elts) usage
  | .tuple s elts _ => .tuple s (withUsageAll usage elts) usage
  | e => e

/-- `Expr.withUsage` on every element. -/
def withUsageAll (usage : Usage) : List Expr → List Expr
  | [] => []
  | e :: rest => e.withUsage usage :: withUsageAll usage rest

end

end AbcMetric
