import AbcMetric.Number.Shortest
import AbcMetric.Text.Quoted
import AbcMetric.Syntax.Stmt

/-!
# Dumps of syntax trees

A dump shows a tree as nested records. `Dump` is the shape of what is shown and `Dump.render` its
layout: four spaces a level, every field and element on a line of its own with a comma behind it.
-/

namespace AbcMetric

/-- What a dump shows. -/
inductive Dump where
  | atom (text : String)
  | list (items : List Dump)
  | variant (name : String) (content : Dump)
  | record (name : String) (fields : List (String × Dump))

namespace Dump

/-- Spaces in front of a line. -/
def margin (depth : Nat) : String := String.ofList (List.replicate (4 * depth) ' ')

mutual

/-- The text of a dump whose first line is already indented by `depth` levels. -/
def render (depth : Nat) : Dump → String
  | .atom text => text
  | .list [] => "[]"
  | .list (item :: items) => "[\n" ++ renderItems depth (item :: items) ++ margin depth ++ "]"
  | .variant name content =>
    let inner := margin (depth + 1) ++ render (depth + 1) content
    name ++ "(\n" ++ inner ++ ",\n" ++ margin depth ++ ")"
  | .record name fields =>
    name ++ " \x7b\n" ++ renderFields depth fields ++ margin depth ++ "\x7d"

/-- Elements, each on its own line. -/
def renderItems (depth : Nat) : List Dump → String
  | [] => ""
  | item :: items =>
    margin (depth + 1) ++ render (depth + 1) item ++ ",\n" ++ renderItems depth items

/-- Fields, each on its own line behind its name. -/
def renderFields (depth : Nat) : List (String × Dump) → String
  | [] => ""
  | (name, value) :: fields =>
    margin (depth + 1) ++ name ++ ": " ++ render (depth + 1) value ++ ",\n" ++
      renderFields depth fields

end

/-- A value that may be missing. -/
def option : Option Dump → Dump
  | none => .atom "None"
  | some d => .variant "Some" d

/-- A truth value. -/
def bool (b : Bool) : Dump := .atom (if b then "true" else "false")

/-- A quoted string. -/
def string (s : String) : Dump := .atom (quoted s)

/-- A name. -/
def identifier (s : String) : Dump := .variant "Identifier" (string s)

/-- A node of a family of nodes: its kind around a record named for family and kind. -/
def node (family kind : String) (span : Span) (fields : List (String × Dump)) : Dump :=
  .variant kind (.record (family ++ kind) (("range", .atom span.text) :: fields))

/-- A record with a place in the source. -/
def placed (name : String) (span : Span) (fields : List (String × Dump)) : Dump :=
  .record name (("range", .atom span.text) :: fields)

/-- A record without a place in the source. -/
def unplaced (name : String) (fields : List (String × Dump)) : Dump :=
  .record name (("range", .atom "()") :: fields)

end Dump

/-- The dump of a literal value. -/
def Constant.dump : Constant → Dump
  | .none => .atom "None"
  | .bool b => .variant "Bool" (.bool b)
  | .str s => .variant "Str" (.string s)
  | .bytes bs => .variant "Bytes" (.list (bs.map fun b => .atom (toString b.toNat)))
  | .int n => .variant "Int" (.atom (toString n))
  | .float x => .variant "Float" (.atom x.general)
  | .imaginary x => .record "Complex" [("real", .atom "0.0"), ("imag", .atom x.general)]
  | .ellipsis => .atom "Ellipsis"

mutual

/-- The dump of an expression. -/
def Expr.dump : Expr → Dump
  | .boolOp s op values =>
    .node "Expr" "BoolOp" s [("op", .atom op.label), ("values", .list (dumpExprs values))]
  | .namedExpr s target value =>
    .node "Expr" "NamedExpr" s [("target", target.dump), ("value", value.dump)]
  | .binOp s left op right =>
    .node "Expr" "BinOp" s [("left", left.dump), ("op", .atom op.label), ("right", right.dump)]
  | .unaryOp s op operand =>
    .node "Expr" "UnaryOp" s [("op", .atom op.label), ("operand", operand.dump)]
  | .lambda s params body =>
    .node "Expr" "Lambda" s [("args", params.dump), ("body", body.dump)]
  | .ifExp s test body orelse =>
    .node "Expr" "IfExp" s [("test", test.dump), ("body", body.dump), ("orelse", orelse.dump)]
  | .dict s items =>
    .node "Expr" "Dict" s [("keys", .list (dumpKeys items)), ("values", .list (dumpValues items))]
  | .set s elts => .node "Expr" "Set" s [("elts", .list (dumpExprs elts))]
  | .listComp s elt generators =>
    .node "Expr" "ListComp" s
      [("elt", elt.dump), ("generators", .list (dumpComprehensions generators))]
  | .setComp s elt generators =>
    .node "Expr" "SetComp" s
      [("elt", elt.dump), ("generators", .list (dumpComprehensions generators))]
  | .dictComp s key value generators =>
    .node "Expr" "DictComp" s
      [("key", key.dump), ("value", value.dump),
       ("generators", .list (dumpComprehensions generators))]
  | .generatorExp s elt generators =>
    .node "Expr" "GeneratorExp" s
      [("elt", elt.dump), ("generators", .list (dumpComprehensions generators))]
  | .await s value => .node "Expr" "Await" s [("value", value.dump)]
  | .yield s value => .node "Expr" "Yield" s [("value", .option (dumpOption value))]
  | .yieldFrom s value => .node "Expr" "YieldFrom" s [("value", value.dump)]
  | .compare s left links =>
    .node "Expr" "Compare" s
      [("left", left.dump), ("ops", .list (links.map fun link => .atom link.op.label)),
       ("comparators", .list (dumpLinks links))]
  | .call s func args keywords =>
    .node "Expr" "Call" s
      [("func", func.dump), ("args", .list (dumpExprs args)),
       ("keywords", .list (dumpKeywords keywords))]
  | .formattedValue s value conversion formatSpec =>
    .node "Expr" "FormattedValue" s
      [("value", value.dump), ("conversion", .atom conversion.label),
       ("format_spec", .option (dumpOption formatSpec))]
  | .joinedStr s values => .node "Expr" "JoinedStr" s [("values", .list (dumpExprs values))]
  | .constant s value mark =>
    .node "Expr" "Constant" s [("value", value.dump), ("kind", .option (mark.map .string))]
  | .attr s value name usage =>
    .node "Expr" "Attribute" s
      [("value", value.dump), ("attr", .identifier name), ("ctx", .atom usage.label)]
  | .subscript s value slice usage =>
    .node "Expr" "Subscript" s
      [("value", value.dump), ("slice", slice.dump), ("ctx", .atom usage.label)]
  | .starred s value usage =>
    .node "Expr" "Starred" s [("value", value.dump), ("ctx", .atom usage.label)]
  | .name s id usage => .node "Expr" "Name" s [("id", .identifier id), ("ctx", .atom usage.label)]
  | .list s elts usage =>
    .node "Expr" "List" s [("elts", .list (dumpExprs elts)), ("ctx", .atom usage.label)]
  | .tuple s elts usage =>
    .node "Expr" "Tuple" s [("elts", .list (dumpExprs elts)), ("ctx", .atom usage.label)]
  | .slice s lower upper step =>
    .node "Expr" "Slice" s
      [("lower", .option (dumpOption lower)), ("upper", .option (dumpOption upper)),
       ("step", .option (dumpOption step))]

/-- The dumps of expressions. -/
def dumpExprs : List Expr → List Dump
  | [] => []
  | e :: rest => e.dump :: dumpExprs rest

/-- The dump of an expression that may be missing. -/
def dumpOption : Option Expr → Option Dump
  | none => none
  | some e => some e.dump

/-- The keys of dictionary entries; a spread entry has none. -/
def dumpKeys : List DictItem → List Dump
  | [] => []
  | .pair key _ :: rest => .option (some key.dump) :: dumpKeys rest
  | .spread _ :: rest => .option none :: dumpKeys rest

/-- The values of dictionary entries. -/
def dumpValues : List DictItem → List Dump
  | [] => []
  | .pair _ value :: rest => value.dump :: dumpValues rest
  | .spread value :: rest => value.dump :: dumpValues rest

/-- The right-hand sides of comparison links. -/
def dumpLinks : List CompareLink → List Dump
  | [] => []
  | ⟨_, operand⟩ :: rest => operand.dump :: dumpLinks rest

/-- The dumps of comprehension clauses. -/
def dumpComprehensions : List Comprehension → List Dump
  | [] => []
  | c :: rest => c.dump :: dumpComprehensions rest

/-- The dump of a comprehension clause. -/
def Comprehension.dump : Comprehension → Dump
  | ⟨target, iter, conditions, isAsync⟩ =>
    .unplaced "Comprehension"
      [("target", target.dump), ("iter", iter.dump), ("ifs", .list (dumpExprs conditions)),
       ("is_async", .bool isAsync)]

/-- The dumps of named arguments. -/
def dumpKeywords : List Keyword → List Dump
  | [] => []
  | k :: rest => k.dump :: dumpKeywords rest

/-- The dump of a named argument. -/
def Keyword.dump : Keyword → Dump
  | ⟨s, arg, value⟩ =>
    .placed "Keyword" s [("arg", .option (arg.map .identifier)), ("value", value.dump)]

/-- The dump of a parameter name. -/
def Arg.dump : Arg → Dump
  | ⟨s, name, hint⟩ =>
    .placed "Arg" s
      [("arg", .identifier name), ("annotation", .option (dumpOption hint)),
       ("type_comment", .option none)]

/-- The dump of a parameter name that may be missing. -/
def dumpArg : Option Arg → Option Dump
  | none => none
  | some a => some a.dump

/-- The dump of a parameter. -/
def Param.dump : Param → Dump
  | ⟨arg, default⟩ =>
    .unplaced "ArgWithDefault" [("def", arg.dump), ("default", .option (dumpOption default))]

/-- The dumps of parameters. -/
def dumpParams : List Param → List Dump
  | [] => []
  | p :: rest => p.dump :: dumpParams rest

/-- The dump of a parameter list. -/
def Params.dump : Params → Dump
  | ⟨positionalOnly, regular, vararg, keywordOnly, kwarg⟩ =>
    .unplaced "Arguments"
      [("posonlyargs", .list (dumpParams positionalOnly)), ("args", .list (dumpParams regular)),
       ("vararg", .option (dumpArg vararg)), ("kwonlyargs", .list (dumpParams keywordOnly)),
       ("kwarg", .option (dumpArg kwarg))]

end

mutual

/-- The dump of a pattern. -/
def Pattern.dump : Pattern → Dump
  | .value s value => .node "Pattern" "MatchValue" s [("value", value.dump)]
  | .singleton s value => .node "Pattern" "MatchSingleton" s [("value", value.dump)]
  | .sequence s patterns =>
    .node "Pattern" "MatchSequence" s [("patterns", .list (dumpPatterns patterns))]
  | .mapping s entries rest =>
    .node "Pattern" "MatchMapping" s
      [("keys", .list (entries.map (·.key.dump))), ("patterns", .list (dumpEntries entries)),
       ("rest", .option (rest.map .identifier))]
  | .classPattern s cls patterns named =>
    .node "Pattern" "MatchClass" s
      [("cls", cls.dump), ("patterns", .list (dumpPatterns patterns)),
       ("kwd_attrs", .list (named.map (.identifier ·.name))),
       ("kwd_patterns", .list (dumpNamed named))]
  | .star s name => .node "Pattern" "MatchStar" s [("name", .option (name.map .identifier))]
  | .capture s none name =>
    .node "Pattern" "MatchAs" s
      [("pattern", .option none), ("name", .option (name.map .identifier))]
  | .capture s (some pattern) name =>
    .node "Pattern" "MatchAs" s
      [("pattern", .option (some pattern.dump)), ("name", .option (name.map .identifier))]
  | .alternatives s patterns =>
    .node "Pattern" "MatchOr" s [("patterns", .list (dumpPatterns patterns))]

/-- The dumps of patterns. -/
def dumpPatterns : List Pattern → List Dump
  | [] => []
  | p :: rest => p.dump :: dumpPatterns rest

/-- The patterns of mapping entries. -/
def dumpEntries : List MappingEntry → List Dump
  | [] => []
  | ⟨_, pattern⟩ :: rest => pattern.dump :: dumpEntries rest

/-- The patterns of named sub-patterns. -/
def dumpNamed : List NamedPattern → List Dump
  | [] => []
  | ⟨_, pattern⟩ :: rest => pattern.dump :: dumpNamed rest

end

/-- The dump of a type parameter. -/
def TypeParam.dump : TypeParam → Dump
  | .typeVar s name bound =>
    .node "TypeParam" "TypeVar" s
      [("name", .identifier name), ("bound", .option (dumpOption bound))]
  | .paramSpec s name => .node "TypeParam" "ParamSpec" s [("name", .identifier name)]
  | .typeVarTuple s name => .node "TypeParam" "TypeVarTuple" s [("name", .identifier name)]

/-- The dump of an imported name. -/
def Alias.dump (a : Alias) : Dump :=
  .placed "Alias" a.span
    [("name", .identifier a.name), ("asname", .option (a.asname.map .identifier))]

/-- The dump of a context manager. -/
def WithItem.dump (item : WithItem) : Dump :=
  .unplaced "WithItem"
    [("context_expr", item.context.dump), ("optional_vars", .option (dumpOption item.vars))]

/-- Whether an annotated target is a bare name. -/
def Expr.isName : Expr → Bool
  | .name .. => true
  | _ => false

mutual

/-- The dump of a statement. -/
def Stmt.dump : Stmt → Dump
  | .functionDef s isAsync name params body decorators returns typeParams =>
    .node "Stmt" (if isAsync then "AsyncFunctionDef" else "FunctionDef") s
      [("name", .identifier name), ("args", params.dump), ("body", .list (dumpStmts body)),
       ("decorator_list", .list (dumpExprs decorators)), ("returns", .option (dumpOption returns)),
       ("type_comment", .option none), ("type_params", .list (typeParams.map (·.dump)))]
  | .classDef s name bases keywords body decorators typeParams =>
    .node "Stmt" "ClassDef" s
      [("name", .identifier name), ("bases", .list (dumpExprs bases)),
       ("keywords", .list (dumpKeywords keywords)), ("body", .list (dumpStmts body)),
       ("decorator_list", .list (dumpExprs decorators)),
       ("type_params", .list (typeParams.map (·.dump)))]
  | .returnValue s value => .node "Stmt" "Return" s [("value", .option (dumpOption value))]
  | .delete s targets => .node "Stmt" "Delete" s [("targets", .list (dumpExprs targets))]
  | .assign s targets value =>
    .node "Stmt" "Assign" s
      [("targets", .list (dumpExprs targets)), ("value", value.dump),
       ("type_comment", .option none)]
  | .typeAlias s name typeParams value =>
    .node "Stmt" "TypeAlias" s
      [("name", name.dump), ("type_params", .list (typeParams.map (·.dump))),
       ("value", value.dump)]
  | .augAssign s target op value =>
    .node "Stmt" "AugAssign" s
      [("target", target.dump), ("op", .atom op.label), ("value", value.dump)]
  | .annAssign s target hint value =>
    .node "Stmt" "AnnAssign" s
      [("target", target.dump), ("annotation", hint.dump),
       ("value", .option (dumpOption value)), ("simple", .bool target.isName)]
  | .forLoop s isAsync target iter body orelse =>
    .node "Stmt" (if isAsync then "AsyncFor" else "For") s
      [("target", target.dump), ("iter", iter.dump), ("body", .list (dumpStmts body)),
       ("orelse", .list (dumpStmts orelse)), ("type_comment", .option none)]
  | .whileLoop s test body orelse =>
    .node "Stmt" "While" s
      [("test", test.dump), ("body", .list (dumpStmts body)),
       ("orelse", .list (dumpStmts orelse))]
  | .ifElse s test body orelse =>
    .node "Stmt" "If" s
      [("test", test.dump), ("body", .list (dumpStmts body)),
       ("orelse", .list (dumpStmts orelse))]
  | .withBlock s isAsync items body =>
    .node "Stmt" (if isAsync then "AsyncWith" else "With") s
      [("items", .list (items.map (·.dump))), ("body", .list (dumpStmts body)),
       ("type_comment", .option none)]
  | .matchCases s subject cases =>
    .node "Stmt" "Match" s [("subject", subject.dump), ("cases", .list (dumpCases cases))]
  | .raise s exc cause =>
    .node "Stmt" "Raise" s
      [("exc", .option (dumpOption exc)), ("cause", .option (dumpOption cause))]
  | .tryBlock s isStar body handlers orelse final =>
    .node "Stmt" (if isStar then "TryStar" else "Try") s
      [("body", .list (dumpStmts body)), ("handlers", .list (dumpHandlers handlers)),
       ("orelse", .list (dumpStmts orelse)), ("finalbody", .list (dumpStmts final))]
  | .assertTest s test msg =>
    .node "Stmt" "Assert" s [("test", test.dump), ("msg", .option (dumpOption msg))]
  | .importModules s names => .node "Stmt" "Import" s [("names", .list (names.map (·.dump)))]
  | .importFrom s module names level =>
    .node "Stmt" "ImportFrom" s
      [("module", .option (module.map .identifier)), ("names", .list (names.map (·.dump))),
       ("level", .option (some (.variant "Int" (.atom (toString level)))))]
  | .global s names => .node "Stmt" "Global" s [("names", .list (names.map .identifier))]
  | .nonlocal s names => .node "Stmt" "Nonlocal" s [("names", .list (names.map .identifier))]
  | .expr s value => .node "Stmt" "Expr" s [("value", value.dump)]
  | .pass s => .node "Stmt" "Pass" s []
  | .breakLoop s => .node "Stmt" "Break" s []
  | .continueLoop s => .node "Stmt" "Continue" s []

/-- The dumps of statements. -/
def dumpStmts : List Stmt → List Dump
  | [] => []
  | s :: rest => s.dump :: dumpStmts rest

/-- The dumps of `except` clauses. -/
def dumpHandlers : List ExceptHandler → List Dump
  | [] => []
  | h :: rest => h.dump :: dumpHandlers rest

/-- The dump of an `except` clause. -/
def ExceptHandler.dump : ExceptHandler → Dump
  | ⟨s, type, name, body⟩ =>
    .node "ExceptHandler" "ExceptHandler" s
      [("type_", .option (dumpOption type)), ("name", .option (name.map .identifier)),
       ("body", .list (dumpStmts body))]

/-- The dumps of `case` clauses. -/
def dumpCases : List MatchCase → List Dump
  | [] => []
  | c :: rest => c.dump :: dumpCases rest

/-- The dump of a `case` clause. -/
def MatchCase.dump : MatchCase → Dump
  | ⟨pattern, guard, body⟩ =>
    .unplaced "MatchCase"
      [("pattern", pattern.dump), ("guard", .option (dumpOption guard)),
       ("body", .list (dumpStmts body))]

end

end AbcMetric
