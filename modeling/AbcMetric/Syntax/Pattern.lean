import AbcMetric.Syntax.Expr

/-!
# Patterns of a `case`

The expressions a pattern holds are the value of a literal or dotted name, the keys of a mapping
and the class of a class pattern; everything else is patterns and bare names.
-/

namespace AbcMetric

mutual

/-- What a `case` matches its subject against. -/
inductive Pattern where
  | value (span : Span) (value : Expr)
  | singleton (span : Span) (value : Constant)
  | sequence (span : Span) (patterns : List Pattern)
  | mapping (span : Span) (entries : List MappingEntry) (rest : Option String)
  | classPattern (span : Span) (cls : Expr) (patterns : List Pattern) (named : List NamedPattern)
  | star (span : Span) (name : Option String)
  | capture (span : Span) (pattern : Option Pattern) (name : Option String)
  | alternatives (span : Span) (patterns : List Pattern)

/-- A key of a mapping pattern and the pattern its value has to match. -/
structure MappingEntry where
  key : Expr
  pattern : Pattern

/-- An attribute of a class pattern and the pattern it has to match. -/
structure NamedPattern where
  name : String
  pattern : Pattern

end

/-- The bytes a pattern covers. -/
def Pattern.span : Pattern → Span
  | .value s .. | .singleton s .. | .sequence s .. | .mapping s .. | .classPattern s ..
  | .star s .. | .capture s .. | .alternatives s .. => s

end AbcMetric
