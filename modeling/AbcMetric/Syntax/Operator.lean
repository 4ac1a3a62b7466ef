/-!
# Operators and other closed choices of the syntax tree

Each type has a `label`, the name it carries in a dump.
-/

namespace AbcMetric

/-- The connective of a chain of truth values. -/
inductive BoolOperator where
  | and
  | or
  deriving DecidableEq, Repr

/-- The name in a dump. -/
def BoolOperator.label : BoolOperator → String
  | .and => "And"
  | .or => "Or"

/-- An operator between two operands, also used by augmented assignments. -/
inductive BinaryOperator where
  | add
  | sub
  | mult
  | matMult
  | div
  | mod
  | pow
  | lShift
  | rShift
  | bitOr
  | bitXor
  | bitAnd
  | floorDiv
  deriving DecidableEq, Repr

/-- The name in a dump. -/
def BinaryOperator.label : BinaryOperator → String
  | .add => "Add"
  | .sub => "Sub"
  | .mult => "Mult"
  | .matMult => "MatMult"
  | .div => "Div"
  | .mod => "Mod"
  | .pow => "Pow"
  | .lShift => "LShift"
  | .rShift => "RShift"
  | .bitOr => "BitOr"
  | .bitXor => "BitXor"
  | .bitAnd => "BitAnd"
  | .floorDiv => "FloorDiv"

/-- An operator before its operand. -/
inductive UnaryOperator where
  | invert
  | not
  | plus
  | minus
  deriving DecidableEq, Repr

/-- The name in a dump. -/
def UnaryOperator.label : UnaryOperator → String
  | .invert => "Invert"
  | .not => "Not"
  | .plus => "UAdd"
  | .minus => "USub"

/-- A link of a chain of comparisons. -/
inductive CompareOperator where
  | eq
  | notEq
  | lt
  | ltE
  | gt
  | gtE
  | is
  | isNot
  | contained
  | notContained
  deriving DecidableEq, Repr

/-- The name in a dump. -/
def CompareOperator.label : CompareOperator → String
  | .eq => "Eq"
  | .notEq => "NotEq"
  | .lt => "Lt"
  | .ltE => "LtE"
  | .gt => "Gt"
  | .gtE => "GtE"
  | .is => "Is"
  | .isNot => "IsNot"
  | .contained => "In"
  | .notContained => "NotIn"

/-- Whether an expression is read, bound or deleted where it stands. -/
inductive Usage where
  | load
  | store
  | del
  deriving DecidableEq, Repr

/-- The name in a dump. -/
def Usage.label : Usage → String
  | .load => "Load"
  | .store => "Store"
  | .del => "Del"

/-- How the value of a replacement field is turned into text first. -/
inductive Conversion where
  | none
  | str
  | ascii
  | repr
  deriving DecidableEq, Repr

/-- The name in a dump. -/
def Conversion.label : Conversion → String
  | .none => "None"
  | .str => "Str"
  | .ascii => "Ascii"
  | .repr => "Repr"

end AbcMetric
