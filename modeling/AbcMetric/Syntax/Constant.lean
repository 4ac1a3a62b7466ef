import AbcMetric.Number.Binary64

/-!
# Literal values
-/

namespace AbcMetric

/-- The value of a literal. Numbers carry no sign: a minus is an operator. -/
inductive Constant where
  | none
  | bool (value : Bool)
  | str (value : String)
  | bytes (value : List UInt8)
  | int (value : Nat)
  | float (value : Binary64)
  | imaginary (value : Binary64)
  | ellipsis
  deriving DecidableEq, Repr

end AbcMetric
