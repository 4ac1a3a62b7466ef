/-!
# Digits

The value of a row of digits in a base up to sixteen. Numbers of a module, numbers of a settings
file, and the escapes of strings in modules, settings and JSON are all read with it.
-/

namespace AbcMetric

/-- The value of a digit, also beyond nine. -/
def digitValue? (c : Char) : Option Nat :=
  if '0' ≤ c ∧ c ≤ '9' then some (c.toNat - '0'.toNat)
  else if 'a' ≤ c ∧ c ≤ 'f' then some (c.toNat - 'a'.toNat + 10)
  else if 'A' ≤ c ∧ c ≤ 'F' then some (c.toNat - 'A'.toNat + 10)
  else none

/-- Whether a character is a digit of the base. -/
def isDigitOf (base : Nat) (c : Char) : Bool := (digitValue? c).any (· < base)

/-- The number that digits of a base denote; nothing if one of them is no digit of the base. -/
def digitsValue? (base : Nat) (digits : List Char) : Option Nat :=
  digits.foldlM (fun value c => do
    let d ← digitValue? c
    if d < base then some (value * base + d) else none) 0

/-- The number that digits of a base denote; zero if one of them is no digit of the base. -/
def digitsValue (base : Nat) (digits : List Char) : Nat := (digitsValue? base digits).getD 0

end AbcMetric
