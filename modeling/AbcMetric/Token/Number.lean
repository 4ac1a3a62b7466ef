import AbcMetric.Fault
import AbcMetric.Number.Digits
import AbcMetric.Source.Letter

/-!
# Number literals

Digits may be grouped by single underscores. A literal with a point or an exponent, or with a `j`
after it, denotes a number of the 64-bit format; the others are integers of any size.
-/

namespace AbcMetric

/-- The leading digits, an underscore being passed over where a digit follows it. -/
def digitRun (radix : Nat) : List Letter → List Char × List Letter
  | [] => ([], [])
  | l :: rest =>
    if isDigitOf radix l.char then
      let (digits, after) := digitRun radix rest
      (l.char :: digits, after)
    else if l.char = '_' then
      match rest with
      | [] => ([], [l])
      | d :: rest' =>
        if isDigitOf radix d.char then
          let (digits, after) := digitRun radix rest'
          (d.char :: digits, after)
        else ([], l :: d :: rest')
    else ([], l :: rest)

/-- Whether an exponent with at least one digit follows. -/
def startsExponent (rest : List Letter) : Bool :=
  match (rest.take 3).map (·.char) with
  | e :: more =>
    (e == 'e' || e == 'E') &&
      match more with
      | s :: d :: _ => s.isDigit || ((s == '+' || s == '-') && d.isDigit)
      | [d] => d.isDigit
      | [] => false
  | [] => false

/-- The next character. -/
def firstChar (rest : List Letter) : Option Char := rest.head?.map (·.char)

/-- The character after the next. -/
def secondChar (rest : List Letter) : Option Char := (rest.drop 1).head?.map (·.char)

/-- The decimals of a float: its digits after the point, and what follows. -/
def scanFraction (stop : Nat) (rest : List Letter) : Except Fault (List Char × List Letter) :=
  match rest with
  | l :: after =>
    if l.char = '.' then
      if firstChar after = some '_' then .error ⟨.strayUnderscore, placeOf stop rest⟩
      else .ok (digitRun 10 after)
    else .ok ([], rest)
  | [] => .ok ([], [])

/-- The sign of an exponent, and what follows; `true` is minus. -/
def scanSign (stop : Nat) (rest : List Letter) : Except Fault (Bool × List Letter) :=
  match rest with
  | l :: after =>
    if l.char = '-' || l.char = '+' then
      if firstChar after = some '_' then .error ⟨.strayUnderscore, placeOf stop rest⟩
      else .ok (l.char = '-', after)
    else .ok (false, rest)
  | [] => .ok (false, [])

/-- The exponent of a float, zero when there is none, and what follows. -/
def scanExponent (stop : Nat) (rest : List Letter) : Except Fault (Int × List Letter) := do
  match rest with
  | l :: after =>
    if l.char = 'e' || l.char = 'E' then
      if firstChar after = some '_' then throw ⟨.strayUnderscore, l.start⟩
      let (negative, after) ← scanSign stop after
      let (digits, after) := digitRun 10 after
      if digits = [] then throw ⟨.badDecimal, placeOf stop after⟩
      let size : Int := digitsValue 10 digits
      return (if negative then -size else size, after)
    else return (0, rest)
  | [] => return (0, [])

/-- Whether a `j` follows, and what comes after it. -/
def scanImaginary (rest : List Letter) : Bool × List Letter :=
  match rest with
  | l :: after => if l.char = 'j' || l.char = 'J' then (true, after) else (false, rest)
  | [] => (false, [])

/-- A number in decimal notation. -/
def scanDecimal (stop : Nat) (rest : List Letter) : Except Fault (Token × List Letter) := do
  let startsZero := firstChar rest = some '0'
  let (whole, after) := digitRun 10 rest
  if firstChar after = some '.' || startsExponent after then
    let (fraction, after) ← scanFraction stop after
    let (exponent, after) ← scanExponent stop after
    let digits := digitsValue 10 (whole ++ fraction)
    let value := Binary64.ofDecimal digits (exponent - fraction.length)
    let (imaginary, after) := scanImaginary after
    return (if imaginary then .imaginary value else .float value, after)
  else
    let value := digitsValue 10 whole
    let (imaginary, after) := scanImaginary after
    if imaginary then return (.imaginary (Binary64.ofDecimal value 0), after)
    else if startsZero && value ≠ 0 then throw ⟨.leadingZero, placeOf stop after⟩
    else return (.int value, after)

/-- The radix that the letter after a zero selects. -/
def radixOf? (c : Char) : Option Nat :=
  match c.toLower with
  | 'x' => some 16
  | 'o' => some 8
  | 'b' => some 2
  | _ => none

/-- A number literal and what follows it. -/
def scanNumber (stop : Nat) (rest : List Letter) : Except Fault (Token × List Letter) :=
  match firstChar rest, (secondChar rest).bind radixOf? with
  | some '0', some radix =>
    let (digits, after) := digitRun radix (rest.drop 2)
    if digits = [] then .error ⟨.missingDigits, placeOf stop rest⟩
    else .ok (.int (digitsValue radix digits), after)
  | _, _ => scanDecimal stop rest

end AbcMetric
