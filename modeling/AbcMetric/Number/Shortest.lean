import AbcMetric.Number.Binary64

/-!
# The fewest digits that read back

A number of the 64-bit format is written with the fewest decimal digits that still round to it; of
several such decimals the nearest is taken.

* `Binary64.shortest` finds the digits and the power of ten of the first one.
* `Binary64.positional` writes them without an exponent, whatever the size.
* `Binary64.general` keeps at least one decimal place and changes to an exponent from `10 ^ 16` on
  and below `10 ^ -4`.
-/

namespace AbcMetric

/-- A decimal `0.d₁d₂… * 10 ^ point`, or zero when there are no digits. -/
structure Decimal where
  digits : List Char
  point : Int
  deriving DecidableEq, Repr

namespace Decimal

/-- The whole part and the fraction of a decimal, written out. -/
def parts (d : Decimal) : List Char × List Char :=
  if d.point ≤ 0 then (['0'], List.replicate (-d.point).toNat '0' ++ d.digits)
  else
    let whole := d.point.toNat
    if d.digits.length ≤ whole then
      (d.digits ++ List.replicate (whole - d.digits.length) '0', [])
    else (d.digits.take whole, d.digits.drop whole)

end Decimal

namespace Binary64

/-- The open or closed interval of fractions `x / den` that round to one number. -/
structure Interval where
  low : Nat
  high : Nat
  closed : Bool

/-- Whether `x` lies in the interval, all three over one denominator. -/
def Interval.holds (i : Interval) (x : Nat) : Bool :=
  if i.closed then i.low ≤ x && x ≤ i.high else i.low < x && x < i.high

/-- The decimals with `places` digits nearest to `num / den` from below and above, tested against
the interval; `power` is the power of ten of the last digit. -/
def gridPoint (num den : Nat) (interval : Interval) (power : Int) : Option Nat :=
  let unit := den * pow10 power.toNat
  let shift := pow10 (-power).toNat
  let below := num * shift / unit
  let fits (d : Nat) : Bool :=
    let scaled : Interval := ⟨interval.low * shift, interval.high * shift, interval.closed⟩
    scaled.holds (d * unit)
  match fits below, fits (below + 1) with
  | true, true =>
    if 2 * (num * shift) < (2 * below + 1) * unit then some below else some (below + 1)
  | true, false => some below
  | false, true => some (below + 1)
  | false, false => none

/-- The greatest `p` with `10 ^ p ≤ num / den`, from an estimate that is off by one at most. -/
def decimalExponent (num den : Nat) : Int :=
  let estimate : Int := ((num.log2 : Int) - den.log2 - 1) * 30103 / 100000
  let reaches (p : Int) : Bool := den * pow10 p.toNat ≤ num * pow10 (-p).toNat
  if reaches (estimate + 2) then estimate + 2
  else if reaches (estimate + 1) then estimate + 1
  else if reaches estimate then estimate
  else estimate - 1

/-- The first grid, from one digit to seventeen, that has a point in the interval. -/
def searchGrid (num den : Nat) (interval : Interval) (top : Int) : Nat → Nat → Option (Nat × Int)
  | _, 0 => none
  | places, fuel + 1 =>
    let power := top - places
    match gridPoint num den interval power with
    | some d => some (d, power)
    | none => searchGrid num den interval top (places + 1) fuel

/-- The digits of `d` without trailing zeros, and the power of ten of the last one kept. -/
def trimZeros (d : Nat) (power : Int) : Decimal :=
  let all := Nat.toDigits 10 d
  let kept := (all.reverse.dropWhile (· = '0')).reverse
  ⟨kept, power + all.length⟩

/-- The shortest decimal that rounds to a finite number. -/
def shortest (significand : Nat) (exponent : Int) : Decimal :=
  if significand = 0 then ⟨[], 0⟩
  else
    let (num, den) := scale (4 * significand) 4 (-exponent)
    let step := pow2 exponent.toNat
    let isPower := significand = pow2 52 && minExponent < exponent
    let below := if isPower then 1 else 2
    let interval : Interval := ⟨num - below * step, num + 2 * step, significand % 2 = 0⟩
    let top := decimalExponent num den
    match searchGrid num den interval top 0 18 with
    | some (d, power) => trimZeros d power
    | none => trimZeros num 0

/-- Written without an exponent, and without a point when the number is whole. -/
def positional : Binary64 → String
  | .infinite => "inf"
  | .finite significand exponent =>
    let d := shortest significand exponent
    if d.digits = [] then "0"
    else
      let (whole, fraction) := d.parts
      if fraction = [] then String.ofList whole
      else String.ofList (whole ++ '.' :: fraction)

/-- Written with an exponent: one digit before the point. -/
def scientific (d : Decimal) : String :=
  let power := toString (d.point - 1)
  match d.digits with
  | [] => "0e0"
  | [digit] => s!"{digit}e{power}"
  | digit :: more => s!"{digit}.{String.ofList more}e{power}"

/-- Written with at least one decimal place, or with an exponent from `10 ^ 16` on and below
`10 ^ -4`. -/
def general : Binary64 → String
  | .infinite => "inf"
  | .finite significand exponent =>
    let d := shortest significand exponent
    if d.digits = [] then "0.0"
    else if d.point < -3 || 16 < d.point then scientific d
    else
      let (whole, fraction) := d.parts
      String.ofList (whole ++ '.' :: (if fraction = [] then ['0'] else fraction))

end Binary64

end AbcMetric
