/-!
# Rounding to a 53-bit significand

Decimal literals denote the nearest number with a 53-bit significand and an exponent of limited
size. Everything is exact arithmetic on `Nat`: a number is a significand and a power of two.

* `roundHalfEven` is division to the nearest integer, a half going to the even neighbour.
* `Binary64.ofRatio` rounds a fraction; beyond the largest exponent the result is `infinite`.
* `round53` rounds a natural number to 53 significant bits.

Not modelled: signs, and the bits of a number; only significands and exponents are needed.
-/

namespace AbcMetric

/-- The power `2 ^ n`. -/
abbrev pow2 (n : Nat) : Nat := Nat.pow 2 n

/-- The power `10 ^ n`. -/
abbrev pow10 (n : Nat) : Nat := Nat.pow 10 n

/-- `num / den` to the nearest integer; a half goes to the even neighbour. -/
def roundHalfEven (num den : Nat) : Nat :=
  let quotient := num / den
  let twice := 2 * (num % den)
  if twice < den then quotient
  else if den < twice then quotient + 1
  else quotient + quotient % 2

/-- `n` to the nearest number of 53 significant bits; a half goes to the even neighbour. -/
def round53 (n : Nat) : Nat :=
  let excess := n.log2 - 52
  roundHalfEven n (pow2 excess) * pow2 excess

/-- A number that a 64-bit binary format can hold, without sign: `significand * 2 ^ exponent`. -/
inductive Binary64 where
  | finite (significand : Nat) (exponent : Int)
  | infinite
  deriving DecidableEq, Repr, Inhabited

namespace Binary64

/-- The least exponent of a significand. -/
def minExponent : Int := -1074

/-- The greatest exponent of a significand. -/
def maxExponent : Int := 971

/-- `num / den / 2 ^ e` as a numerator and a denominator. -/
def scale (num den : Nat) (e : Int) : Nat × Nat :=
  (num * pow2 (-e).toNat, den * pow2 e.toNat)

/-- The significand and exponent that `num / den` has in the format, before the upper limit. -/
def roundAt (num den : Nat) : Nat × Int :=
  let low : Int := (num.log2 : Int) - den.log2 - 53
  let (n, d) := scale num den low
  let exponent := max (if n / d < pow2 53 then low else low + 1) minExponent
  let (n, d) := scale num den exponent
  let significand := roundHalfEven n d
  if significand = pow2 53 then (pow2 52, exponent + 1) else (significand, exponent)

/-- The number of the format nearest to `num / den`. -/
def ofRatio (num den : Nat) : Binary64 :=
  if num = 0 then .finite 0 minExponent
  else
    let (significand, exponent) := roundAt num den
    if maxExponent < exponent then .infinite else .finite significand exponent

/-- The number of the format nearest to `digits * 10 ^ power`. Far outside the format's range the
power itself decides, so no huge power of ten is ever formed. -/
def ofDecimal (digits : Nat) (power : Int) : Binary64 :=
  if digits = 0 then .finite 0 minExponent
  else
    let scale10 : Int := (Nat.toDigits 10 digits).length + power
    if 400 < scale10 then .infinite
    else if scale10 < -400 then .finite 0 minExponent
    else ofRatio (digits * pow10 power.toNat) (pow10 (-power).toNat)

end Binary64

end AbcMetric
