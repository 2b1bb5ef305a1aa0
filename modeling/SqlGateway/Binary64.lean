/-!
# Double precision numbers

An IEEE 754 double is held as its bit pattern, so that two of them are equal exactly when they are
the same number of the same sign (or the same NaN). A finite double is ± m · 2^e for natural m; all
arithmetic here is exact arithmetic on such pairs, rounded once.

Main definitions:

* `Binary64.magnitude`: the pair m, e of a finite double.
* `Binary64.roundRatio`: the double nearest to a fraction, a tie going to the even significand.
* `Binary64.mul`, `Binary64.div`: products and quotients of finite doubles, rounded that way.
* `Binary64.truncate`: the whole part, held within the range of 64-bit integers.
-/

namespace SqlGateway

/-- A double, as its 64 bits: sign, eleven bits of exponent, 52 bits of fraction. -/
structure Binary64 where
  bits : UInt64
  deriving DecidableEq, Repr, Inhabited

namespace Binary64

/-! ## The parts of a double -/

/-- 2^63, which the sign adds to the other bits. -/
def signBit : Nat :=
  1 <<< 63

/-- 2^52, one more than the largest fraction field. -/
def fractionSize : Nat :=
  1 <<< 52

def isNegative (x : Binary64) : Bool :=
  signBit ≤ x.bits.toNat

def exponentField (x : Binary64) : Nat :=
  x.bits.toNat / fractionSize % 2048

def fractionField (x : Binary64) : Nat :=
  x.bits.toNat % fractionSize

def isFinite (x : Binary64) : Bool :=
  x.exponentField ≠ 2047

def isNaN (x : Binary64) : Bool :=
  x.exponentField = 2047 && x.fractionField ≠ 0

def isZero (x : Binary64) : Bool :=
  x.exponentField = 0 && x.fractionField = 0

/-- A magnitude m · 2^e. -/
structure Scaled where
  significand : Nat
  exponent : Int

/-- The absolute value of a finite double. -/
def magnitude (x : Binary64) : Scaled :=
  if x.exponentField = 0 then ⟨x.fractionField, -1074⟩
  else ⟨fractionSize + x.fractionField, (x.exponentField : Int) - 1075⟩

/-- A magnitude as numerator and denominator. -/
def Scaled.ratio (s : Scaled) : Nat × Nat :=
  if 0 ≤ s.exponent then (s.significand <<< s.exponent.toNat, 1)
  else (s.significand, 1 <<< (-s.exponent).toNat)

/-- The double with the given sign whose other 63 bits are `low`. -/
def ofParts (negative : Bool) (low : Nat) : Binary64 :=
  ⟨UInt64.ofNat (if negative then signBit + low else low)⟩

def neg (x : Binary64) : Binary64 :=
  ofParts (!x.isNegative) (x.bits.toNat % signBit)

/-! ## Rounding -/

/-- The whole number nearest to a fraction, a tie going to the even one. -/
def divideToEven (num den : Nat) : Nat :=
  let quotient := num / den
  let rest := num % den
  if den < 2 * rest ∨ (2 * rest = den ∧ quotient % 2 = 1) then quotient + 1 else quotient

/-- The exponent at which a fraction has a significand of 53 bits, or the least exponent. -/
def exponentOf (num den : Nat) : Int :=
  let low : Int := (Nat.log2 num : Int) - (Nat.log2 den : Int) - 53
  let (n, d) :=
    if 0 ≤ low then (num, den <<< low.toNat) else (num <<< (-low).toNat, den)
  max (if 2 * fractionSize ≤ n / d then low + 1 else low) (-1074)

/-- The low 63 bits of the double nearest to num / den. A significand that rounds up to 2^53 moves
into the exponent field by itself, and what lies beyond the largest double becomes infinite. -/
def roundRatio (num den : Nat) : Nat :=
  if num = 0 then 0
  else
    let e := exponentOf num den
    let (n, d) := if 0 ≤ e then (num, den <<< e.toNat) else (num <<< (-e).toNat, den)
    min ((e + 1074).toNat * fractionSize + divideToEven n d) (2047 * fractionSize)

def ofNat (n : Nat) : Binary64 :=
  ofParts false (roundRatio n 1)

def zero : Binary64 :=
  ⟨0⟩

/-- The product of two finite doubles. -/
def mul (x y : Binary64) : Binary64 :=
  let (xn, xd) := x.magnitude.ratio
  let (yn, yd) := y.magnitude.ratio
  ofParts (x.isNegative != y.isNegative) (roundRatio (xn * yn) (xd * yd))

/-- The quotient of two finite doubles, the second not zero. -/
def div (x y : Binary64) : Binary64 :=
  let (xn, xd) := x.magnitude.ratio
  let (yn, yd) := y.magnitude.ratio
  ofParts (x.isNegative != y.isNegative) (roundRatio (xn * yd) (xd * yn))

/-! ## Whole part -/

/-- The number without its fraction, held within the range of 64-bit integers; 0 for NaN. -/
def truncate (x : Binary64) : Int64 :=
  if x.isNaN then 0
  else if x.isFinite then
    let (num, den) := x.magnitude.ratio
    let whole : Int := (num / den : Nat)
    let signed := if x.isNegative then -whole else whole
    Int64.ofInt (max Int64.minValue.toInt (min signed Int64.maxValue.toInt))
  else if x.isNegative then Int64.minValue
  else Int64.maxValue

end Binary64

end SqlGateway
