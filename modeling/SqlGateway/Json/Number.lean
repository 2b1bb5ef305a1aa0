import SqlGateway.Json.Basic

/-!
# Reading JSON numbers

A numeral without fraction and exponent is a whole number while it fits in 64 bits; every other
numeral is a double. A double is built from the first digits that fit in 64 bits and a power of
ten: the digits are rounded to a double, and then multiplied or divided by the double nearest to
that power, in steps of at most 10^308. The second rounding can move the result by one place from
the double nearest to the numeral.
-/

namespace SqlGateway.Json

open Decimal (Numeral digitsValue)

/-- What a numeral stands for. -/
inductive Reading where
  | whole (n : Int)
  | real (x : Binary64)
  deriving DecidableEq, Repr

def maxUnsigned : Nat := UInt64.size - 1

/-- Appends digits to a number while it fits in 64 bits; the digits left over are returned. -/
def absorb (n : Nat) : List Char → Nat × List Char
  | [] => (n, [])
  | c :: cs =>
    let next := n * 10 + (c.toNat - 48)
    if next ≤ maxUnsigned then absorb next cs else (n, c :: cs)

/-- The double nearest to a power of ten. -/
def powerOfTen (n : Nat) : Binary64 :=
  .ofNat (Nat.pow 10 n)

/-- A double times a power of ten, `none` when it is too large. Exponents below -308 are worked off
in steps; `steps` bounds their number. -/
def scaleByTen (x : Binary64) (exponent : Int) : Nat → Option Binary64
  | 0 => some .zero
  | steps + 1 =>
    if exponent.natAbs ≤ 308 then
      if 0 ≤ exponent then
        let y := x.mul (powerOfTen exponent.toNat)
        if y.isFinite then some y else none
      else some (x.div (powerOfTen exponent.natAbs))
    else if x.isZero then some x
    else if 0 ≤ exponent then none
    else scaleByTen (x.div (powerOfTen 308)) (exponent + 308) steps

def signed (negative : Bool) (x : Binary64) : Binary64 :=
  if negative then x.neg else x

/-- The largest exponent that is read; beyond it only the sign of the exponent matters. -/
def maxExponent : Int := Int32.maxValue.toInt

/-- The double for a numeral whose first digits are `significand` at the place `place`. Four steps
of 10^308 take any significand below 2^64 to zero. -/
def realReading? (n : Numeral) (significand : Nat) (place : Int) : Option Binary64 :=
  let scaled := fun exponent => (scaleByTen (.ofNat significand) exponent 5).map (signed n.negative)
  match n.exponent with
  | none => scaled place
  | some (minus, digits) =>
    let e : Int := digitsValue digits
    if maxExponent < e then
      if significand ≠ 0 ∧ !minus then none else some (signed n.negative .zero)
    else
      let total := if minus then place - e else place + e
      scaled (max (-(maxExponent + 1)) (min total maxExponent))

/-- What a numeral stands for, `none` for a magnitude beyond the largest double. -/
def reading? (n : Numeral) : Option Reading :=
  let (significand, surplus) := absorb 0 n.whole
  let place : Int := surplus.length
  match n.fraction with
  | some digits =>
    let (significand, rest) := absorb significand digits
    let place := place - ((digits.length - rest.length : Nat) : Int)
    (realReading? n significand place).map .real
  | none =>
    if n.exponent.isSome || !surplus.isEmpty then
      (realReading? n significand place).map .real
    else if !n.negative then some (.whole significand)
    -- minus zero and what lies below -2^63 are no machine integers
    else if significand = 0 ∨ -(significand : Int) < Int64.minValue.toInt then
      some (.real (Binary64.ofNat significand).neg)
    else some (.whole (-(significand : Int)))

end SqlGateway.Json
