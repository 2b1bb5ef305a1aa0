import SqlGateway.Decimal.Numeral
import SqlGateway.Decimal.Shortest

/-!
# Decimal layouts

How the shortest decimal of a double is written. A `Layout` is a record of the choices a format
makes; two formats are in use, plain text (`Layout.plain`) and data files (`Layout.data`).
-/

namespace SqlGateway.Decimal

/-- The choices of a format. A number whose decimal point stands within `positional` is written
without an exponent; `wholeFraction` is the fraction of a number that has none. -/
structure Layout where
  tie : Tie
  positional : Int → Bool
  wholeFraction : Option (List Char)

/-- Plain text never has an exponent, and whole numbers have no fraction. -/
def Layout.plain : Layout :=
  ⟨.up, fun _ => true, none⟩

/-- Data files have a fraction on whole numbers, and an exponent from 10^16 on and below 10^-5. -/
def Layout.data : Layout :=
  ⟨.even, fun point => -5 < point && point ≤ 16, some ['0']⟩

/-- The digits with the point after the first `point` of them, zeros filling what is missing. -/
def fixedNumeral (layout : Layout) (negative : Bool) (digits : List Char) (point : Int) : Numeral :=
  let count : Int := digits.length
  if point ≤ 0 then
    ⟨negative, ['0'], some (List.replicate (-point).toNat '0' ++ digits), none⟩
  else if count ≤ point then
    ⟨negative, digits ++ List.replicate (point - count).toNat '0', layout.wholeFraction, none⟩
  else
    ⟨negative, digits.take point.toNat, some (digits.drop point.toNat), none⟩

/-- One digit before the point, and a signed exponent. -/
def scientificNumeral (negative : Bool) (digits : List Char) (point : Int) : Numeral :=
  let exponent := point - 1
  ⟨negative, digits.take 1, if digits.length ≤ 1 then none else some (digits.drop 1),
    some (exponent < 0, natDigits exponent.natAbs)⟩

/-- A finite double as the format writes it. -/
def Layout.numeral (layout : Layout) (x : Binary64) : Numeral :=
  if x.isZero then ⟨x.isNegative, ['0'], layout.wholeFraction, none⟩
  else
    let s := shortest layout.tie x
    let digits := natDigits s.digits
    let point : Int := (digits.length : Int) + s.exponent
    if layout.positional point then fixedNumeral layout x.isNegative digits point
    else scientificNumeral x.isNegative digits point

end SqlGateway.Decimal
