import SqlGateway.Binary64

/-!
# Shortest decimals

The decimal with the fewest digits that still lies closer to a double than to any other, and among
those of that length the one nearest to the double. For each number of digits the two neighbours of
the double on that decimal grid are tried in exact arithmetic; the first grid with a hit wins.
-/

namespace SqlGateway.Decimal

/-- The number digits · 10^exponent. -/
structure Shortest where
  digits : Nat
  exponent : Int
  deriving DecidableEq, Repr

/-- Which of two equally near decimals is taken. -/
inductive Tie where
  | up
  | even
  deriving DecidableEq, Repr

/-- The magnitude of a double and the reals that round to it, as numerators over one denominator.
The ends of the interval round to the double when its significand is even. -/
structure Neighbourhood where
  low : Nat
  value : Nat
  high : Nat
  den : Nat
  closed : Bool

/-- The gap below a power of two is half as wide as the gap above it. -/
def Neighbourhood.of (x : Binary64) : Neighbourhood :=
  let m := x.magnitude.significand
  let (num, den) := (⟨1, x.magnitude.exponent - 2⟩ : Binary64.Scaled).ratio
  let below := if x.fractionField = 0 ∧ 1 < x.exponentField then 1 else 2
  ⟨(4 * m - below) * num, 4 * m * num, (4 * m + 2) * num, den, m % 2 = 0⟩

/-- The multiple k · 10^e of a grid rounds to the double; `scale` is the grid as a fraction. -/
def Neighbourhood.holds (n : Neighbourhood) (scale : Nat × Nat) (k : Nat) : Bool :=
  let point := k * scale.1 * n.den
  let low := n.low * scale.2
  let high := n.high * scale.2
  if n.closed then low ≤ point && point ≤ high else low < point && point < high

/-- The grid 10^e as numerator and denominator. -/
def grid (e : Int) : Nat × Nat :=
  if 0 ≤ e then (Nat.pow 10 e.toNat, 1) else (1, Nat.pow 10 (-e).toNat)

/-- How many digits stand before the decimal point of num / den; not positive for fractions. -/
def magnitudeOf (num den : Nat) : Int :=
  if den ≤ num then (Nat.toDigits 10 (num / den)).length
  else
    let zeros := ((List.range 400).find? fun j => den ≤ num * Nat.pow 10 j).getD 400
    1 - (zeros : Int)

/-- The point of the grid with `n` digits that stands for the double, if there is one. -/
def candidate? (tie : Tie) (nb : Neighbourhood) (magnitude : Int) (n : Nat) : Option Shortest :=
  let e := magnitude - n
  let scale := grid e
  let below := nb.value * scale.2 / (nb.den * scale.1)
  let above := below + 1
  let gapBelow := nb.value * scale.2 - below * scale.1 * nb.den
  let gapAbove := above * scale.1 * nb.den - nb.value * scale.2
  match nb.holds scale below, nb.holds scale above with
  -- both read back, so the nearer one is taken
  | true, true =>
    if gapBelow < gapAbove then some ⟨below, e⟩
    else if gapAbove < gapBelow then some ⟨above, e⟩
    else match tie with
      | .up => some ⟨above, e⟩
      | .even => some ⟨if below % 2 = 0 then below else above, e⟩
  | true, false => some ⟨below, e⟩
  | false, true => some ⟨above, e⟩
  | false, false => none

/-- Moves trailing zeros into the exponent; `fuel` bounds their number. -/
def stripZeros : Nat → Shortest → Shortest
  | 0, s => s
  | fuel + 1, s =>
    if s.digits ≠ 0 ∧ s.digits % 10 = 0 then stripZeros fuel ⟨s.digits / 10, s.exponent + 1⟩
    else s

/-- The shortest decimal of a finite double's magnitude. Seventeen digits always suffice. -/
def shortest (tie : Tie) (x : Binary64) : Shortest :=
  if x.isZero then ⟨0, 0⟩
  else
    let nb := Neighbourhood.of x
    let magnitude := magnitudeOf nb.value nb.den
    let found := (List.range 17).findSome? fun i => candidate? tie nb magnitude (i + 1)
    stripZeros 17 (found.getD ⟨0, 0⟩)

end SqlGateway.Decimal
