/-!
# Numerals

Numbers as they are written: a sign, digits, perhaps a fraction, perhaps an exponent.
-/

namespace SqlGateway.Decimal

/-- A written number. The exponent is its sign (true for minus) and its digits. -/
structure Numeral where
  negative : Bool
  whole : List Char
  fraction : Option (List Char)
  exponent : Option (Bool × List Char)
  deriving DecidableEq, Repr

def natDigits (n : Nat) : List Char :=
  Nat.toDigits 10 n

/-- The number that a text of decimal digits stands for. -/
def digitsValue (cs : List Char) : Nat :=
  cs.foldl (fun n c => n * 10 + (c.toNat - 48)) 0

def isDigit (c : Char) : Bool :=
  '0' ≤ c && c ≤ '9'

/-- An integer without fraction and exponent. -/
def Numeral.ofInt (n : Int) : Numeral :=
  ⟨n < 0, natDigits n.natAbs, none, none⟩

def Numeral.chars (n : Numeral) : List Char :=
  (if n.negative then ['-'] else []) ++ n.whole ++
    (match n.fraction with
      | none => []
      | some digits => '.' :: digits) ++
    (match n.exponent with
      | none => []
      | some (minus, digits) => 'e' :: (if minus then '-' else '+') :: digits)

def Numeral.text (n : Numeral) : String :=
  String.ofList n.chars

/-- A whole number read from text: an optional sign, then at least one digit and nothing else. -/
def int? (cs : List Char) : Option Int :=
  let digits? (ds : List Char) : Option Nat :=
    if !ds.isEmpty && ds.all isDigit then some (digitsValue ds) else none
  match cs with
  | '-' :: ds => (digits? ds).map fun n => -(n : Int)
  | '+' :: ds => (digits? ds).map fun n => (n : Int)
  | ds => (digits? ds).map fun n => (n : Int)

end SqlGateway.Decimal
