import SqlGateway.Json.Number
import SqlGateway.Text.Pieces
import SqlGateway.Text.Utf8

/-!
# SQL values

The scalars that go to a backend and come back from it, with their plain text, their reading as an
integer and their JSON form. The JSON form carries no tag: what a value was is told from the kind
of JSON value alone.
-/

namespace SqlGateway

inductive Value where
  | null
  | bool (b : Bool)
  | int (n : Int64)
  | real (x : Binary64)
  | text (s : String)
  | bytes (bs : List UInt8)
  deriving DecidableEq, Repr, Inhabited

namespace Value

/-- The generic SQL type. -/
def typeName : Value → String
  | null => "NULL"
  | bool _ => "BOOLEAN"
  | int _ => "INTEGER"
  | real _ => "REAL"
  | text _ => "TEXT"
  | bytes _ => "BLOB"

def isNull : Value → Bool
  | null => true
  | _ => false

/-- A machine integer taken modulo 2^64, as counts are. -/
def ofNat (n : Nat) : Value :=
  int (Int64.ofInt n)

/-! ## Readings -/

def int64? (n : Int) : Option Int64 :=
  if Int64.minValue.toInt ≤ n ∧ n ≤ Int64.maxValue.toInt then some (Int64.ofInt n) else none

/-- The value as an integer; text is read as a decimal number between blanks. -/
def asInt? : Value → Option Int64
  | int n => some n
  | bool b => some (if b then 1 else 0)
  | real x => some x.truncate
  | text s => (Decimal.int? (Chars.trim s.toList)).bind int64?
  | null => none
  | bytes _ => none

def asText? : Value → Option String
  | text s => some s
  | _ => none

/-- The text of a double: its shortest decimal, or a name for what has none. -/
def realText (x : Binary64) : String :=
  if x.isFinite then (Decimal.Layout.plain.numeral x).text
  else if x.isNaN then "NaN"
  else if x.isNegative then "-inf"
  else "inf"

/-- The value as a column prints it, without any quotes. -/
def plain : Value → String
  | null => ""
  | bool b => if b then "1" else "0"
  | int n => (Decimal.Numeral.ofInt n.toInt).text
  | real x => realText x
  | text s => s
  | bytes bs => Utf8.decodeLossy bs

/-! ## JSON -/

def toJson : Value → Json
  | null => .null
  | bool b => .bool b
  | int n => .ofInt n.toInt
  | real x => .ofBinary64 x
  | text s => .text s
  | bytes bs => .array (bs.map fun b => .ofNat b.toNat)

/-- A whole number that is a byte. -/
def byte? : Json → Option UInt8
  | .number n =>
    match Json.reading? n with
    | some (.whole n) => if 0 ≤ n ∧ n < 256 then some (UInt8.ofNat n.toNat) else none
    | _ => none
  | _ => none

/-- A whole number too large for an integer column becomes a double; an array holds bytes. -/
def ofJson? : Json → Option Value
  | .null => some null
  | .bool b => some (bool b)
  | .number n =>
    (Json.reading? n).map fun
      | .whole n =>
        match int64? n with
        | some n => int n
        | none => real (.ofNat n.toNat)
      | .real x => real x
  | .text s => some (text s)
  | .garbled => none
  | .array items => (items.mapM byte?).map bytes
  | .object _ => none

end Value

end SqlGateway
