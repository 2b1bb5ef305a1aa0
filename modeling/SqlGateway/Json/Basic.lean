import SqlGateway.Decimal.Layout
import SqlGateway.Text.Hex

/-!
# JSON values

The value tree of JSON texts and its compact printer. Numbers keep the form in which they were
written, because their reading depends on it (`Json.reading?`); objects keep every field in order,
repeated names included.
-/

namespace SqlGateway

open Decimal (Numeral)

inductive Json where
  | null
  | bool (b : Bool)
  | number (n : Numeral)
  | text (s : String)
  /-- A string with an escape that names half a character, or an object with such a name: it can be
  skipped but not read. -/
  | garbled
  | array (items : List Json)
  | object (fields : List (String × Json))
  deriving Repr, Inhabited

namespace Json

def ofInt (n : Int) : Json :=
  .number (.ofInt n)

def ofNat (n : Nat) : Json :=
  .ofInt n

/-- A double in the layout of data files. Infinities and NaN have no JSON form and become null. -/
def ofBinary64 (x : Binary64) : Json :=
  if x.isFinite then .number (Decimal.Layout.data.numeral x) else .null

mutual

/-- Changes every text in a value, the names of fields included. -/
def mapTexts (f : String → String) : Json → Json
  | .text s => .text (f s)
  | .array items => .array (mapItems f items)
  | .object fields => .object (mapFields f fields)
  | j => j

def mapItems (f : String → String) : List Json → List Json
  | [] => []
  | item :: items => mapTexts f item :: mapItems f items

def mapFields (f : String → String) : List (String × Json) → List (String × Json)
  | [] => []
  | (name, item) :: fields => (f name, mapTexts f item) :: mapFields f fields

end

/-! ## Printing -/

/-- A character inside a string. -/
def escapeChar (c : Char) : List Char :=
  if c = '"' then ['\\', '"']
  else if c = '\\' then ['\\', '\\']
  else if c = '\n' then ['\\', 'n']
  else if c = '\r' then ['\\', 'r']
  else if c = '\t' then ['\\', 't']
  else if c = '\x08' then ['\\', 'b']
  else if c = '\x0c' then ['\\', 'f']
  else if c.toNat < 0x20 then ['\\', 'u', '0', '0'] ++ Hex.byte false (UInt8.ofNat c.toNat)
  else [c]

def quote (cs : List Char) : List Char :=
  '"' :: cs.flatMap escapeChar ++ ['"']

mutual

/-- The text of a value, without any blanks. -/
def chars : Json → List Char
  | .null => ['n', 'u', 'l', 'l']
  | .bool true => ['t', 'r', 'u', 'e']
  | .bool false => ['f', 'a', 'l', 's', 'e']
  | .number n => n.chars
  | .text s => quote s.toList
  | .garbled => ['n', 'u', 'l', 'l']
  | .array items => '[' :: itemChars items ++ [']']
  | .object fields => '{' :: fieldChars fields ++ ['}']

def itemChars : List Json → List Char
  | [] => []
  | [item] => chars item
  | item :: items => chars item ++ ',' :: itemChars items

def fieldChars : List (String × Json) → List Char
  | [] => []
  | [(name, item)] => quote name.toList ++ ':' :: chars item
  | (name, item) :: fields => quote name.toList ++ ':' :: chars item ++ ',' :: fieldChars fields

end

def compact (j : Json) : String :=
  String.ofList j.chars

end Json

end SqlGateway
