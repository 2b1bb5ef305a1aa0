import SqlGateway.Json.Basic

/-!
# JSON tokens

The words of a JSON text. Blanks between them are the four of the format; a numeral has no leading
zeros, and a digit follows every point and exponent mark.
-/

namespace SqlGateway.Json

open Decimal (Numeral isDigit)

inductive Token where
  | openArray
  | closeArray
  | openObject
  | closeObject
  | colon
  | comma
  /-- A value that is no container. -/
  | scalar (value : Json)
  deriving Repr

namespace Token

def isGap (c : Char) : Bool :=
  c = ' ' || c = '\n' || c = '\r' || c = '\t'

/-! ## Numerals -/

/-- The exponent of a numeral, if a mark for one follows. -/
def exponent? : List Char → Option (Option (Bool × List Char) × List Char)
  | c :: cs =>
    if c = 'e' ∨ c = 'E' then
      let (minus, cs) := match cs with
        | '-' :: cs => (true, cs)
        | '+' :: cs => (false, cs)
        | cs => (false, cs)
      let digits := cs.takeWhile isDigit
      if digits.isEmpty then none else some (some (minus, digits), cs.dropWhile isDigit)
    else some (none, c :: cs)
  | [] => some (none, [])

/-- The fraction of a numeral, if a point follows. -/
def fraction? : List Char → Option (Option (List Char) × List Char)
  | '.' :: cs =>
    let digits := cs.takeWhile isDigit
    if digits.isEmpty then none else some (some digits, cs.dropWhile isDigit)
  | cs => some (none, cs)

/-- The digits before the point: a single zero, or digits that do not begin with one. -/
def whole? (cs : List Char) : Option (List Char × List Char) :=
  match cs.takeWhile isDigit with
  | [] => none
  | '0' :: _ :: _ => none
  | digits => some (digits, cs.dropWhile isDigit)

def numeral? (cs : List Char) : Option (Numeral × List Char) := do
  let (negative, cs) := match cs with
    | '-' :: cs => (true, cs)
    | cs => (false, cs)
  let (whole, cs) ← whole? cs
  let (fraction, cs) ← fraction? cs
  let (exponent, cs) ← exponent? cs
  return (⟨negative, whole, fraction, exponent⟩, cs)

/-! ## Strings -/

def isHighHalf (n : Nat) : Bool :=
  0xD800 ≤ n && n ≤ 0xDBFF

def isLowHalf (n : Nat) : Bool :=
  0xDC00 ≤ n && n ≤ 0xDFFF

/-- The character of two surrogate halves. -/
def joinHalves (high low : Nat) : Char :=
  Char.ofNat (0x10000 + (high - 0xD800) * 0x400 + (low - 0xDC00))

/-- The character that a one-letter escape stands for. -/
def escaped? (c : Char) : Option Char :=
  if c = '"' then some '"'
  else if c = '\\' then some '\\'
  else if c = '/' then some '/'
  else if c = 'b' then some '\x08'
  else if c = 'f' then some '\x0c'
  else if c = 'n' then some '\n'
  else if c = 'r' then some '\r'
  else if c = 't' then some '\t'
  else none

/-- What has been read of a string: its characters, last first, whether all of them are whole, and
the first half of a character whose second half may follow. -/
structure Partial where
  chars : List Char
  whole : Bool
  half : Option Nat

/-- A pending half that is not followed by its other half stays half a character. -/
def Partial.settle (p : Partial) : Partial :=
  match p.half with
  | none => p
  | some _ => { p with whole := false, half := none }

def Partial.push (p : Partial) (c : Char) : Partial :=
  let p := p.settle
  { p with chars := c :: p.chars }

/-- Adds a code unit given by number. -/
def Partial.pushUnit (p : Partial) (n : Nat) : Partial :=
  match p.half with
  | some high =>
    if isLowHalf n then { p with chars := joinHalves high n :: p.chars, half := none }
    else if isHighHalf n then { p with whole := false, half := some n }
    else p.push (Char.ofNat n)
  | none =>
    if isHighHalf n then { p with half := some n }
    else if isLowHalf n then { p with whole := false }
    else p.push (Char.ofNat n)

def Partial.token (p : Partial) : Token :=
  let p := p.settle
  .scalar (if p.whole then .text (String.ofList p.chars.reverse) else .garbled)

/-- Reads a string up to its closing quote. -/
def string? (p : Partial) : List Char → Option (Token × List Char)
  | '"' :: cs => some (p.token, cs)
  | '\\' :: 'u' :: a :: b :: c :: d :: cs =>
    match Hex.number? [a, b, c, d] with
    | some n => string? (p.pushUnit n) cs
    | none => none
  | '\\' :: c :: cs =>
    match escaped? c with
    | some c => string? (p.push c) cs
    | none => none
  | c :: cs => if c.toNat < 0x20 ∨ c = '\\' then none else string? (p.push c) cs
  | [] => none

/-! ## The words of a text -/

/-- One token at the start of a text. -/
def one? : List Char → Option (Token × List Char)
  | '[' :: cs => some (.openArray, cs)
  | ']' :: cs => some (.closeArray, cs)
  | '{' :: cs => some (.openObject, cs)
  | '}' :: cs => some (.closeObject, cs)
  | ':' :: cs => some (.colon, cs)
  | ',' :: cs => some (.comma, cs)
  | '"' :: cs => string? ⟨[], true, none⟩ cs
  | 'n' :: 'u' :: 'l' :: 'l' :: cs => some (.scalar .null, cs)
  | 't' :: 'r' :: 'u' :: 'e' :: cs => some (.scalar (.bool true), cs)
  | 'f' :: 'a' :: 'l' :: 's' :: 'e' :: cs => some (.scalar (.bool false), cs)
  | cs => (numeral? cs).map fun (n, cs) => (.scalar (.number n), cs)

/-- All tokens of a text. Each takes at least one character, so `fuel` beyond the length of the text
is never used up. -/
def allFrom? : Nat → List Char → Option (List Token)
  | 0, _ => none
  | fuel + 1, cs =>
    match cs.dropWhile isGap with
    | [] => some []
    | cs => (one? cs).bind fun (token, rest) => (allFrom? fuel rest).map (token :: ·)

/-- All tokens of a text, `none` where none fits. -/
def all? (cs : List Char) : Option (List Token) :=
  allFrom? (cs.length + 1) cs

end Token

end SqlGateway.Json
