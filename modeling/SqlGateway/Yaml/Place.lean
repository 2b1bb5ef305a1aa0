/-!
# Places in a YAML text

A place is the rest of the text together with the number of bytes and lines before it and its
column, which counts characters. A line ends at a line feed, a carriage return, both together, or
one of Unicode's line and paragraph separators.
-/

namespace SqlGateway.Yaml

def isBreak (c : Char) : Bool :=
  c = '\n' || c = '\r' || c = '\u0085' || c = '\u2028' || c = '\u2029'

def isGap (c : Char) : Bool :=
  c = ' ' || c = '\t'

/-- The characters that a text may hold at all. -/
def isAllowed (c : Char) : Bool :=
  let n := c.toNat
  n = 0x09 || n = 0x0A || n = 0x0D || (0x20 ≤ n && n ≤ 0x7E) || n = 0x85 ||
    (0xA0 ≤ n && n ≤ 0xD7FF) || (0xE000 ≤ n && n ≤ 0xFFFD) || 0x10000 ≤ n

structure Place where
  rest : List Char
  /-- The bytes before the place, in UTF-8. -/
  index : Nat
  line : Nat
  column : Nat

namespace Place

def start (cs : List Char) : Place :=
  ⟨cs, 0, 0, 0⟩

/-- The character `n` places on. -/
def peek (p : Place) (n : Nat) : Option Char :=
  p.rest[n]?

def sees (p : Place) (n : Nat) (c : Char) : Bool :=
  p.peek n = some c

def seesBreak (p : Place) (n : Nat) : Bool :=
  (p.peek n).any isBreak

/-- A blank, a line end or the end of the text stands `n` places on. -/
def blankAt (p : Place) (n : Nat) : Bool :=
  match p.peek n with
  | none => true
  | some c => isGap c || isBreak c

/-- Goes on by `n` characters of the line. -/
def skip (p : Place) (n : Nat) : Place :=
  let passed := String.ofList (p.rest.take n)
  ⟨p.rest.drop n, p.index + passed.utf8ByteSize, p.line, p.column + n⟩

/-- Goes on by a line end. -/
def skipBreak (p : Place) : Place :=
  match p.rest with
  | '\r' :: '\n' :: rest => ⟨rest, p.index + 2, p.line + 1, 0⟩
  | c :: rest => if isBreak c then ⟨rest, p.index + c.utf8Size, p.line + 1, 0⟩ else p
  | [] => p

/-- What a line end stands for inside a scalar: a line feed, or itself when it is a separator. -/
def breakText (p : Place) : List Char :=
  match p.rest with
  | c :: _ =>
    if c = '\u2028' ∨ c = '\u2029' then [c] else if isBreak c then ['\n'] else []
  | [] => []

/-- Goes on while a condition holds on the line. -/
def skipWhile (cond : Char → Bool) (p : Place) : Place :=
  p.skip (p.rest.takeWhile cond).length

/-- Goes on to the end of the line. -/
def skipLineRest (p : Place) : Place :=
  p.skipWhile fun c => !isBreak c

/-- Three equal marks at the start of a line, with a blank after them. -/
def seesMark (p : Place) (c : Char) : Bool :=
  p.column = 0 && p.sees 0 c && p.sees 1 c && p.sees 2 c && p.blankAt 3

/-- The start or the end of a document. -/
def seesDocumentMark (p : Place) : Bool :=
  p.seesMark '-' || p.seesMark '.'

end Place

end SqlGateway.Yaml
