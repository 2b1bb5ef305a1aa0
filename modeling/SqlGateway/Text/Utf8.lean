/-!
# UTF-8

Bytes read as text. A byte sequence that no character has, cut at the longest beginning that some
character has, becomes one replacement character.
-/

namespace SqlGateway.Utf8

def replacement : Char := '\uFFFD'

/-- What a leading byte announces: its bits of the code point, the range of the second byte, and
the number of bytes after the second. -/
structure Lead where
  high : Nat
  low2 : Nat
  high2 : Nat
  more : Nat

/-- The second byte is restricted so that no character has two forms, no surrogate has any, and
nothing lies above U+10FFFF. -/
def lead? (b : Nat) : Option Lead :=
  if 0xC2 ≤ b ∧ b ≤ 0xDF then some ⟨b - 0xC0, 0x80, 0xBF, 0⟩
  else if b = 0xE0 then some ⟨0, 0xA0, 0xBF, 1⟩
  else if b = 0xED then some ⟨0xD, 0x80, 0x9F, 1⟩
  else if 0xE1 ≤ b ∧ b ≤ 0xEF then some ⟨b - 0xE0, 0x80, 0xBF, 1⟩
  else if b = 0xF0 then some ⟨0, 0x90, 0xBF, 2⟩
  else if b = 0xF4 then some ⟨4, 0x80, 0x8F, 2⟩
  else if 0xF1 ≤ b ∧ b ≤ 0xF3 then some ⟨b - 0xF0, 0x80, 0xBF, 2⟩
  else none

/-- How far a character has been read. -/
inductive Progress where
  /-- Between characters. -/
  | start
  /-- The code point so far, the range of the next byte, and how many follow that byte. -/
  | within (code low high more : Nat)

/-- Reads a byte at the start of a character: the characters it completes, and what is pending. -/
def Progress.begin (n : Nat) : List Char × Progress :=
  if n < 0x80 then ([Char.ofNat n], .start)
  else match lead? n with
    | some l => ([], .within l.high l.low2 l.high2 l.more)
    | none => ([replacement], .start)

/-- Reads a byte. One that cannot go on closes the pending character with a replacement and is read
anew. -/
def Progress.step : Progress → Nat → List Char × Progress
  | .start, n => begin n
  | .within code low high more, n =>
    if low ≤ n ∧ n ≤ high then
      let code := code * 64 + (n - 0x80)
      match more with
      | 0 => ([Char.ofNat code], .start)
      | more + 1 => ([], .within code 0x80 0xBF more)
    else
      let (out, next) := begin n
      (replacement :: out, next)

def decodeFrom (p : Progress) : List UInt8 → List Char
  | [] => match p with
    | .start => []
    | .within .. => [replacement]
  | b :: bs =>
    let (out, next) := p.step b.toNat
    out ++ decodeFrom next bs

def decodeLossy (bytes : List UInt8) : String :=
  String.ofList (decodeFrom .start bytes)

end SqlGateway.Utf8
