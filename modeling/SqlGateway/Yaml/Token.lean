import SqlGateway.Yaml.Scalar

/-!
# YAML tokens

The words of a YAML text. Block structure is given by indentation: a deeper column opens a block
and puts its opening token before the word that stands there, a shallower one closes blocks. A key
is known only when its colon is met, so the tokens for it are put in where the key began.

Main definition: `tokens?`, all tokens of a text, `none` when the text is not YAML.
-/

namespace SqlGateway.Yaml

/-- How a scalar was written, as far as it matters for its meaning. -/
inductive Style where
  | plain
  | quoted
  | literal
  | folded
  deriving DecidableEq, Repr

inductive Token where
  | version (major minor : Nat)
  | tagDirective (handle lead : String)
  | documentStart
  | documentEnd
  | blockSequence
  | blockMapping
  | blockEnd
  | flowSequence
  | flowSequenceEnd
  | flowMapping
  | flowMappingEnd
  | blockEntry
  | flowEntry
  | key
  | value
  | aliasOf (name : String)
  | anchor (name : String)
  | tag (handle suffix : String)
  | scalar (text : String) (style : Style)
  deriving DecidableEq, Repr

/-- A place where a key may have begun, and the number of the token that stands there. A key that
stands at the indentation of its block must turn out to be one. -/
structure KeyStart where
  required : Bool
  number : Nat
  place : Place

/-- The state between two tokens. `keys` has an entry for every open bracket and one for outside. -/
structure Scan where
  place : Place
  /-- More than the characters of the text, so that no loop over them takes as many steps. -/
  limit : Nat
  tokens : Array Token
  flow : Nat
  indent : Int
  outer : List Int
  keyAllowed : Bool
  keys : List (Option KeyStart)

namespace Scan

def start (cs : List Char) : Scan :=
  ⟨.start cs, cs.length + 1, #[], 0, -1, [], true, [none]⟩

def push (s : Scan) (t : Token) : Scan :=
  { s with tokens := s.tokens.push t }

def insertAt (s : Scan) (number : Nat) (t : Token) : Scan :=
  { s with tokens := s.tokens.insertIdxIfInBounds number t }

def column (s : Scan) : Int :=
  s.place.column

/-- Pushes a token of `n` characters. -/
def mark (s : Scan) (n : Nat) (t : Token) : Scan :=
  { s.push t with place := s.place.skip n }

/-! ## Keys -/

def currentKey (s : Scan) : Option KeyStart :=
  s.keys.head?.join

def setKey (s : Scan) (k : Option KeyStart) : Scan :=
  { s with keys := k :: s.keys.tail }

/-- Gives up the current key; one that is required is missing its colon. -/
def dropKey? (s : Scan) : Option Scan :=
  if s.currentKey.any (·.required) then none else some (s.setKey none)

/-- Remembers that a key may begin here. -/
def saveKey? (s : Scan) : Option Scan :=
  if s.keyAllowed then do
    let required := s.flow = 0 && s.indent = s.column
    return (← s.dropKey?).setKey (some ⟨required, s.tokens.size, s.place⟩)
  else some s

/-- Forgets the keys that did not end on their line or within 1024 bytes. -/
def staleKeys? (s : Scan) : Option Scan := do
  let keys ← s.keys.mapM fun
    | some k =>
      if k.place.line < s.place.line ∨ k.place.index + 1024 < s.place.index then
        if k.required then none else some none
      else some (some k)
    | none => some none
  return { s with keys }

/-! ## Indentation -/

/-- Opens a block when the column is deeper than the current one. -/
def roll (s : Scan) (column : Int) (number : Nat) (t : Token) : Scan :=
  if s.flow = 0 ∧ s.indent < column then
    { s.insertAt number t with indent := column, outer := s.indent :: s.outer }
  else s

/-- Closes the blocks that are deeper than a column. -/
def unroll (s : Scan) (column : Int) : Scan :=
  if s.flow ≠ 0 then s
  else
    let rec close (s : Scan) : List Int → Scan
      | [] => s
      | previous :: rest =>
        if column < s.indent then
          close { s.push .blockEnd with indent := previous, outer := rest } rest
        else s
    close s s.outer

/-! ## Words -/

def isNameChar (c : Char) : Bool :=
  c.isAlphanum || c = '_' || c = '-'

/-- The name of an anchor or an alias. -/
def name? (p : Place) : Option (String × Place) :=
  let name := p.rest.takeWhile isNameChar
  let p := p.skip name.length
  let ends := p.blankAt 0 || (p.peek 0).any fun c => "?:,]\x7d%@\x60".toList.contains c
  if name.isEmpty ∨ !ends then none else some (String.ofList name, p)

/-- The characters of a tag between its handle and a blank. -/
def isTagChar (verbatim : Bool) (c : Char) : Bool :=
  isNameChar c || ";/?:@&=+$.!~*\x27()%".toList.contains c ||
    (verbatim && (c = ',' || c = '[' || c = ']'))

/-- The bytes that follow the first one of a character. -/
def furtherBytes? (first : Nat) : Option Nat :=
  if first < 0x80 then some 0
  else if first / 0x20 = 6 then some 1
  else if first / 0x10 = 14 then some 2
  else if first / 8 = 30 then some 3
  else none

/-- Decodes bytes that are written as percent signs with two digits. All bytes of a character are
written so; `pending` of them are still to come. -/
def unescapeTag? (pending : Nat) : List Char → Option (List Char)
  | [] => if pending = 0 then some [] else none
  | '%' :: a :: b :: rest => do
    let n ← Hex.number? [a, b]
    let pending ←
      if pending = 0 then furtherBytes? n
      else if n / 0x40 = 2 then some (pending - 1)
      else none
    return Char.ofNat n :: (← unescapeTag? pending rest)
  | '%' :: _ => none
  | c :: rest => if pending = 0 then (unescapeTag? 0 rest).map (c :: ·) else none

/-- The text of a tag, which ends before its first NUL. -/
def tagText? (cs : List Char) : Option String :=
  (unescapeTag? 0 cs).map fun cs => String.ofList (cs.takeWhile (· ≠ '\x00'))

/-- The handle and the suffix of a tag. -/
def tag? (p : Place) : Option (String × String × Place) := do
  if p.sees 1 '<' then
    let p := p.skip 2
    let body := p.rest.takeWhile (isTagChar true)
    let p := p.skip body.length
    if body.isEmpty ∨ !p.sees 0 '>' then none
    else return ("", ← tagText? body, p.skip 1)
  else
    let first := (p.rest.drop 1).takeWhile isNameChar
    if p.sees (1 + first.length) '!' then
      let p := p.skip (2 + first.length)
      let body := p.rest.takeWhile (isTagChar false)
      if body.isEmpty then none
      else return ("!" ++ String.ofList first ++ "!", ← tagText? body,
        p.skip body.length)
    else
      let body := (p.rest.drop 1).takeWhile (isTagChar false)
      -- a lone exclamation mark is a tag without a handle
      let suffix ← tagText? body
      let p := p.skip (1 + body.length)
      return if suffix = "" then ("", "!", p) else ("!", suffix, p)

/-- A directive, which gives the version or a handle for tags, and the place after its line. -/
def directive? (p : Place) : Option (Token × Place) := do
  let word := (p.rest.drop 1).takeWhile isNameChar
  let p := p.skip (1 + word.length)
  if word.isEmpty ∨ !p.blankAt 0 then none
  else if word = "YAML".toList then
    let p := p.skipWhile isGap
    let major := p.rest.takeWhile Char.isDigit
    let p := p.skip major.length
    let minor := (p.rest.drop 1).takeWhile Char.isDigit
    if major.isEmpty ∨ 9 < major.length ∨ !p.sees 0 '.' ∨ minor.isEmpty ∨ 9 < minor.length then none
    else
      let number (cs : List Char) : Nat := cs.foldl (fun n c => n * 10 + (c.toNat - 48)) 0
      let next ← restOfLine? (p.skip (1 + minor.length))
      return (.version (number major) (number minor), next)
  else if word = "TAG".toList then
    let p := p.skipWhile isGap
    let inner := (p.rest.drop 1).takeWhile isNameChar
    let closed := p.sees (1 + inner.length) '!'
    if !p.sees 0 '!' ∨ (!closed ∧ !inner.isEmpty) then none
    else
      let handle := "!" ++ String.ofList inner ++ (if closed then "!" else "")
      let p := p.skip handle.length
      let gap := (p.rest.takeWhile isGap).length
      let p := p.skip gap
      let body := p.rest.takeWhile (isTagChar true)
      let p := p.skip body.length
      if gap = 0 ∨ body.isEmpty ∨ !p.blankAt 0 then none
      else
        let next ← restOfLine? p
        return (.tagDirective handle (← tagText? body), next)
  else none

/-! ## One token -/

/-- Goes on to the next word. Outside of brackets a key may begin on every new line, and tabs may
not indent it. -/
def toNextWord : Nat → Scan → Scan
  | 0, s => s
  | fuel + 1, s =>
    let p := s.place
    -- a byte order mark at the start of a line is skipped
    let p := if p.column = 0 ∧ p.sees 0 '\uFEFF' then p.skip 1 else p
    let p := p.skipWhile fun c => c = ' ' || ((s.flow ≠ 0 || !s.keyAllowed) && c = '\t')
    let p := if p.sees 0 '#' then p.skipLineRest else p
    if p.seesBreak 0 then
      toNextWord fuel
        { s with place := p.skipBreak, keyAllowed := s.keyAllowed || s.flow = 0 }
    else { s with place := p }

/-- A mark that ends all blocks. -/
def closeAll? (s : Scan) : Option Scan := do
  return { ← (s.unroll (-1)).dropKey? with keyAllowed := false }

def blockEntry? (s : Scan) : Option Scan := do
  if s.flow = 0 ∧ !s.keyAllowed then none
  else
    let s ← (s.roll s.column s.tokens.size .blockSequence).dropKey?
    return { s.mark 1 .blockEntry with keyAllowed := true }

def explicitKey? (s : Scan) : Option Scan := do
  if s.flow = 0 ∧ !s.keyAllowed then none
  else
    let s ← (s.roll s.column s.tokens.size .blockMapping).dropKey?
    return { s.mark 1 .key with keyAllowed := s.flow = 0 }

/-- A colon: it makes the key before it one, or stands for a value without a key. -/
def value? (s : Scan) : Option Scan :=
  match s.currentKey with
  | some k =>
    -- the block that the key opens stands before it, so its token goes in second
    let s := s.insertAt k.number .key
    let s := s.roll k.place.column k.number .blockMapping
    some { (s.setKey none).mark 1 .value with keyAllowed := false }
  | none =>
    if s.flow = 0 ∧ !s.keyAllowed then none
    else
      let s := s.roll s.column s.tokens.size .blockMapping
      some { s.mark 1 .value with keyAllowed := s.flow = 0 }

def openFlow? (s : Scan) (t : Token) : Option Scan := do
  let s := (← s.saveKey?).mark 1 t
  return { s with flow := s.flow + 1, keys := none :: s.keys, keyAllowed := true }

def closeFlow? (s : Scan) (t : Token) : Option Scan := do
  let s ← s.dropKey?
  let s := if s.flow = 0 then s else { s with flow := s.flow - 1, keys := s.keys.tail }
  return { s.mark 1 t with keyAllowed := false }

def flowEntry? (s : Scan) : Option Scan := do
  return { (← s.dropKey?).mark 1 .flowEntry with keyAllowed := true }

/-- A word that may begin a key, read by `read`. -/
def word? (s : Scan) (read : Place → Option (Token × Place)) : Option Scan := do
  let s ← s.saveKey?
  let (token, place) ← read s.place
  return { s.push token with place, keyAllowed := false }

def blockScalar? (s : Scan) (literal : Bool) : Option Scan := do
  let s ← s.dropKey?
  let (text, place) ← block? literal s.indent (s.place.skip 1)
  let token := Token.scalar (String.ofList text) (if literal then .literal else .folded)
  return { s.push token with place, keyAllowed := true }

def plainScalar? (s : Scan) : Option Scan := do
  let s ← s.saveKey?
  let (text, place, broken) ←
    plain? (s.flow ≠ 0) (s.indent + 1) s.limit s.place .none []
  return { s.push (.scalar (String.ofList text.reverse) .plain) with place, keyAllowed := broken }

def quotedScalar? (s : Scan) (single : Bool) : Option Scan :=
  s.word? fun p => do
    let (text, next) ← quoted? single s.limit (p.skip 1) .none []
    return (.scalar (String.ofList text) .quoted, next)

def tagWord? (s : Scan) : Option Scan := do
  let s ← s.word? fun p => do
    let (handle, suffix, next) ← tag? p
    return (.tag handle suffix, next)
  if s.place.blankAt 0 ∨ (s.flow ≠ 0 ∧ s.place.sees 0 ',') then some s else none

/-- A character with which no plain scalar begins. -/
def isIndicator (c : Char) : Bool :=
  "-?:,[]\x7b\x7d#&*!|>\x27\"%@\x60".toList.contains c

/-- Reads the word at the current place, which is not the end of the text. -/
def next? (s : Scan) (c : Char) : Option Scan :=
  let p := s.place
  if p.column = 0 ∧ c = '%' then do
    let s ← s.closeAll?
    let (token, place) ← directive? p
    return { s.push token with place }
  else if p.seesMark '-' then s.closeAll?.map (·.mark 3 .documentStart)
  else if p.seesMark '.' then s.closeAll?.map (·.mark 3 .documentEnd)
  else if c = '[' then s.openFlow? .flowSequence
  else if c = '{' then s.openFlow? .flowMapping
  else if c = ']' then s.closeFlow? .flowSequenceEnd
  else if c = '}' then s.closeFlow? .flowMappingEnd
  else if c = ',' then s.flowEntry?
  else if c = '-' ∧ p.blankAt 1 then s.blockEntry?
  else if c = '?' ∧ (s.flow ≠ 0 ∨ p.blankAt 1) then s.explicitKey?
  else if c = ':' ∧ (s.flow ≠ 0 ∨ p.blankAt 1) then s.value?
  else if c = '*' then s.word? fun p => (name? (p.skip 1)).map fun (n, q) => (.aliasOf n, q)
  else if c = '&' then s.word? fun p => (name? (p.skip 1)).map fun (n, q) => (.anchor n, q)
  else if c = '!' then s.tagWord?
  else if c = '|' ∧ s.flow = 0 then s.blockScalar? true
  else if c = '>' ∧ s.flow = 0 then s.blockScalar? false
  else if c = '\x27' then s.quotedScalar? true
  else if c = '"' then s.quotedScalar? false
  else if !(isIndicator c) ∧ !(isGap c) then s.plainScalar?
  -- some marks begin a plain scalar when no blank follows them
  else if c = '-' ∧ !(p.peek 1).any isGap then s.plainScalar?
  else if s.flow = 0 ∧ (c = '?' ∨ c = ':') ∧ !p.blankAt 1 then s.plainScalar?
  else none

/-- Reads all words; each takes at least one character. -/
def run? : Nat → Scan → Option Scan
  | 0, _ => none
  | fuel + 1, s => do
    let s ← (toNextWord s.limit s).staleKeys?
    match s.place.rest with
    | [] => (s.unroll (-1)).dropKey?
    | c :: _ => run? fuel (← (s.unroll s.column).next? c)

end Scan

def tokens? (cs : List Char) : Option (List Token) :=
  if cs.all isAllowed then
    (Scan.run? (cs.length + 1) (.start cs)).map (·.tokens.toList)
  else none

end SqlGateway.Yaml
