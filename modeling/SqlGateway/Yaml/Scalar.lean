import SqlGateway.Text.Hex
import SqlGateway.Yaml.Place

/-!
# YAML scalars

The three forms of a scalar: plain and quoted scalars, whose line ends are folded, and block
scalars, which keep or fold theirs.
-/

namespace SqlGateway.Yaml

/-! ## Folding -/

/-- Blanks that have been read and not yet written. -/
inductive Gap where
  | none
  /-- Blanks within a line, last first. -/
  | spaces (cs : List Char)
  /-- A line end, and the line ends after it. -/
  | breaks (first more : List Char)

/-- What a gap becomes before the next character: a lone line end is a space, further ones stay. -/
def Gap.text : Gap → List Char
  | .none => []
  | .spaces cs => cs.reverse
  | .breaks first more =>
    if first = ['\n'] then (if more.isEmpty then [' '] else more) else first ++ more

def Gap.addBlank (c : Char) : Gap → Gap
  | .none => .spaces [c]
  | .spaces cs => .spaces (c :: cs)
  | .breaks first more => .breaks first more

def Gap.addBreak (text : List Char) : Gap → Gap
  | .breaks first more => .breaks first (more ++ text)
  | _ => .breaks text []

/-- A gap that contains a line end. -/
def Gap.isBroken : Gap → Bool
  | .breaks .. => true
  | _ => false

def Gap.isEmpty : Gap → Bool
  | .none => true
  | _ => false

/-- Writes a gap at the end of a reversed text. -/
def Gap.writeTo (g : Gap) (out : List Char) : List Char :=
  g.text.reverse ++ out

/-! ## Quoted scalars -/

/-- The character of a one-letter escape. -/
def escapeChar? (c : Char) : Option Char :=
  match c with
  | '0' => some '\x00'
  | 'a' => some '\x07'
  | 'b' => some '\x08'
  | 't' => some '\t'
  | '\t' => some '\t'
  | 'n' => some '\n'
  | 'v' => some '\x0b'
  | 'f' => some '\x0c'
  | 'r' => some '\r'
  | 'e' => some '\x1b'
  | ' ' => some ' '
  | '"' => some '"'
  | '/' => some '/'
  | '\\' => some '\\'
  | 'N' => some '\u0085'
  | '_' => some '\u00A0'
  | 'L' => some '\u2028'
  | 'P' => some '\u2029'
  | _ => none

/-- How many digits follow an escape that gives a character by number. -/
def escapeDigits? (c : Char) : Option Nat :=
  match c with
  | 'x' => some 2
  | 'u' => some 4
  | 'U' => some 8
  | _ => none

/-- The character an escape stands for, and the place after it. -/
def escape? (p : Place) : Option (Char × Place) := do
  let c ← p.peek 1
  match escapeDigits? c with
  | some count =>
    let digits := (p.rest.drop 2).take count
    let n ← if digits.length = count then Hex.number? digits else none
    if (0xD800 ≤ n ∧ n ≤ 0xDFFF) ∨ 0x10FFFF < n then none
    else some (Char.ofNat n, p.skip (2 + count))
  | none => return (← escapeChar? c, p.skip 2)

/-- Reads a quoted scalar from behind its opening quote. Each step takes at least one character, so
`fuel` beyond the length of the text is never used up. -/
def quoted? (single : Bool) : Nat → Place → Gap → List Char → Option (List Char × Place)
  | 0, _, _, _ => none
  | fuel + 1, p, gap, out =>
    let quote := if single then '\x27' else '"'
    if p.seesDocumentMark then none
    else match p.rest with
      | [] => none
      | c :: _ =>
        if isGap c then quoted? single fuel (p.skip 1) (gap.addBlank c) out
        else if isBreak c then quoted? single fuel p.skipBreak (gap.addBreak p.breakText) out
        else if single ∧ c = quote ∧ p.sees 1 quote then
          quoted? single fuel (p.skip 2) .none (quote :: gap.writeTo out)
        else if c = quote then some ((gap.writeTo out).reverse, p.skip 1)
        else if !single ∧ c = '\\' then
          -- an escaped line end joins two lines without a space
          if p.seesBreak 1 then
            quoted? single fuel (p.skip 1).skipBreak (.breaks [] []) (gap.writeTo out)
          else
            match escape? p with
            | some (c, next) => quoted? single fuel next .none (c :: gap.writeTo out)
            | none => none
        else quoted? single fuel (p.skip 1) .none (c :: gap.writeTo out)

/-! ## Plain scalars -/

def isFlowMark (c : Char) : Bool :=
  c = ',' || c = '[' || c = ']' || c = '{' || c = '}'

/-- A plain scalar: its text, last character first, the place after it and the blanks that follow,
and whether those contain a line end. `inFlow` says that it stands between brackets; outside of them
its further lines are indented by `indent` at least. -/
def plain? (inFlow : Bool) (indent : Int) :
    Nat → Place → Gap → List Char → Option (List Char × Place × Bool)
  | 0, _, _, _ => none
  | fuel + 1, p, gap, out =>
    let stop := some (out, p, gap.isBroken)
    if p.seesDocumentMark then stop
    else match p.rest with
      | [] => stop
      | c :: _ =>
        if isGap c then
          -- tabs do not indent
          if gap.isBroken ∧ (p.column : Int) < indent ∧ c = '\t' then none
          else plain? inFlow indent fuel (p.skip 1) (gap.addBlank c) out
        else if isBreak c then
          plain? inFlow indent fuel p.skipBreak (gap.addBreak p.breakText) out
        else if gap.isBroken ∧ !inFlow ∧ (p.column : Int) < indent then stop
        else if c = '#' ∧ !gap.isEmpty then stop
        else if inFlow ∧ c = ':' ∧ (p.peek 1).any (fun d => isFlowMark d || d = '?') then none
        else if c = ':' ∧ p.blankAt 1 then stop
        else if inFlow ∧ isFlowMark c then stop
        else plain? inFlow indent fuel (p.skip 1) .none (c :: gap.writeTo out)

/-! ## Block scalars -/

/-- What happens to the line ends at the end of a block scalar. -/
inductive Chomp where
  | strip
  | clip
  | keep

/-- The blank lines before a line of a block scalar: their line ends, the place after them, and the
widest column reached. A column of `none` is still to be found. -/
def blankLines? (indent : Option Nat) :
    Nat → Place → Nat → List Char → Option (List Char × Place × Nat)
  | 0, _, _, _ => none
  | fuel + 1, p, widest, breaks =>
    let within (column : Nat) : Bool := indent.all (column < ·)
    let blanks := (p.rest.takeWhile (· = ' ')).length
    let p := p.skip (match indent with
      | none => blanks
      | some n => min blanks (n - p.column))
    let widest := max widest p.column
    if within p.column ∧ p.sees 0 '\t' then none
    else if p.seesBreak 0 then
      blankLines? indent fuel p.skipBreak widest (breaks ++ p.breakText)
    else some (breaks, p, widest)

/-- The lines of a block scalar from a place behind blank lines. The text so far is kept and returned
with its last character first. `lead` is the line end of the line before, `trail` the line ends
after that one, `wasBlank` that the line before began with a blank. -/
def blockLines? (literal : Bool) (indent : Nat) :
    Nat → Place → (lead trail : List Char) → (wasBlank : Bool) → List Char →
      Option (List Char × List Char × List Char × Place)
  | 0, _, _, _, _, _ => none
  | fuel + 1, p, lead, trail, wasBlank, out =>
    match p.rest with
    | [] => some (out, lead, trail, p)
    | c :: _ =>
      if p.column ≠ indent then some (out, lead, trail, p)
      else
        let blank := isGap c
        -- folded: a lone line end between two lines of text is a space
        let joint :=
          if !literal ∧ lead = ['\n'] ∧ !wasBlank ∧ !blank then
            (if trail.isEmpty then [' '] else [])
          else lead
        let line := p.rest.takeWhile fun c => !isBreak c
        let p := p.skip line.length
        let out := (joint ++ trail ++ line).reverse ++ out
        match blankLines? (some indent) (fuel + 1) p.skipBreak 0 [] with
        | some (trail, next, _) =>
          blockLines? literal indent fuel next p.breakText trail blank out
        | none => none

/-- The marks behind the indicator of a block scalar: how it ends, and its indentation. -/
def blockHeader? (p : Place) : Option (Chomp × Option Nat × Place) :=
  let chomp? (p : Place) : Option Chomp :=
    if p.sees 0 '+' then some .keep else if p.sees 0 '-' then some .strip else none
  let digit? (p : Place) : Option Nat :=
    (p.peek 0).bind fun c => if c.isDigit then some (c.toNat - 48) else none
  match chomp? p, digit? p with
  | some chomp, _ =>
    let p := p.skip 1
    match digit? p with
    | some 0 => none
    | some n => some (chomp, some n, p.skip 1)
    | none => some (chomp, none, p)
  | none, some 0 => none
  | none, some n =>
    let p := p.skip 1
    match chomp? p with
    | some chomp => some (chomp, some n, p.skip 1)
    | none => some (.clip, some n, p)
  | none, none => some (.clip, none, p)

/-- Blanks and a comment up to the end of the line, and that end. -/
def restOfLine? (p : Place) : Option Place :=
  let p := p.skipWhile isGap
  let p := if p.sees 0 '#' then p.skipLineRest else p
  match p.peek 0 with
  | none => some p
  | some c => if isBreak c then some p.skipBreak else none

/-- Reads a block scalar from behind its indicator. `outer` is the indentation around it. -/
def block? (literal : Bool) (outer : Int) (p : Place) : Option (List Char × Place) := do
  let (chomp, step, p) ← blockHeader? p
  let p ← restOfLine? p
  let fuel := p.rest.length + 1
  let base := if 0 ≤ outer then outer.toNat else 0
  let given := step.map (base + ·)
  let (trail, p, widest) ← blankLines? given fuel p 0 []
  -- without an indentation of its own, the first line that is not blank decides
  let indent := given.getD (max widest (max (outer + 1).toNat 1))
  let (out, lead, trail, p) ← blockLines? literal indent fuel p [] trail false []
  let ending := match chomp with
    | .strip => []
    | .clip => lead
    | .keep => lead ++ trail
  return (out.reverse ++ ending, p)

end SqlGateway.Yaml
