/-!
# Blank characters

The white space of Unicode, and the cuts that text makes at it. Operations on characters live in
`SqlGateway.Chars`; `SqlGateway.Text` offers them on strings.

Main definitions:

* `Chars.isBlank`: the Unicode property White_Space.
* `Chars.trim`: the text without the blanks at its two ends.
* `Chars.squeezeGaps`: every run of spaces and tabs becomes one space.
* `Chars.words`: the maximal runs of characters that are not blank.
-/

namespace SqlGateway.Chars

/-- The Unicode property White_Space. -/
def isBlank (c : Char) : Bool :=
  let n := c.toNat
  (9 ≤ n && n ≤ 13) || n == 0x20 || n == 0x85 || n == 0xA0 || n == 0x1680 ||
    (0x2000 ≤ n && n ≤ 0x200A) || n == 0x2028 || n == 0x2029 || n == 0x202F ||
    n == 0x205F || n == 0x3000

/-- Every blank of core's ASCII class is a blank here. -/
theorem isBlank_of_isWhitespace {c : Char} (h : c.isWhitespace = true) : isBlank c = true := by
  simp only [Char.isWhitespace, Bool.or_eq_true, decide_eq_true_eq] at h
  rcases h with ((rfl | rfl) | rfl) | rfl <;> decide

/-! ## The two ends -/

def trimStart (cs : List Char) : List Char :=
  cs.dropWhile isBlank

def trimEnd (cs : List Char) : List Char :=
  (cs.reverse.dropWhile isBlank).reverse

def trim (cs : List Char) : List Char :=
  trimEnd (trimStart cs)

/-! ## Inner runs -/

/-- Runs of spaces and tabs become one space; `inGap` says that the last character was in a run. -/
def squeezeGapsFrom (inGap : Bool) : List Char → List Char
  | [] => []
  | c :: cs =>
    if c = ' ' ∨ c = '\t' then
      if inGap then squeezeGapsFrom true cs else ' ' :: squeezeGapsFrom true cs
    else c :: squeezeGapsFrom false cs

def squeezeGaps (cs : List Char) : List Char :=
  squeezeGapsFrom false cs

/-- The words of a text, `word` being the reversed beginning of the next one. -/
def wordsFrom (word : List Char) : List Char → List (List Char)
  | [] => if word.isEmpty then [] else [word.reverse]
  | c :: cs =>
    if isBlank c then
      if word.isEmpty then wordsFrom [] cs else word.reverse :: wordsFrom [] cs
    else wordsFrom (c :: word) cs

def words (cs : List Char) : List (List Char) :=
  wordsFrom [] cs

end SqlGateway.Chars

namespace SqlGateway.Text

def trim (s : String) : String :=
  String.ofList (Chars.trim s.toList)

/-- The text has no character, or blanks only. -/
def isBlank (s : String) : Bool :=
  s.toList.all Chars.isBlank

/-- The argument, unless it is missing or blank. -/
def nonBlank? (s? : Option String) : Option String :=
  s?.filter fun s => !isBlank s

end SqlGateway.Text
