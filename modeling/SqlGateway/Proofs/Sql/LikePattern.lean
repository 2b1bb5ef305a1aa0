import Mathlib.Data.List.Infix
import SqlGateway.Proofs.Sql.LiteralReader

/-!
# Reading LIKE predicates

A reader of LIKE predicates for each dialect, apart from the writer. A pattern is written twice
over: it has an escape character, which makes the next character a literal one, and it stands in a
string literal, which has escapes of its own. The reader undoes the literal first and the pattern
after that, and what it has read then says of every text whether it matches.

Main definitions:

* `Wild`, `Wild.accepts`: a pattern as it was read, and the texts that match it.
* `Dialect.readWilds?`: reads a pattern.
* `Dialect.readLike?`: reads a predicate, from behind the column on.

Main results:

* `Wild.accepts_plain`: characters without a special meaning match themselves.
* `Wild.accepts_shortest`: every pattern has a shortest text that matches.
-/

namespace SqlGateway

/-- What a place of a pattern stands for. -/
inductive Wild where
  /-- Any text, also the empty one. -/
  | any
  /-- Any character. -/
  | one
  | exactly (c : Char)
  deriving DecidableEq

/-! ## Matching -/

namespace Wild

/-- A character without an escape before it. -/
def ofChar (c : Char) : Wild :=
  if c = '%' then any else if c = '_' then one else exactly c

/-- The whole of the text matches. -/
def accepts : List Wild → List Char → Bool
  | [], cs => cs.isEmpty
  | any :: ws, cs => cs.tails.any fun rest => accepts ws rest
  | one :: ws, _ :: cs => accepts ws cs
  | exactly c :: ws, d :: cs => c = d && accepts ws cs
  | _ :: _, [] => false

theorem accepts_nil_iff {cs : List Char} : accepts [] cs = true ↔ cs = [] :=
  List.isEmpty_iff

theorem accepts_any_iff {ws : List Wild} {cs : List Char} :
    accepts (any :: ws) cs = true ↔ ∃ rest, rest <:+ cs ∧ accepts ws rest = true := by
  simp only [accepts, List.any_eq_true, List.mem_tails]

/-- A wildcard at the end takes all that is left. -/
theorem accepts_any_last (cs : List Char) : accepts [any] cs = true :=
  accepts_any_iff.2 ⟨[], List.nil_suffix, rfl⟩

/-- Characters that stand for themselves are the beginning of what matches. -/
theorem accepts_plain_iff {text : List Char} {ws : List Wild} {cs : List Char} :
    accepts (text.map exactly ++ ws) cs = true ↔
      ∃ rest, cs = text ++ rest ∧ accepts ws rest = true := by
  induction text generalizing cs with
  | nil => simp
  | cons c text ih =>
    cases cs with
    | nil => simp [accepts]
    | cons d cs =>
      show (decide (c = d) && accepts (text.map exactly ++ ws) cs) = true ↔ _
      rw [Bool.and_eq_true, decide_eq_true_iff, ih]
      constructor
      · rintro ⟨rfl, rest, rfl, h⟩
        exact ⟨rest, rfl, h⟩
      · rintro ⟨rest, heq, h⟩
        obtain ⟨rfl, rfl⟩ := List.cons.inj heq
        exact ⟨rfl, rest, rfl, h⟩

/-- The shortest text that matches, with a letter in the place of any character. -/
def shortest : Wild → List Char
  | any => []
  | one => ['x']
  | exactly c => [c]

theorem accepts_shortest (ws : List Wild) : accepts ws (ws.flatMap shortest) = true := by
  induction ws with
  | nil => rfl
  | cons w ws ih =>
    cases w with
    | any => exact accepts_any_iff.2 ⟨_, List.suffix_rfl, ih⟩
    | one => exact ih
    | exactly c => exact Bool.and_eq_true_iff.2 ⟨decide_eq_true rfl, ih⟩

end Wild

/-! ## Reading -/

namespace Dialect

/-- What an escape character stands for at the end of a pattern, where it has nothing to escape:
itself, except that such a pattern has no meaning for SQLite. -/
def lone? : Dialect → Char → Option (List Wild)
  | sqlite, _ => none
  | _, c => some [.exactly c]

/-- Reads a pattern with an escape character or without one. That one was just read is told by
`opened?`. -/
def readWilds? (d : Dialect) (escape? : Option Char) :
    (opened? : Option Char) → List Char → Option (List Wild)
  | none, [] => some []
  | some c, [] => d.lone? c
  | none, c :: cs =>
    if escape? = some c then d.readWilds? escape? (some c) cs
    else (d.readWilds? escape? none cs).map (.ofChar c :: ·)
  | some _, c :: cs => (d.readWilds? escape? none cs).map (.exactly c :: ·)

section
variable {d : Dialect} {escape c : Char}

/-- An escaped character is a literal one. -/
theorem readWilds?_escaped (cs : List Char) :
    d.readWilds? (some escape) none (escape :: c :: cs) =
      (d.readWilds? (some escape) none cs).map (.exactly c :: ·) := by
  rw [readWilds?, if_pos rfl, readWilds?]

/-- So is a character that is neither a wildcard nor the escape character. -/
theorem readWilds?_plain (hescape : c ≠ escape) (hwild : ¬ (c = '%' ∨ c = '_')) (cs : List Char) :
    d.readWilds? (some escape) none (c :: cs) =
      (d.readWilds? (some escape) none cs).map (.exactly c :: ·) := by
  have hself : Wild.ofChar c = .exactly c := by
    unfold Wild.ofChar
    rw [if_neg fun h => hwild (.inl h), if_neg fun h => hwild (.inr h)]
  rw [readWilds?, if_neg fun h => hescape (Option.some.inj h).symm, hself]

/-- A wildcard that is not escaped is one. -/
theorem readWilds?_percent (hescape : escape ≠ '%') (cs : List Char) :
    d.readWilds? (some escape) none ('%' :: cs) =
      (d.readWilds? (some escape) none cs).map (.any :: ·) := by
  rw [readWilds?, if_neg fun h => hescape (Option.some.inj h)]
  rfl

end

/-- What a backslash and the character after it stand for in the literal of a pattern. In front of a
wildcard the backslash stays, since that is for the pattern to read. -/
def keptEscape? (c : Char) : Option (List Char) :=
  if c = '%' ∨ c = '_' then some ['\\', c] else (unescaped? c).map ([·])

/-- The pattern up to the quote that ends its literal, and what follows that quote. -/
def readKept? : List Char → Option (List Char × List Char)
  | [] => none
  | [c] => if c = '\x27' then some ([], []) else none
  | c :: d :: cs =>
    if c = '\x27' then some ([], d :: cs)
    else if c = '\\' then do
      let kept ← keptEscape? d
      let (text, rest) ← readKept? cs
      return (kept ++ text, rest)
    else do
      let (text, rest) ← readKept? (d :: cs)
      return (c :: text, rest)

section
variable {c : Char} {cs text rest : List Char} (h : readKept? cs = some (text, rest))
include h

theorem readKept?_escaped {kept : List Char} (hc : keptEscape? c = some kept) :
    readKept? ('\\' :: c :: cs) = some (kept ++ text, rest) := by
  simp [readKept?, hc, h]

theorem readKept?_plain (hb : c ≠ '\\') (hq : c ≠ '\x27') :
    readKept? (c :: cs) = some (c :: text, rest) := by
  -- there is a quote to come, so this is not the last character
  cases cs with
  | nil => cases h
  | cons d ds => simp [readKept?, hb, hq, h]

end

/-- Reads the literal of a pattern. -/
def readPattern? (d : Dialect) (cs : List Char) : Option (List Char × List Char) :=
  match d, cs with
  | sqlite, cs => sqlite.readText? cs
  | _, '\x27' :: cs => readKept? cs
  | _, _ => none

/-- The escape character of patterns, where the predicate does not name one. -/
def patternEscape? : Dialect → Option Char
  | sqlite => none
  | _ => some '\\'

/-- Reads the end of a predicate, for the escape character of its pattern. -/
def readEscape? (d : Dialect) : List Char → Option (Option Char)
  | [] => some d.patternEscape?
  | cs => do
    match ← d.readText? (← cs.dropPrefix? " ESCAPE ".toList) with
    | ([c], []) => some (some c)
    | _ => none

/-- Reads a LIKE predicate from behind its column on, up to its end. -/
def readLike? (d : Dialect) (cs : List Char) : Option (List Wild) := do
  let (pattern, rest) ← d.readPattern? (← cs.dropPrefix? " LIKE ".toList)
  d.readWilds? (← d.readEscape? rest) none pattern

end Dialect

end SqlGateway
