import SqlGateway.Decimal.Numeral
import SqlGateway.Text.Blank
import SqlGateway.Text.Pieces
import SqlGateway.Text.Replace
import SqlGateway.Text.Word

/-!
# Swapping the prefix

Callers may write a stand-in for the table prefix in their statements. `PrefixSwap.apply` replaces
it wherever it starts a word that goes on.

The replacement is a template around the prefix, so a dollar sign in the prefix has a meaning:
`${name}` and `$name` refer to a part of the match, the number 0 standing for all of it, 1 for the
character before the stand-in and 2 for the one after it; `$$` is a dollar sign. A reference to any
other part is empty, and a dollar sign that starts no reference stays.
-/

namespace SqlGateway.PrefixSwap

/-! ## Templates -/

/-- A character that a reference without braces is made of. -/
def isReferenceChar (c : Char) : Bool :=
  c.isAlphanum || c = '_'

/-- The text of a part of the match. -/
def part (parts : List (List Char)) (name : List Char) : List Char :=
  match Decimal.int? name with
  | some (.ofNat n) => if name.head? = some '-' then [] else parts.getD n []
  | _ => []

/-- What a dollar sign stands for, given what follows it: a text, and how many of the characters
that follow are used up. -/
def reference (parts : List (List Char)) : List Char → List Char × Nat
  | '$' :: _ => (['$'], 1)
  | '{' :: rest =>
    let name := rest.takeWhile (· ≠ '}')
    if name.length < rest.length then (part parts name, name.length + 2) else (['$'], 0)
  | rest =>
    let name := rest.takeWhile isReferenceChar
    if name.isEmpty then (['$'], 0) else (part parts name, name.length)

/-- Expands the references of a template. -/
def expand (parts : List (List Char)) (template : List Char) : List Char :=
  Chars.replaceBy
    (fun
      | '$' :: rest =>
        let (text, used) := reference parts rest
        some ⟨used + 1, text⟩
      | _ => none)
    template

/-! ## The swap -/

/-- The replacement around the prefix. -/
def template (tablePrefix : List Char) : List Char :=
  "$\x7b1\x7d".toList ++ tablePrefix ++ "$\x7b2\x7d".toList

/-- The stand-in, between a character that is part of no word and one that is no blank, becomes the
prefix. -/
def swapRule (standIn tablePrefix : List Char) : List Char → Option Chars.Replacement
  | [] => none
  | before :: rest =>
    if Chars.isWord before then none
    else match Chars.afterLead? standIn rest with
      | some (after :: _) =>
        if Chars.isBlank after then none
        else
          -- the characters on both sides belong to the match and cannot take part in another one
          let parts := [before :: standIn ++ [after], [before], [after]]
          some ⟨standIn.length + 2, expand parts (template tablePrefix)⟩
      | _ => none

/-- The statement with the prefix in the place of its stand-in. Without a prefix or a stand-in, or
when they are the same, nothing is replaced. -/
def apply (tablePrefix standIn sql : String) : String :=
  if tablePrefix = "" ∨ standIn = "" ∨ tablePrefix = standIn then sql
  else String.ofList (Chars.replaceBy (swapRule standIn.toList tablePrefix.toList) sql.toList)

end SqlGateway.PrefixSwap
