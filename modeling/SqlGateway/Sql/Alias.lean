import SqlGateway.Text.Blank
import SqlGateway.Text.Pieces
import SqlGateway.Text.Replace

/-!
# Aliases

The alias that a table expression introduces: the last word after the table, with or without the
word AS before it.
-/

namespace SqlGateway.Identifier

/-- The word AS between blanks becomes a single space. -/
def dropAs (text : List Char) : Option Chars.Replacement :=
  let rest := text.dropWhile Chars.isBlank
  if rest.length = text.length then none
  else
    -- the blanks behind the word are used up, so they cannot stand before a second one
    match Chars.afterLetters? ['A', 'S'] rest with
    | none => none
    | some tail =>
      let after := tail.dropWhile Chars.isBlank
      if after.length = tail.length then none else some ⟨text.length - after.length, [' ']⟩

/-- The alias of a table expression, if it has one. -/
def alias? (table : String) : Option String :=
  let text := Chars.squeezeGaps (Chars.replaceBy dropAs (Chars.trim table.toList))
  match Chars.afterLast? ' ' text with
  | some (c :: cs) => some (String.ofList (c :: cs))
  | _ => none

/-- The aliases of a list of table expressions. -/
def aliasesOf (tables : String) : List String :=
  (Chars.splitOn ',' tables.toList).filterMap fun table => alias? (String.ofList table)

end SqlGateway.Identifier
