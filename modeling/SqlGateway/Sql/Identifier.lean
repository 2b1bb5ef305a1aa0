import SqlGateway.Text.Blank
import SqlGateway.Text.Pieces
import SqlGateway.Text.Replace

/-!
# Identifiers

Table prefixes and identifier quotes. An identifier is a path of segments between dots, perhaps
followed by an alias that is kept as written.

* Text with a parenthesis is an expression and stays as it is.
* A path whose first segment is a known alias is quoted and never takes the prefix.
* Of another path the segment that names the table takes the prefix.
* A name without dots takes the prefix only where it names a table, or when it begins with the
  prefix that stands for the table prefix.
* A segment that has the prefix does not take it again.
-/

namespace SqlGateway.Identifier

/-- The settings of a connection that concern identifiers. -/
structure Rules where
  tablePrefix : String
  /-- What stands for `tablePrefix` in names that callers write. -/
  swapPrefix : String
  /-- The character around identifiers. -/
  quote : Option Char
  /-- Identifiers are quoted where a use does not say. -/
  quoting : Bool
  deriving DecidableEq, Repr

/-- How an identifier is used. -/
structure Use where
  /-- The aliases that are known. -/
  aliases : List String
  /-- A name without dots names a table. -/
  bareIsTable : Bool
  /-- Whether to quote, if the use says so. -/
  quoting : Option Bool
  /-- The last segment of a path names a column. -/
  endsInColumn : Bool
  deriving DecidableEq, Repr

/-- The use as a column of no known table. -/
def Use.column : Use :=
  ⟨[], false, none, true⟩

/-- The use as a table where only its own dots tell what a segment is. -/
def Use.table : Use :=
  ⟨[], true, none, true⟩

/-! ## Quotes -/

/-- Puts quotes around each segment. A star stays bare, alone or at the end of a path. -/
def quoteSegments (q : Char) (item : List Char) : List Char :=
  if item = ['*'] then item
  else
    let quoted :=
      if Chars.occursIn ['.', '*'] item then q :: Chars.replaceChar '.' [q, '.'] item
      else if '.' ∈ item then q :: Chars.replaceChar '.' [q, '.', q] item ++ [q]
      else q :: item ++ [q]
    Chars.collapse q quoted

namespace Rules

def quoteChars (r : Rules) (item : List Char) : List Char :=
  match r.quote with
  | none => item
  | some q => quoteSegments q item

/-- The text without any quotes. -/
def strip (r : Rules) (part : List Char) : List Char :=
  match r.quote with
  | none => part
  | some q => part.filter (· ≠ q)

/-! ## Prefixes -/

/-- What follows the prefix that stands for the table prefix. -/
def afterSwap? (r : Rules) (part : List Char) : Option (List Char) :=
  if r.swapPrefix = "" then none else Chars.afterLead? r.swapPrefix.toList part

/-- A segment with the prefix, which replaces the one that stands for it. -/
def prefixed (r : Rules) (part : List Char) : List Char :=
  match r.afterSwap? part with
  | some rest => r.tablePrefix.toList ++ rest
  | none =>
    if Chars.startsWith r.tablePrefix.toList part then part else r.tablePrefix.toList ++ part

/-- The place of the table among the segments of a path. -/
def tableIndex (u : Use) (count : Nat) : Nat :=
  (if 4 ≤ count then 2 else if count = 3 then 1 else 0) + (if u.endsInColumn then 0 else 1)

/-! ## Protection -/

/-- Segments with dots between them. -/
def path (parts : List (List Char)) : List Char :=
  ['.'].intercalate parts

/-- Prefixes and quotes a path with dots. -/
def protectPath (r : Rules) (u : Use) (quoting : Bool) (item : List Char) : List Char :=
  let parts := (Chars.splitOn '.' item).map r.strip
  if u.aliases.contains (String.ofList (parts.headD [])) then
    -- a star in the middle of a path stays bare as well
    path (if quoting then parts.map fun p => if p = ['*'] then p else r.quoteChars p else parts)
  else
    let parts :=
      if r.tablePrefix = "" then parts else parts.modify (tableIndex u parts.length) r.prefixed
    if quoting then r.quoteChars (path parts) else path parts

/-- Prefixes and quotes a name without dots. -/
def protectName (r : Rules) (u : Use) (quoting : Bool) (item : List Char) : List Char :=
  let name := r.strip item
  let name :=
    if r.tablePrefix ≠ "" ∧ ((r.afterSwap? name).isSome ∨ u.bareIsTable) then r.prefixed name
    else name
  if quoting ∧ name ≠ ['*'] then r.quoteChars name else name

def protectChars (r : Rules) (u : Use) (text : List Char) : List Char :=
  let quoting := u.quoting.getD r.quoting
  -- the tail is the alias with the blank before it
  let (item, tail) := Chars.breakAt ' ' (Chars.squeezeGaps (Chars.trim text))
  if '(' ∈ item then item ++ tail
  else if '.' ∈ item then r.protectPath u quoting item ++ tail
  else r.protectName u quoting item ++ tail

/-- Prefixes and quotes one identifier. -/
def protect (r : Rules) (u : Use) (item : String) : String :=
  String.ofList (r.protectChars u item.toList)

/-- Quotes an identifier without prefixing it. -/
def quoteName (r : Rules) (item : String) : String :=
  String.ofList (r.quoteChars item.toList)

/-- The name of a table in the database. -/
def tableName (r : Rules) (table : String) : String :=
  if r.tablePrefix = "" then table else String.ofList (r.prefixed table.toList)

end Rules

end SqlGateway.Identifier
