import SqlGateway.Text.Pieces

/-!
# Dialects

The SQL dialects that backends speak: how each quotes, escapes and names things, and which
statements it has for reading the catalogue.

Main definitions:

* `Dialect.escape`: text as it stands between the quotes of a string literal.
* `Dialect.escapeLike`: the same for a pattern, with the wildcards made literal.
* `Dialect.listTables?`, `Dialect.listColumns?`, `Dialect.version?`: catalogue statements.
-/

namespace SqlGateway

inductive Dialect where
  | mysql
  /-- The common statements without a catalogue; `quote` is the identifier quote, if any. -/
  | bare (quote : Option Char)
  | sqlite
  deriving DecidableEq, Repr, Inhabited

namespace Dialect

def platform : Dialect → String
  | mysql => "mysql"
  | bare _ => "bare"
  | sqlite => "sqlite"

/-- The character around identifiers. -/
def quote : Dialect → Option Char
  | mysql => some '\x60'
  | bare q => q
  | sqlite => some '"'

/-! ## String literals -/

/-- A character of a literal in which a backslash starts an escape. -/
def backslashed (like : Bool) (c : Char) : List Char :=
  if c = '\\' then ['\\', '\\']
  else if c = '\x27' then ['\\', '\x27']
  else if c = '"' then ['\\', '"']
  else if c = '\x00' then ['\\', '0']
  else if c = '\n' then ['\\', 'n']
  else if c = '\r' then ['\\', 'r']
  else if c = '\x1a' then ['\\', 'Z']
  else if like && (c = '%' || c = '_') then ['\\', c]
  else [c]

/-- A character of a literal in which a quote is written twice. Patterns are escaped by `!`. -/
def doubled (like : Bool) (c : Char) : List Char :=
  if c = '\x27' then ['\x27', '\x27']
  else if like && (c = '%' || c = '_' || c = '!') then ['!', c]
  else [c]

def escapeChar : Dialect → Bool → Char → List Char
  | sqlite => doubled
  | _ => backslashed

def escapeChars (d : Dialect) (like : Bool) (cs : List Char) : List Char :=
  cs.flatMap (d.escapeChar like)

def escape (d : Dialect) (s : String) : String :=
  String.ofList (d.escapeChars false s.toList)

def escapeLike (d : Dialect) (s : String) : String :=
  String.ofList (d.escapeChars true s.toList)

/-- What follows the pattern of a LIKE condition. -/
def likeClause : Dialect → String
  | sqlite => " ESCAPE '!'"
  | _ => ""

/-! ## Words -/

/-- The expression that orders rows at random. -/
def random : Dialect → String
  | sqlite => "RANDOM()"
  | _ => "RAND()"

/-- The beginning of a statement that counts rows, up to the name of the count. -/
def count (_ : Dialect) : String :=
  "SELECT COUNT(*) AS "

/-! ## Catalogue -/

/-- Lists the tables, perhaps only those whose names begin with a prefix. -/
def listTables? (d : Dialect) (lead? : Option String) : Option String :=
  match d with
  | mysql =>
    match lead? with
    | none => some "SHOW TABLES"
    | some lead => some ("SHOW TABLES LIKE '" ++ d.escapeLike lead ++ "%'")
  | bare _ => none
  | sqlite =>
    let filter := match lead? with
      | none => ""
      | some lead =>
        if lead = "" then "" else " AND name LIKE '" ++ d.escapeLike lead ++ "%'" ++ d.likeClause
    some ("SELECT name FROM sqlite_master WHERE type = 'table'" ++
      " AND name NOT LIKE 'sqlite!_%' ESCAPE '!'" ++ filter ++ " ORDER BY name")

/-- Lists the columns of a table. -/
def listColumns? (d : Dialect) (table : String) : Option String :=
  match d with
  | mysql => some ("SHOW COLUMNS FROM " ++ table)
  | bare _ => none
  | sqlite => some ("SELECT name FROM pragma_table_info('" ++ d.escape table ++ "')")

def version? : Dialect → Option String
  | sqlite => some "SELECT sqlite_version() AS ver"
  | _ => none

/-- Reads one row of a table, for its columns. -/
def probe (_ : Dialect) (table : String) : String :=
  "SELECT * FROM " ++ table ++ " LIMIT 1"

end Dialect

end SqlGateway
