import SqlGateway.Query.Calls
import SqlGateway.Sql.Statement

/-!
# Compiling reads

The text of a SELECT, and the reads of a builder. A read is the statement that is sent together with
the builder that is left when it has been sent, whether it is accepted or not.
-/

namespace SqlGateway

/-- A statement with the builder that is left after it. -/
structure Read where
  statement : String
  after : Builder

namespace Builder

/-! ## The text -/

/-- The word SELECT with the select list. -/
def selectHead (style : Style) (b : Builder) : String :=
  let columns := b.live.select.map fun item => b.protect style false item.quoting true item.text
  (if b.distinct then "SELECT DISTINCT " else "SELECT ") ++
    (if columns.isEmpty then "*" else Text.join ", " columns)

/-- What follows the select list. -/
def selectTail (style : Style) (b : Builder) : String :=
  let c := b.live
  (if c.tables.isEmpty then "" else " FROM " ++ Text.join ", " c.tables) ++
    (if c.joins.isEmpty then "" else " " ++ Text.join " " c.joins) ++
    (if c.wheres.isEmpty && c.likes.isEmpty then "" else " WHERE " ++ c.conditionText) ++
    (if c.groups.isEmpty then "" else " GROUP BY " ++ Text.join ", " c.groups) ++
    (if c.havings.isEmpty then ""
      else " HAVING " ++ Text.join " " (Fragment.render c.havings)) ++
    Statement.orderPart c.orders ++
    (match b.limit with
      | none => ""
      | some limit => style.dialect.windowPart limit b.offset)

/-- The text of the SELECT that the live clauses and the snapshot make. -/
def selectText (style : Style) (b : Builder) : String :=
  let b := b.merge
  b.selectHead style ++ b.selectTail style

/-- The text of the same SELECT with a count in the place of the select list. -/
def countText (style : Style) (b : Builder) : String :=
  style.dialect.count ++ b.column style "numrows" ++ b.merge.selectTail style

/-! ## Reads -/

/-- Adds the table of a call, if it names one. -/
def fromArgument (style : Style) (b : Builder) (table? : Option String) : Builder :=
  match Text.nonBlank? table? with
  | some table => b.fromTables style table
  | none => b

/-- Compiles without sending anything. Compiling merges the snapshot for good. -/
def compile (style : Style) (b : Builder) : String × Builder :=
  (b.selectText style, b.merge)

/-- Compiles a select of a table, and perhaps forgets the clauses. -/
def compileFor (style : Style) (b : Builder) (table? : Option String) (forget : Bool) :
    String × Builder :=
  let (text, b) := (b.fromArgument style table?).compile style
  (text, if forget then b.afterRead else b)

/-- A select of a table, with a window if the call has one. -/
def get (style : Style) (b : Builder) (table? : Option String) (limit offset : Option Nat) : Read :=
  let b := b.fromArgument style table?
  let b := { b with limit := limit <|> b.limit, offset := offset <|> b.offset }
  ⟨b.selectText style, b.merge.afterRead⟩

/-- A select with further conditions. -/
def getWhere (style : Style) (b : Builder) (table? : Option String) (pairs : List (String × Value))
    (limit offset : Option Nat) : Read :=
  (b.whereAll style pairs).get style table? limit offset

/-- A count of the rows that a select would find. -/
def countResults (style : Style) (b : Builder) (table? : Option String) : Read :=
  let b := b.fromArgument style table?
  ⟨b.countText style, b.merge.afterRead⟩

end Builder

end SqlGateway
