import SqlGateway.Sql.Dialect

/-!
# Write statements

The statements that change rows, as data, and their text in each dialect. Tables, columns and values
are already protected and escaped; conditions carry their connectors.

SQLite has no limit on updates and deletes: a limit becomes a condition on the row number, and an
order is left out.
-/

namespace SqlGateway

/-- New rows for a table; each value list is aligned with the columns. -/
structure InsertStatement where
  table : String
  columns : List String
  rows : List (List String)
  deriving DecidableEq, Repr

structure UpdateStatement where
  table : String
  assignments : List (String × String)
  conditions : List String
  order : List String
  limit : Option Nat
  deriving DecidableEq, Repr

structure DeleteStatement where
  table : String
  conditions : List String
  likes : List String
  limit : Option Nat
  deriving DecidableEq, Repr

/-- Updates of rows that one column tells apart: each row assigns to the columns it lists. -/
structure BatchUpdate where
  table : String
  rows : List (List (String × String))
  index : String
  conditions : List String
  deriving DecidableEq, Repr

namespace Statement

/-! ## Parts -/

def tuple (values : List String) : String :=
  "(" ++ Text.join ", " values ++ ")"

def assignment : String × String → String
  | (column, value) => column ++ " = " ++ value

/-- A WHERE part, empty without conditions. -/
def wherePart (conditions : List String) : String :=
  if conditions.isEmpty then "" else " WHERE " ++ Text.join " " conditions

def orderPart (order : List String) : String :=
  if order.isEmpty then "" else " ORDER BY " ++ Text.join ", " order

def limitPart : Option Nat → String
  | none => ""
  | some n => " LIMIT " ++ toString n

/-! ## Rows -/

def insertText (verb : String) (s : InsertStatement) : String :=
  verb ++ " INTO " ++ s.table ++ " " ++ tuple s.columns ++ " VALUES " ++
    Text.join ", " (s.rows.map tuple)

/-- The arms of a batch update: for each column but the index, in the order in which the columns
first occur, the index values of the rows that list it with the values they assign. -/
def batchArms (s : BatchUpdate) : List (String × List (String × String)) :=
  let arms := s.rows.flatMap fun row =>
    match row.lookup s.index with
    | none => []
    | some id => (row.filter fun f => f.1 ≠ s.index).map fun (column, value) => (column, id, value)
  (arms.map Prod.fst).eraseDups.map fun column =>
    (column, (arms.filter fun arm => arm.1 = column).map Prod.snd)

/-- One case expression. -/
def caseText (index : String) : String × List (String × String) → String
  | (column, arms) =>
    let whens := arms.map fun (id, value) => "WHEN " ++ index ++ " = " ++ id ++ " THEN " ++ value
    column ++ " = CASE " ++ Text.join " " whens ++ " ELSE " ++ column ++ " END"

def batchText (s : BatchUpdate) : String :=
  let ids := s.rows.filterMap fun row => row.lookup s.index
  let conditions :=
    if s.conditions.isEmpty then "" else Text.join " " s.conditions ++ " AND "
  "UPDATE " ++ s.table ++ " SET " ++ Text.join ", " ((batchArms s).map (caseText s.index)) ++
    " WHERE " ++ conditions ++ s.index ++ " IN (" ++ Text.join "," ids ++ ")"

end Statement

namespace Dialect

/-- The condition that a row is among the first `limit` ones that match. -/
def rowLimit (table : String) (conditions : List String) (limit : Nat) : String :=
  "rowid IN (SELECT rowid FROM " ++ table ++ Statement.wherePart conditions ++
    Statement.limitPart (some limit) ++ ")"

def insertText (_ : Dialect) (s : InsertStatement) : String :=
  Statement.insertText "INSERT" s

def replaceText (_ : Dialect) (s : InsertStatement) : String :=
  Statement.insertText "REPLACE" s

def updateText (d : Dialect) (s : UpdateStatement) : String :=
  let lead := "UPDATE " ++ s.table ++ " SET " ++
    Text.join ", " (s.assignments.map Statement.assignment)
  match d with
  | sqlite =>
    match s.limit with
    | some limit => lead ++ Statement.wherePart [rowLimit s.table s.conditions limit]
    | none => lead ++ Statement.wherePart s.conditions
  | _ =>
    lead ++ Statement.wherePart s.conditions ++ Statement.orderPart s.order ++
      Statement.limitPart s.limit

def batchUpdateText (_ : Dialect) (s : BatchUpdate) : String :=
  Statement.batchText s

/-- The conditions of a delete as one text. -/
def deleteConditions (s : DeleteStatement) : String :=
  Text.join " AND "
    ([s.conditions, s.likes].filterMap fun part =>
      if part.isEmpty then none else some (Text.join " " part))

def deleteText (d : Dialect) (s : DeleteStatement) : String :=
  let lead := "DELETE FROM " ++ s.table
  let conditions := deleteConditions s
  match d with
  | sqlite =>
    -- conditions that are blank throughout count as none here
    let found := if conditions = "" then [] else [conditions]
    match s.limit with
    | some limit => lead ++ Statement.wherePart [rowLimit s.table found limit]
    | none => lead ++ Statement.wherePart found
  | _ =>
    let found := if s.conditions.isEmpty ∧ s.likes.isEmpty then [] else [conditions]
    lead ++ Statement.wherePart found ++ Statement.limitPart s.limit

/-- Removes every row by a delete. -/
def emptyText (_ : Dialect) (table : String) : String :=
  "DELETE FROM " ++ table

/-- Removes every row by the quickest statement there is. -/
def truncateText (d : Dialect) (table : String) : String :=
  match d with
  | sqlite => "DELETE FROM " ++ table
  | _ => "TRUNCATE " ++ table

/-- The end of a SELECT that keeps a window of its rows. -/
def windowPart (d : Dialect) (limit : Nat) (offset : Option Nat) : String :=
  match offset with
  | none | some 0 => " LIMIT " ++ toString limit
  | some offset =>
    match d with
    | sqlite => " LIMIT " ++ toString limit ++ " OFFSET " ++ toString offset
    | _ => " LIMIT " ++ toString offset ++ ", " ++ toString limit

end Dialect

end SqlGateway
