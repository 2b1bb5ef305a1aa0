import SqlGateway.Session.Query
import SqlGateway.Sql.Statement

/-!
# The catalogue of a session

The names of tables and columns, which are read once and remembered, and operations on whole tables.
-/

namespace SqlGateway.Session

variable {C E : Type} [Connection C]

/-! ## Names -/

/-- An identifier with its prefix and quotes, no alias being known. -/
def protect (s : Session C) (item : String) (bareIsTable : Bool) : String :=
  s.rules.protect (if bareIsTable then .table else .column) item

/-- The first column of every row, as text. -/
def firstColumn (c : Cursor) : List String :=
  c.rows.1.filterMap fun row => (row.value? 0).map Value.plain

/-- A count in the first row, zero if there is none. -/
def countOf (c : Cursor) (column : String) : Nat :=
  match ((c.value? column).1.bind Value.asInt?) with
  | some n => n.toInt.toNat
  | none => 0

variable [Backend C E]

/-- The names of all tables, or of those with the table prefix. All names are remembered. -/
def tables (withPrefix : Bool) : Action (Session C) E (List String) := do
  let s : Session C ← Action.subject
  let lead? := if withPrefix && s.config.tablePrefix ≠ "" then some s.config.tablePrefix else none
  match lead?, s.catalogue.tables with
  | none, some names => return names
  | _, _ =>
    let sql ← need "list_tables" (s.dialect.listTables? lead?)
    let names := firstColumn (← read sql)
    -- a list that was cut down by the prefix is not kept
    if lead?.isNone then
      Action.modifySubject fun s : Session C =>
        { s with catalogue := { s.catalogue with tables := some names } }
    return names

def tableExists (table : String) : Action (Session C) E Bool := do
  let s : Session C ← Action.subject
  return (← tables false).contains (s.rules.tableName table)

/-- The names of a table's columns, which are remembered. -/
def columns (table : String) : Action (Session C) E (List String) := do
  let s : Session C ← Action.subject
  let table := s.rules.tableName table
  match s.catalogue.columns.get? table with
  | some names => return names
  | none =>
    let sql ← need "list_fields" (s.dialect.listColumns? table)
    let names := firstColumn (← read sql)
    Action.modifySubject fun s : Session C =>
      { s with catalogue := { s.catalogue with
          columns := s.catalogue.columns.insert table names } }
    return names

def columnExists (column table : String) : Action (Session C) E Bool :=
  return (← columns table).contains column

/-- What the backend tells of a table's columns, found by reading one row. -/
def columnData (table : String) : Action (Session C) E (List Column) := do
  if table = "" then refuse .noProbedTable
  let s : Session C ← Action.subject
  return (← read (s.dialect.probe (s.protect table true))).fields

/-- The primary key: the column that the backend marks, or else the first one. -/
def primaryKey (table : String) : Action (Session C) E (Option String) := do
  match (← columnData table).find? Column.primary with
  | some column => return some column.name
  | none => return (← columns table).head?

def forgetNames (s : Session C) : Session C :=
  { s with catalogue := .empty }

/-! ## Whole tables -/

/-- The version of the server. -/
def version : Action (Session C) E String := do
  let s : Session C ← Action.subject
  let c ← read (← need "version" s.dialect.version?)
  return ((c.value? "ver").1.map Value.plain).getD ""

/-- The number of rows of a table. -/
def countAll (table : String) : Action (Session C) E Nat := do
  if table = "" then return 0
  let s : Session C ← Action.subject
  let sql := s.dialect.count ++ s.protect "numrows" false ++ " FROM " ++ s.protect table true
  return countOf (← read sql) "numrows"

/-! ## Texts of statements -/

/-- The text of an insert. Nothing is sent. -/
def insertText (s : Session C) (table : String) (record : Record) : String :=
  s.dialect.insertText {
    table := s.protect table true
    columns := record.keys.map s.rules.quoteName
    rows := [record.values.map s.dialect.literal] }

/-- The text of an update of the rows that meet a condition. Nothing is sent. -/
def updateText (table : String) (record : Record) (condition : String) :
    Action (Session C) E String := do
  if Text.isBlank condition then refuse .noUpdateCondition
  let s : Session C ← Action.subject
  return s.dialect.updateText {
    table := s.protect table true
    assignments := record.entries.map fun (k, v) => (s.protect k false, s.dialect.literal v)
    conditions := [condition]
    order := []
    limit := none }

end SqlGateway.Session
