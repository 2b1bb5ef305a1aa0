import SqlGateway.Query.Condition
import SqlGateway.Refusal
import SqlGateway.Result.Row
import SqlGateway.Sql.Alias

/-!
# Clause calls

The calls by which a caller adds clauses to a builder. Lists of names are given as one text with
commas; what a call writes into the clauses is protected and escaped at once, but for the select
list, which is protected when the statement is compiled.
-/

namespace SqlGateway.Builder

/-! ## Select -/

/-- Adds columns, with a choice of quoting or none. -/
def select (b : Builder) (columns : String) (quoting : Option Bool) : Builder :=
  (Text.listItems columns).foldl (fun b text => b.addSelect ⟨text, quoting⟩) b

/-- The last segment of a path. -/
def lastSegment (path : String) : String :=
  match Chars.afterLast? '.' path.toList with
  | some cs => String.ofList cs
  | none => path

/-- Adds an aggregate of a column, named after the column unless there is an alias. -/
def selectAggregate (style : Style) (b : Builder) (kind : Aggregate) (column : String)
    (alias? : Option String) : Except Refusal Builder :=
  let column := Text.trim column
  if column = "" then .error .noColumn
  else
    let name := ((Text.nonBlank? alias?).map Text.trim).getD (lastSegment column)
    let text := kind.word ++ "(" ++ b.column style column ++ ") AS " ++ name
    .ok (b.addSelect ⟨text, none⟩)

/-- Adds an aggregate that is chosen by name. -/
def selectAggregateNamed (style : Style) (b : Builder) (kind column : String)
    (alias? : Option String) : Except Refusal Builder :=
  match Aggregate.parse? kind with
  | some kind => b.selectAggregate style kind column alias?
  | none => .error (.unknownAggregate (Text.trim kind))

def setDistinct (b : Builder) (distinct : Bool) : Builder :=
  { b with distinct }

/-! ## Tables -/

/-- Keeps the alias that a table expression introduces. -/
def trackAlias (b : Builder) (table : String) : Builder :=
  match Identifier.alias? table with
  | some name => b.addAlias name
  | none => b

def fromTable (style : Style) (b : Builder) (table : String) : Builder :=
  let b := b.trackAlias table
  b.addTable (b.table style table)

/-- Adds tables. -/
def fromTables (style : Style) (b : Builder) (tables : String) : Builder :=
  (Text.listItems tables).foldl (fromTable style) b

/-- Adds a join. An unknown kind gives a plain one. -/
def join (style : Style) (b : Builder) (table condition kind : String) : Builder :=
  let b := b.trackAlias table
  let words := match JoinKind.parse? kind with
    | some kind => kind.words ++ " JOIN "
    | none => "JOIN "
  b.addJoin (words ++ b.table style table ++ " ON " ++ JoinCondition.render style b condition)

/-! ## Conditions -/

/-- Adds the condition that a column has a value. -/
def whereValue (style : Style) (b : Builder) (connector : Connector) (key : String)
    (value : Value) : Builder :=
  b.addWhere connector (b.condition style key value)

def whereAll (style : Style) (b : Builder) (pairs : List (String × Value)) : Builder :=
  pairs.foldl (fun b (key, value) => b.whereValue style .and key value) b

/-- Adds a condition as the caller has written it. -/
def whereRaw (b : Builder) (connector : Connector) (text : String) : Builder :=
  b.addWhere connector (Text.trim text)

/-- Adds a condition of membership, unless there is no column or no value. -/
def whereIn (style : Style) (b : Builder) (connector : Connector) (negated : Bool) (key : String)
    (values : List Value) : Builder :=
  if Text.isBlank key ∨ values.isEmpty then b
  else b.addWhere connector (b.membership style negated key values)

def havingValue (style : Style) (b : Builder) (connector : Connector) (key : String)
    (value : Value) : Builder :=
  b.addHaving connector (b.condition style key value)

def havingRaw (b : Builder) (text : String) : Builder :=
  b.addHaving .and (Text.trim text)

def like (style : Style) (b : Builder) (connector : Connector) (negated : Bool) (key text : String)
    (side : LikeSide) : Builder :=
  b.addLike connector (b.likeness style negated key text side)

/-! ## Order and extent -/

def groupBy (style : Style) (b : Builder) (columns : String) : Builder :=
  (Text.listItems columns).foldl (fun b column => b.addGroup (b.column style column)) b

/-- Adds columns to order by, an alias as it is; or a random order, whatever the columns. -/
def orderBy (style : Style) (b : Builder) (columns direction : String) : Builder :=
  let direction? := OrderDirection.parse? direction
  if direction? = some .random then b.addOrder style.dialect.random
  else
    let columns := (Text.listItems columns).map fun c =>
      if b.aliases.contains c then c else b.column style c
    -- all the columns of a call share its direction
    let text := Text.join ", " columns
    if text = "" then b
    else
      match direction? with
      | some direction => b.addOrder (text ++ " " ++ direction.word)
      | none => b.addOrder text

def setLimit (b : Builder) (n : Nat) : Builder :=
  { b with limit := some n }

def setOffset (b : Builder) (n : Nat) : Builder :=
  { b with offset := some n }

/-! ## Assignments -/

/-- Assigns an expression that is not escaped. The column is always quoted. -/
def setRaw (style : Style) (b : Builder) (key expression : String) : Builder :=
  b.addAssignment (b.protect style false (some true) true key) expression

def set (style : Style) (b : Builder) (key : String) (value : Value) : Builder :=
  b.setRaw style key (style.dialect.literal value)

def setRecord (style : Style) (b : Builder) (record : Record) : Builder :=
  record.entries.foldl (fun b (key, value) => b.set style key value) b

/-! ## Batches -/

/-- The row has exactly these columns, in any order. -/
def hasColumns (keys : List String) (row : Record) : Bool :=
  row.size = keys.length && keys.all row.contains

/-- A row of a batch insert, with its columns in the given order. -/
def insertRow (style : Style) (keys : List String) (row : Record) : List (String × String) :=
  keys.map fun key =>
    (style.rules.quoteName key, style.dialect.literal ((row.get? key).getD .null))

/-- Queues rows for a batch insert. All have the columns of the first, in its order. -/
def queueInserts (style : Style) (b : Builder) : List Record → Except Refusal Builder
  | [] => .ok b
  | first :: rest =>
    let rows := first :: rest
    if rows.all (hasColumns first.keys) then
      .ok { b with batch := b.batch ++ rows.map (insertRow style first.keys) }
    else .error .unevenRows

/-- A row of a batch update. -/
def updateRow (style : Style) (b : Builder) (row : Record) : List (String × String) :=
  row.entries.map fun (key, value) => (b.column style key, style.dialect.literal value)

/-- Queues rows for a batch update, told apart by the column `index`. -/
def queueUpdates (style : Style) (b : Builder) (rows : List Record) (index : String) :
    Except Refusal Builder :=
  if Text.isBlank index then .error .noIndex
  else if rows.all fun row => row.contains index then
    .ok { b with
      batch := b.batch ++ rows.map (b.updateRow style)
      batchIndex := some (b.column style index) }
  else .error .rowWithoutIndex

end SqlGateway.Builder
