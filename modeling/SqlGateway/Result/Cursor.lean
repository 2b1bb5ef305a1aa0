import SqlGateway.Error
import SqlGateway.Result.Handle
import SqlGateway.Result.Snapshot
import SqlGateway.Text.Quoted

/-!
# Cursors

A cursor reads the result of one statement. Its rows are taken from the source when they are first
needed and are kept from then on, also after the source is released. They are kept in several forms,
each of which is made when it is first asked for: as rows, as maps, as rows of a caller's own types,
and the first one as a map for looking up its columns. The cursor has a current row, which only
`first`, `last`, `next` and `previous` move, and never past either end.

What can change state returns the answer with the cursor after it.
-/

namespace SqlGateway

/-- Where the rows come from. -/
inductive Source where
  | live (h : Handle)
  | detached (rows : List (List Value))
  | freed
  deriving DecidableEq, Repr

/-- Takes all rows from the source. -/
def Source.takeRows : Source → List (List Value) × Source
  | .live h =>
    -- a handle that cannot be moved back gives no rows at all
    let (found, h) := h.seek 0
    if found then
      let (rows, h) := h.drain
      (rows, .live h)
    else ([], .live h)
  | .detached rows => (rows, .detached rows)
  | .freed => ([], .freed)

structure Cursor where
  source : Source
  columns : List String
  /-- The number of rows that was told when the cursor was made. -/
  numRows : Nat
  /-- The rows by their values, once they have been taken from the source. -/
  taken : Option (List (List Value))
  /-- The rows as maps, once they have been asked for. -/
  mapped : Option (List Record)
  /-- For each type that all rows could be read as, the maps that they were read from. -/
  typed : OrderedMap (List Record)
  /-- The first row as a map, once a column of it has been asked for. -/
  lead : Option Record
  /-- The number of the current row. -/
  current : Nat
  deriving DecidableEq, Repr

namespace Cursor

/-- A cursor that has not taken anything from its source. -/
def ofSource (source : Source) (columns : List String) (numRows : Nat) : Cursor where
  source
  columns
  numRows
  taken := none
  mapped := none
  typed := .empty
  lead := none
  current := 0

def ofHandle (h : Handle) : Cursor :=
  ofSource (.live h) h.names h.numRows

def ofSnapshot (s : Snapshot) : Cursor :=
  ofSource (.detached s.rows) s.columns s.numRows

/-- The cursor of a statement without a result. -/
def empty : Cursor :=
  ofSource (.detached []) [] 0

/-- The cursor holds nothing of the backend. -/
def isDetached (c : Cursor) : Bool :=
  match c.source with
  | .live _ => false
  | _ => true

/-! ## Rows -/

/-- The values of all rows: those of the maps, if there are any, and else what the source has. -/
def takeValues (c : Cursor) : List (List Value) × Cursor :=
  match c.mapped with
  | some records => (records.map OrderedMap.values, c)
  | none =>
    let (rows, source) := c.source.takeRows
    (rows, { c with source })

/-- The rows as lists of values. -/
def valueRows (c : Cursor) : List (List Value) × Cursor :=
  match c.taken with
  | some rows => (rows, c)
  | none =>
    let (rows, c) := c.takeValues
    (rows, { c with taken := some rows })

/-- Rows are taken from the source once. -/
@[simp]
theorem valueRows_valueRows (c : Cursor) : c.valueRows.2.valueRows = c.valueRows := by
  cases h : c.taken <;> simp [valueRows, h]

@[simp]
theorem columns_takeValues (c : Cursor) : c.takeValues.2.columns = c.columns := by
  unfold takeValues
  split <;> rfl

@[simp]
theorem columns_valueRows (c : Cursor) : c.valueRows.2.columns = c.columns := by
  cases h : c.taken <;> simp [valueRows, h]

/-- The rows, all of which have the columns of the cursor. -/
def rows (c : Cursor) : List Row × Cursor :=
  let (rows, c) := c.valueRows
  (rows.map fun values => ⟨c.columns, values⟩, c)

def records (c : Cursor) : List Record × Cursor :=
  match c.mapped with
  | some records => (records, c)
  | none =>
    let (rows, c) := c.rows
    let records := rows.map Row.toRecord
    (records, { c with mapped := some records })

def row? (c : Cursor) (n : Nat) : Option Row × Cursor :=
  let (rows, c) := c.rows
  (rows[n]?, c)

def record? (c : Cursor) (n : Nat) : Option Record × Cursor :=
  let (records, c) := c.records
  (records[n]?, c)

/-- Keeps the first row as a map. Without rows there is nothing to keep. -/
def keepLead (c : Cursor) : Cursor :=
  match c.lead with
  | some _ => c
  | none =>
    let (lead, c) := c.record? 0
    { c with lead }

/-- A column of the first row. -/
def value? (c : Cursor) (column : String) : Option Value × Cursor :=
  let c := c.keepLead
  (c.lead.bind fun r => r.get? column, c)

/-! ## Rows of a caller's own type -/

/-- Reads a record as a value of the caller's type. -/
def decode {α : Type} (read : Json → Option α) (r : Record) : Except DbError α :=
  match read r.toJson with
  | some x => .ok x
  | none => .error (.serialization "the row does not have the fields of the type")

/-- All rows as values of the caller's type. They are kept if all of them can be read, by the maps
that they are read from. -/
def decodeAll {α : Type} [RowType α] (c : Cursor) (read : Json → Option α) :
    Except DbError (List α) × Cursor :=
  let name := RowType.typeName α
  match c.typed.get? name with
  | some records => (records.mapM (decode read), c)
  | none =>
    let (records, c) := c.records
    match records.mapM (decode read) with
    | .ok rows => (.ok rows, { c with typed := c.typed.insert name records })
    | .error e => (.error e, c)

/-- One row as a value of the caller's type. It is read anew each time. -/
def decodeRow {α : Type} (c : Cursor) (read : Json → Option α) (n : Nat) :
    Except DbError (Option α) × Cursor :=
  let (record?, c) := c.record? n
  match record? with
  | none => (.ok none, c)
  | some r => ((decode read r).map some, c)

/-! ## The current row -/

/-- Goes to the row that `place` computes from the current one and the number of rows. Without rows
nothing moves. -/
def move (c : Cursor) (place : Nat → Nat → Nat) : Option Row × Cursor :=
  let (rows, c) := c.rows
  if rows.isEmpty then (none, c)
  else
    let n := place c.current rows.length
    { c with current := n }.row? n

def first (c : Cursor) : Option Row × Cursor :=
  c.move fun _ _ => 0

def last (c : Cursor) : Option Row × Cursor :=
  c.move fun _ count => count - 1

/-- Goes on, unless the current row is the last. -/
def next (c : Cursor) : Option Row × Cursor :=
  c.move fun n count => if n + 1 < count then n + 1 else n

/-- Goes back, unless the current row is the first. -/
def previous (c : Cursor) : Option Row × Cursor :=
  c.move fun n _ => n - 1

/-! ## The source -/

/-- The columns, known only while the source is live. -/
def fields (c : Cursor) : List Column :=
  match c.source with
  | .live h => h.columns
  | _ => []

def fieldNames (c : Cursor) : List String :=
  match c.source with
  | .live h => h.names
  | _ => []

/-- Releases the source. Rows that were taken stay. -/
def free (c : Cursor) : Cursor :=
  { c with source := .freed }

def toSnapshot (c : Cursor) : Snapshot × Cursor :=
  let (rows, c) := c.valueRows
  (⟨c.columns, rows, rows.length⟩, c)

/-- A cursor on a snapshot of the rows. -/
def detach (c : Cursor) : Cursor :=
  ofSnapshot c.toSnapshot.1

def describe (c : Cursor) : String :=
  let source := match c.source with
    | .live _ => "live"
    | .detached _ => "detached"
    | .freed => "freed"
  "QueryResult \x7b source: " ++ Text.quoted source ++ ", columns: " ++
    Text.quotedList c.columns ++ ", num_rows: " ++ toString c.numRows ++ ", current_row: " ++
    toString c.current ++ " \x7d"

end Cursor

end SqlGateway
