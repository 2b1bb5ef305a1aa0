import SqlGateway.Result.Row

/-!
# Result handles

A handle on the rows that a backend has found. Rows are fetched one by one from a position that can
be moved.

Two kinds of handles exist. Buffered rows are held in memory with full columns. A minimal handle
knows no more of its columns than their names, claims a number of rows of its own, and may refuse
to be moved (its position moves all the same).
-/

namespace SqlGateway

/-- Rows held in memory. -/
structure BufferedRows where
  columns : List Column
  rows : List (List Value)
  position : Nat
  deriving DecidableEq, Repr

structure MinimalRows where
  names : List String
  rows : List (List Value)
  position : Nat
  claimed : Nat
  seekable : Bool
  deriving DecidableEq, Repr

inductive Handle where
  | buffered (b : BufferedRows)
  | minimal (m : MinimalRows)
  deriving DecidableEq, Repr

namespace BufferedRows

/-- A handle at the first row. -/
def ofRows (columns : List Column) (rows : List (List Value)) : BufferedRows :=
  ⟨columns, rows, 0⟩

def empty : BufferedRows :=
  ofRows [] []

/-- Moves to a row, or to the end; there is nothing past the end. -/
def seek (b : BufferedRows) (n : Nat) : Bool × BufferedRows :=
  if n ≤ b.rows.length then (true, { b with position := n }) else (false, b)

/-- The row at the position, which moves on. -/
def fetch (b : BufferedRows) : Option (List Value) × BufferedRows :=
  match b.rows[b.position]? with
  | some row => (some row, { b with position := b.position + 1 })
  | none => (none, b)

/-- Drops the rows; the columns stay known. -/
def free (b : BufferedRows) : BufferedRows :=
  { b with rows := [], position := 0 }

end BufferedRows

namespace Handle

def numRows : Handle → Nat
  | buffered b => b.rows.length
  | minimal m => m.claimed

def columns : Handle → List Column
  | buffered b => b.columns
  | minimal m => m.names.map Column.named

def names : Handle → List String
  | buffered b => b.columns.map Column.name
  | minimal m => m.names

/-- Whether the position could be moved. -/
def seek (h : Handle) (n : Nat) : Bool × Handle :=
  match h with
  | buffered b =>
    let (found, b) := b.seek n
    (found, buffered b)
  | minimal m => (m.seekable, minimal { m with position := n })

/-- Fetches every row from the position on. -/
def drain : Handle → List (List Value) × Handle
  | buffered b =>
    (b.rows.drop b.position, buffered { b with position := max b.position b.rows.length })
  | minimal m =>
    (m.rows.drop m.position, minimal { m with position := max m.position m.rows.length })

/-- To fetch every row is to fetch one row after the other, until none is left. -/
theorem drain_eq_fetch (b : BufferedRows) :
    (buffered b).drain = match b.fetch with
      | (some row, b) => (row :: (buffered b).drain.1, (buffered b).drain.2)
      | (none, b) => ([], buffered b) := by
  unfold BufferedRows.fetch
  by_cases h : b.position < b.rows.length
  · have hmax : max (b.position + 1) b.rows.length = max b.position b.rows.length := by omega
    simp only [drain, List.getElem?_eq_getElem h, hmax, List.drop_eq_getElem_cons h]
  · have hend : b.rows.length ≤ b.position := Nat.le_of_not_lt h
    simp [drain, hend]

end Handle

end SqlGateway
