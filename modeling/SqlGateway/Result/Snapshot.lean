import SqlGateway.DataTree
import SqlGateway.Json.Reader
import SqlGateway.Result.Row

/-!
# Snapshots

A result taken out of its connection: columns, rows, and the number of rows it had. A snapshot is
kept as JSON text, in which values carry no tag.
-/

namespace SqlGateway

structure Snapshot where
  columns : List String
  rows : List (List Value)
  numRows : Nat
  deriving DecidableEq, Repr

namespace Snapshot

def fieldNames : List String :=
  ["columns", "rows", "num_rows"]

def toJson (s : Snapshot) : Json :=
  .object [
    ("columns", .array (s.columns.map .text)),
    ("rows", .array (s.rows.map fun row => .array (row.map Value.toJson))),
    ("num_rows", .ofNat s.numRows)]

def encode (s : Snapshot) : String :=
  s.toJson.compact

/-- The items of an array, each read alike. -/
def items? {α : Type} (read : Json → Option α) : Json → Option (List α)
  | .array items => items.mapM read
  | _ => none

/-- All three fields are needed. -/
def ofJson? (tree : Json) : Option Snapshot := do
  let fields ← DataTree.record? fieldNames tree
  return {
    columns := ← items? DataTree.text? (← fields.lookup "columns")
    rows := ← items? (items? Value.ofJson?) (← fields.lookup "rows")
    numRows := ← DataTree.natural? (← fields.lookup "num_rows") }

def decode? (text : String) : Option Snapshot :=
  (Json.parse? text.toList).bind ofJson?

end Snapshot

end SqlGateway
