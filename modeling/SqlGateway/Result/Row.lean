import SqlGateway.OrderedMap
import SqlGateway.Value

/-!
# Rows

The rows of a result and what is known of its columns. A `Row` keeps the values as they came, with
the names of the columns beside them; a `Record` is the same row as a map, in which a repeated name
has its first place and its last value.
-/

namespace SqlGateway

/-- What a backend tells of a column. -/
structure Column where
  name : String
  /-- The declared type, if it is known. -/
  typeName : Option String
  maxLength : Option Nat
  primary : Bool
  deriving DecidableEq, Repr

/-- A column of which only the name is known. -/
def Column.named (name : String) : Column :=
  ⟨name, none, none, false⟩

abbrev Record := OrderedMap Value

structure Row where
  columns : List String
  values : List Value
  deriving DecidableEq, Repr

namespace Row

/-- The value at a place. -/
def value? (r : Row) (index : Nat) : Option Value :=
  r.values[index]?

/-- The value under the first column of that name. -/
def get? (r : Row) (column : String) : Option Value :=
  (r.columns.idxOf? column).bind r.value?

/-- The row as a map. Values beyond the last column are left out. -/
def toRecord (r : Row) : Record :=
  .ofList (r.columns.zip r.values)

end Row

/-- A type that rows are read as, known by a name that no other such type has. -/
class RowType (α : Type) where
  typeName : String

/-- The record as a JSON object. -/
def Record.toJson (r : Record) : Json :=
  .object (r.entries.map fun (key, value) => (key, value.toJson))

end SqlGateway
