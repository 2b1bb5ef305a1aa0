import SqlGateway.DataTree
import SqlGateway.Result.Row

/-!
# Typed rows

Types that records are read as: a whole number, a text, or a record type such as `UserRow`.
-/

namespace SqlGateway

/-- A machine integer. A number with a fraction is none. -/
def Json.int64? : Json → Option Int64
  | .number n =>
    match Json.reading? n with
    | some (.whole n) => Value.int64? n
    | _ => none
  | _ => none

/-- A user: a number, a name and perhaps an age. -/
structure UserRow where
  id : Int64
  name : String
  age : Option Int64
  deriving DecidableEq, Repr

instance : RowType UserRow :=
  ⟨"UserRow"⟩

def UserRow.fieldNames : List String :=
  ["id", "name", "age"]

def UserRow.toJson (u : UserRow) : Json :=
  .object [("id", .ofInt u.id.toInt), ("name", .text u.name),
    ("age", (u.age.map fun n => .ofInt n.toInt).getD .null)]

/-- The age may be missing or null. -/
def UserRow.read? (tree : Json) : Option UserRow := do
  let fields ← DataTree.record? fieldNames tree
  return {
    id := ← (← fields.lookup "id").int64?
    name := ← DataTree.text? (← fields.lookup "name")
    age := ← DataTree.fieldOr fields "age" (DataTree.optional? Json.int64?) none }

end SqlGateway
