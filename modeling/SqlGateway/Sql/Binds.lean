import SqlGateway.Sql.Literal

/-!
# Bind markers

A statement may hold question marks in the place of values. They are filled from left to right; the
text of a value is not looked at again, values without a marker are left out, and a marker without a
value stays.
-/

namespace SqlGateway.Statement

def fillMarkers : List (List Char) → List Char → List Char
  | _, [] => []
  | [], cs => cs
  | literal :: literals, c :: cs =>
    if c = '?' then literal ++ fillMarkers literals cs
    else c :: fillMarkers (literal :: literals) cs

/-- The statement with its markers filled by the literals of the values. -/
def fillBinds (d : Dialect) (sql : String) (values : List Value) : String :=
  String.ofList (fillMarkers (values.map fun v => (d.literal v).toList) sql.toList)

end SqlGateway.Statement
