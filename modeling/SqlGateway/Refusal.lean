import SqlGateway.Error

/-!
# Refusals

What a session or its query builder will not do, one constructor per reason. A refusal is an error
of use; nothing has been sent to the backend for it.
-/

namespace SqlGateway

inductive Refusal where
  | noBuilder
  /-- An aggregate over no column. -/
  | noColumn
  | unknownAggregate (name : String)
  | noTable
  | noAssignments
  /-- A delete that would empty its table. -/
  | noDeleteCondition
  | noUpdateCondition
  /-- Rows for one insert that have not the same columns. -/
  | unevenRows
  /-- A batch update without the column that tells its rows apart. -/
  | noIndex
  /-- A row of a batch update that lacks that column. -/
  | rowWithoutIndex
  | noProbedTable
  deriving DecidableEq, Repr

namespace Refusal

def message : Refusal → String
  | noBuilder => "The query builder is not enabled for this connection."
  | noColumn => "The query you submitted is not valid."
  | unknownAggregate name => "Invalid aggregate function: " ++ name
  | noTable => "You must set the database table to be used with your query."
  | noAssignments => "You must use the \"set\" method to update an entry."
  | noDeleteCondition =>
    "Deletes are not allowed unless they contain a \"where\" or \"like\" clause."
  | noUpdateCondition => "The update_string function requires a WHERE clause."
  | unevenRows =>
    "One or more rows submitted for batch inserting do not share the same columns."
  | noIndex => "You must specify an index to match on for batch updates."
  | rowWithoutIndex =>
    "One or more rows submitted for batch updating is missing the specified index."
  | noProbedTable => "The field_data function requires a table name."

def error (r : Refusal) : DbError :=
  .usage r.message

end Refusal

end SqlGateway
