import SqlGateway.Error

/-!
# SQLite errors

What the SQLite engine and its client report, and the errors that a session sees for it.
-/

namespace SqlGateway

inductive SqliteError where
  /-- The engine failed with an extended result code. -/
  | failure (code : Int) (message : String)
  /-- The path is no text that the engine can take. -/
  | badPath (detail : String)
  /-- A column holds another type than the one asked for, or a value outside of it. -/
  | badColumn (detail : String)
  /-- The client refused the statement, or found no row. -/
  | other (detail : String)
  deriving DecidableEq, Repr

namespace SqliteError

/-- The result codes of a file that cannot be opened, is no database or may not be read. -/
def connectionCodes : List Int :=
  [14, 26, 3]

/-- The last eight bits of an extended code are the primary one. -/
def toError : SqliteError → DbError
  | failure code message =>
    if connectionCodes.contains (code % 256) then .connection message else .query code message ""
  | badPath detail => .connection detail
  | badColumn detail => .serialization detail
  | other detail => .query 0 detail ""

/-- The number and the words that stay with the connection. -/
def report : SqliteError → Int × String
  | failure code message => (code, message)
  | badPath detail | badColumn detail | other detail => (0, detail)

end SqliteError

end SqlGateway
