import SqlGateway.Backend.Basic
import SqlGateway.Backend.SqliteLocation

/-!
# SQLite files

Connections to a database file, or to a database in memory. `SqliteFile` opens and closes databases
and keeps track of their transactions; it runs no other statements.
-/

namespace SqlGateway

structure SqliteFile where
  opened : Bool
  inTransaction : Bool
  lastError : Option (Int × String)
  deriving DecidableEq, Repr

namespace SqliteFile

variable {E : Type}

/-- A connection that is not open yet. -/
def closed : SqliteFile :=
  ⟨false, false, none⟩

def fail {α : Type} (e : SqliteError) (error : DbError) : Action SqliteFile E α := do
  Action.modifySubject fun c => { c with lastError := some e.report }
  throw error

/-- Opens the database that the configuration names; without a name it lies in memory. -/
def connect (config : ConnectionConfig) : Action SqliteFile E Unit := do
  let name := if config.database = "" then ":memory:" else config.database
  let failure? ← Action.onDisk fun disk =>
    match (SqliteLocation.ofName name).bind (·.prepare disk) with
    | .ok disk => (none, disk)
    | .error e => (some e, disk)
  match failure? with
  | none => Action.modifySubject fun c => { c with opened := true, inTransaction := false }
  | some e =>
    fail e (.connection ("Unable to open SQLite database '" ++ name ++ "': " ++ e.report.2))

/-- Fails unless the connection is open. -/
def needOpen : Action SqliteFile E SqliteFile := do
  let c ← Action.subject
  if c.opened then return c else throw (.connection "SQLite connection is not open")

def reject (message : String) : Action SqliteFile E Unit :=
  let e := SqliteError.failure 1 message
  fail e e.toError

def startTransaction : Action SqliteFile E Unit := do
  if (← needOpen).inTransaction then
    reject "cannot start a transaction within a transaction"
  else
    Action.modifySubject fun c => { c with inTransaction := true }

/-- Ends the transaction by a commit or a rollback. -/
def endTransaction (verb : String) : Action SqliteFile E Unit := do
  if (← needOpen).inTransaction then
    Action.modifySubject fun c => { c with inTransaction := false }
  else
    reject ("cannot " ++ verb ++ " - no transaction is active")

def execute (_ : String) : Action SqliteFile E (Option Handle) := do
  let _ ← needOpen
  throw (.unsupported "statements other than those of transactions")

instance : Connection SqliteFile where
  dialect _ := .sqlite
  isConnected := SqliteFile.opened
  insertId _ := 0
  affectedRows _ := 0
  lastError := SqliteFile.lastError

instance : Backend SqliteFile E where
  connect := SqliteFile.connect
  reconnect := pure ()
  selectDatabase _ := pure ()
  setCharset _ _ := pure ()
  execute := SqliteFile.execute
  startTransaction := SqliteFile.startTransaction
  commit := SqliteFile.endTransaction "commit"
  rollback := SqliteFile.endTransaction "rollback"
  close := Action.modifySubject fun c => { c with opened := false, inTransaction := false }

end SqliteFile

end SqlGateway
