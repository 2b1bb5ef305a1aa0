/-!
# Errors

Everything that can go wrong on a connection, one constructor per cause, and the text that is shown
for it. A connection in debug mode upgrades its errors: `DbError.intoFatal` wraps an error into a
fatal one that shows a longer text and keeps the error as its source.
-/

namespace SqlGateway

inductive DbError where
  /-- Missing or invalid connection settings, or an unknown kind of backend. -/
  | configuration (detail : String)
  /-- The connection, its database or its character set could not be had. -/
  | connection (detail : String)
  /-- The backend rejected a statement; the code is 0 when it reports none. -/
  | query (code : Int) (detail : String) (sql : String)
  /-- The dialect has no such feature. -/
  | unsupported (detail : String)
  /-- The caller asked for something that is refused. -/
  | usage (detail : String)
  | cache (detail : String)
  | serialization (detail : String)
  | io (detail : String)
  /-- An error that must abort the caller. -/
  | fatal (detail : String) (source : DbError)
  deriving DecidableEq, Repr, Inhabited

namespace DbError

def message : DbError → String
  | configuration detail => "Configuration error: " ++ detail
  | connection detail => "Connection error: " ++ detail
  | query code detail _ => "Query error " ++ toString code ++ ": " ++ detail
  | unsupported detail => "Unsupported operation: " ++ detail
  | usage detail => "Usage error: " ++ detail
  | cache detail => "Cache error: " ++ detail
  | serialization detail => "Serialization error: " ++ detail
  | io detail => "I/O error: " ++ detail
  | fatal detail _ => detail

/-- The error must abort the caller. -/
def isFatal : DbError → Bool
  | configuration _ => true
  | fatal .. => true
  | _ => false

/-- The error behind all upgrades. -/
def root : DbError → DbError
  | fatal _ source => source.root
  | e => e

def isUsage (e : DbError) : Bool :=
  match e.root with
  | usage _ => true
  | _ => false

def isQuery (e : DbError) : Bool :=
  match e.root with
  | query .. => true
  | _ => false

/-- The text of an upgraded error: for a rejected statement its number, the backend's words and the
statement on lines of their own. -/
def fatalText : DbError → String
  | query code detail sql =>
    "A Database Error Occurred\nError Number: " ++ toString code ++ "\n" ++ detail ++ "\n" ++ sql
  | e => "A Database Error Occurred\n" ++ e.message

/-- The error as a fatal one. Errors that are fatal already stay as they are. -/
def intoFatal (e : DbError) : DbError :=
  if e.isFatal then e else fatal e.fatalText e

theorem isFatal_intoFatal (e : DbError) : e.intoFatal.isFatal = true := by
  rw [intoFatal]
  split
  · assumption
  · rfl

theorem intoFatal_of_isFatal {e : DbError} (h : e.isFatal = true) : e.intoFatal = e := by
  rw [intoFatal, if_pos h]

@[simp]
theorem root_intoFatal (e : DbError) : e.intoFatal.root = e.root := by
  rw [intoFatal]
  split <;> rfl

/-- The error of a rejected statement, with the statement attached. -/
def withStatement (sql : String) : DbError → DbError
  | query code detail _ => query code detail sql
  | e => e

end DbError

end SqlGateway
