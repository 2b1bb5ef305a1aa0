import SqlGateway.Backend.Basic

/-!
# Scripted backends

A backend that answers statements from a script. The script says which calls are refused, which
statements fail and which have a result; all connections that share it write into one log.
-/

namespace SqlGateway

/-- The kinds of error that a scripted failure may have. -/
inductive FailureKind where
  | query
  | connection
  | io
  | configuration
  deriving DecidableEq, Repr

/-- Statements that contain `pattern` fail. -/
structure Failure where
  pattern : String
  code : Int
  message : String
  kind : FailureKind
  deriving DecidableEq, Repr

/-- Statements that contain `pattern` are answered. -/
structure Reply where
  pattern : String
  affected : Nat
  result : Option Handle
  deriving DecidableEq, Repr

def Failure.error (f : Failure) : DbError :=
  match f.kind with
  | .query => .query f.code f.message ""
  | .connection => .connection f.message
  | .io => .io f.message
  | .configuration => .configuration f.message

structure Script where
  /-- The calls that are refused, by name. -/
  refused : List String
  failures : List Failure
  replies : List Reply
  log : List String
  deriving DecidableEq, Repr, Inhabited

/-- A connection that follows a script. -/
structure Scripted where
  dialect : Dialect
  connected : Bool
  /-- The number of statements that were run. -/
  executions : Nat
  affected : Nat
  lastError : Option (Int × String)
  deriving DecidableEq, Repr

namespace Scripted

/-- A connection that is not open yet. -/
def ofDialect (d : Dialect) : Scripted :=
  ⟨d, false, 0, 0, none⟩

def note (entry : String) : Action Scripted Script Unit :=
  Action.modifyServers fun s => { s with log := s.log ++ [entry] }

/-- Fails if the script refuses the call. -/
def allow (call : String) : Action Scripted Script Unit := do
  if (← Action.servers).refused.contains call then
    throw (.connection (call ++ " refused"))

def connect (config : ConnectionConfig) : Action Scripted Script Unit := do
  let c ← Action.subject
  note (if config.persistent && c.dialect = .mysql then "pconnect" else "connect")
  allow "connect"
  Action.modifySubject fun c => { c with connected := true }

/-- Only the `mysql` dialect has anything to do. -/
def reconnect : Action Scripted Script Unit := do
  if (← Action.subject).dialect = .mysql then
    note "reconnect"
    allow "reconnect"

def selectDatabase (name : String) : Action Scripted Script Unit := do
  note ("select_db " ++ name)
  allow "select_db"

def setCharset (charset collation : String) : Action Scripted Script Unit := do
  note ("charset " ++ charset ++ " " ++ collation)
  allow "charset"

/-- The statement reads rows. -/
def isSelect (sql : String) : Bool :=
  let start := (sql.toList.dropWhile Chars.isBlank).take 6
  Text.upper (String.ofList start) = "SELECT"

/-- The answer to a statement that the script says nothing of. -/
def defaultReply (sql : String) : Reply :=
  if isSelect sql then ⟨"", 0, some (.buffered .empty)⟩ else ⟨"", 1, none⟩

def execute (sql : String) : Action Scripted Script (Option Handle) := do
  note ("execute " ++ sql)
  Action.modifySubject fun c => { c with executions := c.executions + 1 }
  let script ← Action.servers
  -- a failure wins over a reply
  match script.failures.find? fun f => Text.occursIn f.pattern sql with
  | some failure =>
    Action.modifySubject fun c => { c with lastError := some (failure.code, failure.message) }
    throw failure.error
  | none =>
    let found := script.replies.find? fun r => Text.occursIn r.pattern sql
    let reply := found.getD (defaultReply sql)
    Action.modifySubject fun c => { c with lastError := none, affected := reply.affected }
    return reply.result

/-- Runs a statement for its effect. -/
def run (sql : String) : Action Scripted Script Unit := do
  let _ ← execute sql

def close : Effect Scripted Script Unit := do
  Action.modifyServers fun s => { s with log := s.log ++ ["close"] }
  Action.modifySubject fun c => { c with connected := false }

instance : Connection Scripted where
  dialect := Scripted.dialect
  isConnected := Scripted.connected
  insertId := Scripted.executions
  affectedRows := Scripted.affected
  lastError := Scripted.lastError

instance : Backend Scripted Script where
  connect := Scripted.connect
  reconnect := Scripted.reconnect
  selectDatabase := Scripted.selectDatabase
  setCharset := Scripted.setCharset
  execute := Scripted.execute
  startTransaction := Scripted.run "START TRANSACTION"
  commit := Scripted.run "COMMIT"
  rollback := Scripted.run "ROLLBACK"
  close := Scripted.close

end Scripted

end SqlGateway
