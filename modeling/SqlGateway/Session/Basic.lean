import SqlGateway.Backend.Basic
import SqlGateway.Refusal
import SqlGateway.Result.Store
import SqlGateway.Session.Transaction
import SqlGateway.Sql.Identifier

/-!
# Sessions

A session is a connection with its settings and with what has happened on it. This module has its
state and its life: opening, keeping alive and closing.

A session that is in debug mode upgrades its errors (`Session.raise`). Every operation upgrades each
of its errors once.
-/

namespace SqlGateway

/-- Names read from the catalogue. -/
structure Catalogue where
  tables : Option (List String)
  /-- The columns of each table, by the name that the table has in the database. -/
  columns : OrderedMap (List String)
  deriving DecidableEq

def Catalogue.empty : Catalogue :=
  ⟨none, .empty⟩

structure Session (C : Type) where
  config : ConnectionConfig
  conn : C
  transaction : Transaction
  /-- The results of reads are kept from now on. -/
  cacheOn : Bool
  /-- Where results are kept, once that is needed. -/
  store : Option ResultStore
  /-- The statements that were run, if the settings want them. -/
  queries : List String
  /-- The number of statements that were run. -/
  executed : Nat
  catalogue : Catalogue

namespace Session

variable {C E α : Type}

/-- A session over a connection that is not open yet. -/
def create (config : ConnectionConfig) (conn : C) : Session C where
  config
  conn
  transaction := .initial config.transactions config.strict
  cacheOn := config.cacheOn
  store := none
  queries := []
  executed := 0
  catalogue := .empty

section
variable [Connection C]

def dialect (s : Session C) : Dialect :=
  Connection.dialect s.conn

def isConnected (s : Session C) : Bool :=
  Connection.isConnected s.conn

/-- How identifiers are prefixed and quoted. -/
def rules (s : Session C) : Identifier.Rules where
  tablePrefix := s.config.tablePrefix
  swapPrefix := s.config.swapPrefix
  quote := s.dialect.quote
  quoting := s.config.quoting

end

/-- Changes the table prefix for later statements. -/
def setTablePrefix (s : Session C) (tablePrefix : String) : Session C :=
  { s with config := { s.config with tablePrefix } }

/-! ## Errors -/

/-- An error as the session shows it. -/
def upgrade (s : Session C) (e : DbError) : DbError :=
  if s.config.debug then e.intoFatal else e

/-- Fails with an error as the session shows it. -/
def raise (e : DbError) : Action (Session C) E α := do
  throw ((← Action.subject).upgrade e)

def refuse (r : Refusal) : Action (Session C) E α :=
  raise r.error

/-- The error of a feature that the dialect does not have. -/
def unsupported (feature : String) : DbError :=
  .unsupported ("This feature is not available for the database you are using: " ++ feature)

/-- A feature of the dialect, by name. -/
def need (feature : String) (text? : Option String) : Action (Session C) E String :=
  match text? with
  | some text => pure text
  | none => raise (unsupported feature)

/-! ## Work on the connection -/

/-- An action on the connection, with its errors as they are. -/
def onConn (a : Action C E α) : Action (Session C) E α :=
  .part Session.conn (fun s conn => { s with conn }) a

/-- An action on the connection, with its errors as the session shows them. -/
def call (a : Action C E α) : Action (Session C) E α := do
  let s : Session C ← Action.subject
  Action.mapError s.upgrade (onConn a)

/-- An action on the connection that fails with an error of the session's own. -/
def callOr (error : DbError) (a : Action C E α) : Action (Session C) E α := do
  let s : Session C ← Action.subject
  Action.mapError (fun _ => s.upgrade error) (onConn a)

/-! ## Life -/

variable [Connection C] [Backend C E]

/-- Opens the connection, selects the database and sets the character set. An open connection stays
as it is. -/
def connect : Action (Session C) E Unit := do
  let s : Session C ← Action.subject
  if s.isConnected then return
  let config := s.config
  call (Backend.connect config)
  if config.database ≠ "" then
    callOr (.connection ("Unable to select the specified database: " ++ config.database))
      (Backend.selectDatabase config.database)
  callOr (.connection ("Unable to set client connection character set: " ++ config.charset))
    (Backend.setCharset config.charset config.collation)

/-- Keeps an open connection alive, or opens a closed one. -/
def reconnect : Action (Session C) E Unit := do
  let s : Session C ← Action.subject
  if s.isConnected then call Backend.reconnect else connect

/-- Closes the connection if it is open. -/
def close : Effect (Session C) E Unit := do
  let s : Session C ← Action.subject
  if s.isConnected then
    Effect.part Session.conn (fun s conn => { s with conn }) Backend.close

end Session

end SqlGateway
