import SqlGateway.DataTree
import SqlGateway.Error
import SqlGateway.Text.Blank

/-!
# Connection settings

The settings of one connection, with their defaults, and how they are read from a data tree.
-/

namespace SqlGateway

structure ConnectionConfig where
  /-- The kind of backend. -/
  kind : String
  hostname : String
  username : String
  password : String
  /-- The database; for an embedded one, the path of its file. -/
  database : String
  /-- What table names begin with. -/
  tablePrefix : String
  /-- What stands for `tablePrefix` in statements that callers write. -/
  swapPrefix : String
  portNumber : Option UInt16
  persistent : Bool
  /-- Errors are upgraded to fatal ones. -/
  debug : Bool
  /-- The results of reads are kept. -/
  cacheOn : Bool
  /-- The directory of kept results; they are kept in memory without one. -/
  cacheDir : Option String
  /-- Every write drops the kept results. -/
  cacheAutoDelete : Bool
  charset : String
  collation : String
  /-- The registry opens the connection as soon as it is built. -/
  autoOpen : Bool
  /-- Whether the connection has a query builder, if the settings say so. -/
  builder : Option Bool
  transactions : Bool
  /-- A failure outlasts the transaction that recorded it. -/
  strict : Bool
  saveQueries : Bool
  /-- Identifiers are quoted. -/
  quoting : Bool
  deriving DecidableEq, Repr, Inhabited

namespace ConnectionConfig

/-- The settings for a kind of backend that say nothing else. -/
def ofKind (kind : String) : ConnectionConfig where
  kind
  hostname := ""
  username := ""
  password := ""
  database := ""
  tablePrefix := ""
  swapPrefix := ""
  portNumber := none
  persistent := false
  debug := false
  cacheOn := false
  cacheDir := none
  cacheAutoDelete := false
  charset := "utf8"
  collation := "utf8_general_ci"
  autoOpen := true
  builder := none
  transactions := true
  strict := true
  saveQueries := true
  quoting := true

def builderEnabled (c : ConnectionConfig) : Bool :=
  c.builder.getD true

/-- Every connection needs a kind of backend. -/
def validate (c : ConnectionConfig) : Except DbError Unit :=
  if Text.isBlank c.kind then
    .error (.configuration "You have not selected a database type to connect to.")
  else .ok ()

/-! ## Reading -/

/-- The names of the fields, in their order. -/
def fieldNames : List String := [
  "dbdriver", "hostname", "username", "password", "database", "dbprefix", "swap_pre", "port",
  "pconnect", "db_debug", "cache_on", "cachedir", "cache_autodel", "char_set", "dbcollat",
  "autoinit", "active_record", "trans_enabled", "trans_strict", "save_queries",
  "protect_identifiers"]

/-- The settings as a tree from which they can be read again. -/
def toJson (c : ConnectionConfig) : Json :=
  let optional (tree? : Option Json) : Json := tree?.getD .null
  .object (fieldNames.zip [
    .text c.kind, .text c.hostname, .text c.username, .text c.password, .text c.database,
    .text c.tablePrefix, .text c.swapPrefix, optional (c.portNumber.map fun p => .ofNat p.toNat),
    .bool c.persistent, .bool c.debug, .bool c.cacheOn, optional (c.cacheDir.map .text),
    .bool c.cacheAutoDelete, .text c.charset, .text c.collation, .bool c.autoOpen,
    optional (c.builder.map .bool), .bool c.transactions, .bool c.strict, .bool c.saveQueries,
    .bool c.quoting])

section
variable {T : Type} [DataTree T]

def portNumber? (tree : T) : Option UInt16 :=
  (DataTree.natural? tree).bind fun n => if n < UInt16.size then some (UInt16.ofNat n) else none

/-- Settings read from a tree; what it does not mention has its default. -/
def read? (tree : T) : Option ConnectionConfig := do
  let fields ← DataTree.record? fieldNames tree
  let d := ofKind ""
  let text name default := DataTree.fieldOr fields name DataTree.text? default
  let flag name default := DataTree.fieldOr fields name DataTree.flag? default
  return {
    kind := ← text "dbdriver" d.kind
    hostname := ← text "hostname" d.hostname
    username := ← text "username" d.username
    password := ← text "password" d.password
    database := ← text "database" d.database
    tablePrefix := ← text "dbprefix" d.tablePrefix
    swapPrefix := ← text "swap_pre" d.swapPrefix
    portNumber :=
      ← DataTree.fieldOr fields "port" (DataTree.optional? portNumber?) d.portNumber
    persistent := ← flag "pconnect" d.persistent
    debug := ← flag "db_debug" d.debug
    cacheOn := ← flag "cache_on" d.cacheOn
    cacheDir := ← DataTree.fieldOr fields "cachedir" (DataTree.optional? DataTree.text?) d.cacheDir
    cacheAutoDelete := ← flag "cache_autodel" d.cacheAutoDelete
    charset := ← text "char_set" d.charset
    collation := ← text "dbcollat" d.collation
    autoOpen := ← flag "autoinit" d.autoOpen
    builder :=
      ← DataTree.fieldOr fields "active_record" (DataTree.optional? DataTree.flag?) d.builder
    transactions := ← flag "trans_enabled" d.transactions
    strict := ← flag "trans_strict" d.strict
    saveQueries := ← flag "save_queries" d.saveQueries
    quoting := ← flag "protect_identifiers" d.quoting }

end

end ConnectionConfig

end SqlGateway
