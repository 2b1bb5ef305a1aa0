import SqlGateway.Result.Cursor
import SqlGateway.Session.Group
import SqlGateway.Sql.Binds
import SqlGateway.Sql.Keyword
import SqlGateway.Sql.PrefixSwap

/-!
# Running statements

A statement takes these steps, in this order (`Session.query`):

1. a blank statement is refused;
2. the prefix is put in the place of its stand-in;
3. bind markers are filled;
4. while results are kept, a read may be answered from the store;
5. the connection is opened if need be, and the statement is noted and run;
6. a rejected statement marks the open transaction as failed, and in debug mode closes it;
7. a write may drop the kept results; a read has a cursor, and its rows may be kept.

`Session.runDirect` does without all of that but the opening.
-/

namespace SqlGateway

/-- What a statement produced. -/
inductive QueryOutcome where
  | written
  | rows (c : Cursor)
  deriving DecidableEq, Repr

/-- The cursor, empty after a write. -/
def QueryOutcome.cursor : QueryOutcome → Cursor
  | written => .empty
  | rows c => c

namespace Session

variable {C E α : Type}

/-! ## Kept results -/

/-- The store of results, made when it is first needed. A directory that cannot be used switches the
keeping of results off. -/
def needStore : Effect (Session C) E (Option ResultStore) := do
  let s : Session C ← Action.subject
  match s.store, s.config.cacheDir with
  | some store, _ => return some store
  | none, none =>
    Action.modifySubject fun s => { s with store := some .inMemory }
    return some .inMemory
  | none, some directory =>
    let store ← Action.onDisk (FileStore.create directory)
    if store.usable then
      Action.modifySubject fun s => { s with store := some (.files store) }
      return some (.files store)
    else
      Action.modifySubject fun s => { s with cacheOn := false }
      return none

/-- Works on the store, if there is one that can be used. -/
def onStore (default : α) (f : ResultStore → Disk → α × ResultStore × Disk) :
    Effect (Session C) E α := do
  match ← needStore with
  | none => return default
  | some store =>
    let (result, store) ← Action.onDisk fun disk =>
      let (result, store, disk) := f store disk
      ((result, store), disk)
    Action.modifySubject fun s => { s with store := some store }
    return result

/-- The kept result of a statement. -/
def kept? (sql : String) : Effect (Session C) E (Option Snapshot) :=
  onStore none fun store disk =>
    let (found, disk) := store.read sql disk
    (found, store, disk)

/-- Keeps the rows of a statement. -/
def keep (sql : String) (snapshot : Snapshot) : Effect (Session C) E Unit := do
  let _ ← onStore false fun store disk => store.write sql snapshot disk

/-- Forgets all kept results. -/
def forgetResults : Effect (Session C) E Bool :=
  onStore false fun store disk => store.clear disk

/-- Results are kept in another directory from now on. -/
def setCacheDir (s : Session C) (directory : String) : Session C :=
  { s with config := { s.config with cacheDir := some directory }, store := none }

/-! ## Statements -/

variable [Connection C]

/-- The error of a statement without text. -/
def blankStatement : DbError :=
  .query 0 "The query you submitted is not valid." ""

/-- The statement as it is sent: with the prefix in its place and the markers filled. -/
def finalText (s : Session C) (sql : String) (binds : List Value) : String :=
  Statement.fillBinds s.dialect
    (PrefixSwap.apply s.config.tablePrefix s.config.swapPrefix sql) binds

/-- The statement looks like a read, so its result may have been kept. -/
def mayBeKept (sql : String) : Bool :=
  Text.occursIn "SELECT" (Text.upper sql)

variable [Backend C E]

/-- Notes a statement before it is run. -/
def record (sql : String) : Action (Session C) E Unit :=
  Action.modifySubject fun s =>
    if s.config.saveQueries then { s with queries := s.queries ++ [sql] } else s

/-- What a rejected statement means for the session, and the error it shows. -/
def reject (sql : String) (e : DbError) : Effect (Session C) E DbError := do
  Action.modifySubject fun s : Session C => { s with transaction := s.transaction.markFailed }
  let s : Session C ← Action.subject
  if s.config.debug then unwind
  return s.upgrade (e.withStatement sql)

/-- Sends a statement. -/
def send (sql : String) : Action (Session C) E (Option Handle) := do
  let s : Session C ← Action.subject
  unless s.isConnected do connect
  -- the statement is noted before its outcome is known
  record sql
  let outcome ← (onConn (Backend.execute sql)).attempt
  Action.modifySubject fun s : Session C => { s with executed := s.executed + 1 }
  match outcome with
  | .ok handle? => return handle?
  | .error e => throw (← (reject sql e).act)

/-- What follows a statement that was accepted. -/
def settle (sql : String) (handle? : Option Handle) : Effect (Session C) E QueryOutcome := do
  let s : Session C ← Action.subject
  if Statement.isWrite sql then
    if s.cacheOn && s.config.cacheAutoDelete then
      let _ ← forgetResults
    return .written
  let cursor := match handle? with
    | some h => Cursor.ofHandle h
    | none => Cursor.empty
  -- keeping a result takes all of its rows from the backend
  if s.cacheOn then
    let (snapshot, cursor) := cursor.toSnapshot
    keep sql snapshot
    return .rows cursor
  return .rows cursor

/-- Runs a statement. -/
def query (sql : String) (binds : List Value) : Action (Session C) E QueryOutcome := do
  if Text.isBlank sql then raise blankStatement
  let s : Session C ← Action.subject
  let sql := s.finalText sql binds
  -- a kept result is told by the final text, and answers without opening the connection
  if s.cacheOn && mayBeKept sql then
    if let some snapshot ← (kept? sql).act then
      return .rows (.ofSnapshot snapshot)
  let handle? ← send sql
  (settle sql handle?).act

/-- Runs a read, or whatever else as if it were one. -/
def read (sql : String) : Action (Session C) E Cursor :=
  return (← query sql []).cursor

/-- Hands a statement to the backend as it is. -/
def runDirect (sql : String) : Action (Session C) E (Option Handle) := do
  let s : Session C ← Action.subject
  unless s.isConnected do connect
  call (Backend.execute sql)

/-! ## What has happened -/

def describe (s : Session C) : String :=
  "Driver \x7b platform: " ++ Text.quoted s.dialect.platform ++ ", connected: " ++
    toString s.isConnected ++ ", trans_depth: " ++ toString s.transaction.depth ++
    ", cache_on: " ++ toString s.cacheOn ++ ", query_count: " ++ toString s.executed ++ " \x7d"

end Session

end SqlGateway
