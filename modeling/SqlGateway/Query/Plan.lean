import SqlGateway.Query.Compile

/-!
# Planning writes

A write of a builder is planned before anything is sent. A plan has the statements to send, in
order, of which the first one that is rejected is the last one sent; a refusal that follows them if
all are accepted; and the builder that is left in any case.

Main definitions:

* `Builder.insert`, `Builder.replace`, `Builder.update`, `Builder.delete`: single statements.
* `Builder.deleteTables`: one condition for several tables.
* `Builder.insertBatch`, `Builder.updateBatch`: queued rows, a hundred to a statement.
-/

namespace SqlGateway

structure Plan where
  statements : List String
  refusal : Option Refusal
  after : Builder

namespace Plan

/-- Nothing is sent, and the builder stays as it is. -/
def refused (r : Refusal) (b : Builder) : Plan :=
  ⟨[], some r, b⟩

def sending (statements : List String) (after : Builder) : Plan :=
  ⟨statements, none, after⟩

/-- Goes on with what was found, or refuses. -/
def orRefused {α : Type} (found : Except Refusal α) (b : Builder) (next : α → Plan) : Plan :=
  match found with
  | .ok x => next x
  | .error r => refused r b

end Plan

namespace Builder

/-! ## Parts of plans -/

/-- The table of a write: the one that the call names, or else the first live one. -/
def target (style : Style) (b : Builder) (table? : Option String) : Except Refusal String :=
  match Text.nonBlank? table? with
  | some table => .ok (b.table style (Text.trim table))
  | none =>
    match b.live.tables with
    | table :: _ => .ok table
    | [] => .error .noTable

/-- The assignments, of which a write needs some. -/
def needAssignments (b : Builder) : Except Refusal (List (String × String)) :=
  if b.live.assignments.isEmpty then .error .noAssignments else .ok b.live.assignments.entries

/-- The queued rows, of which a batch needs some. -/
def needBatch (b : Builder) : Except Refusal (List (List (String × String))) :=
  if b.batch.isEmpty then .error .noAssignments else .ok b.batch

def needIndex (b : Builder) : Except Refusal String :=
  match b.batchIndex with
  | some index => .ok index
  | none => .error .noIndex

/-- Adds the condition of a call, if it has one. -/
def whereArgument (b : Builder) (condition? : Option String) : Builder :=
  match Text.nonBlank? condition? with
  | some condition => b.whereRaw .and condition
  | none => b

def limitArgument (b : Builder) (limit? : Option Nat) : Builder :=
  { b with limit := limit? <|> b.limit }

/-! ## Inserts -/

/-- Inserts the assignments. The snapshot takes no part in it. -/
def insertBy (text : InsertStatement → String) (style : Style) (b : Builder)
    (table? : Option String) : Plan :=
  .orRefused b.needAssignments b fun assignments =>
  .orRefused (b.target style table?) b fun table =>
    let statement : InsertStatement :=
      ⟨table, assignments.map Prod.fst, [assignments.map Prod.snd]⟩
    .sending [text statement] b.afterWrite

def insert (style : Style) (b : Builder) (table? : Option String) : Plan :=
  b.insertBy style.dialect.insertText style table?

/-- Inserts a record along with the assignments. -/
def insertRecord (style : Style) (b : Builder) (table? : Option String) (record : Record) : Plan :=
  (b.setRecord style record).insert style table?

/-- Inserts the assignments in the place of rows with the same key. -/
def replace (style : Style) (b : Builder) (table? : Option String) : Plan :=
  b.insertBy style.dialect.replaceText style table?

/-! ## Updates and deletes -/

/-- Updates by the assignments the rows that meet the conditions. -/
def update (style : Style) (b : Builder) (table? condition? : Option String)
    (limit? : Option Nat) : Plan :=
  let b := b.merge
  .orRefused b.needAssignments b fun assignments =>
  .orRefused (b.target style table?) b fun table =>
    let b := (b.whereArgument condition?).limitArgument limit?
    let text := style.dialect.updateText {
      table
      assignments
      conditions := b.live.conditions
      order := b.live.orders
      limit := b.limit }
    .sending [text] b.afterWrite

/-- The delete of a table's rows that meet the conditions, of which there must be some. -/
def deleteStatement (style : Style) (b : Builder) (table : String) : Except Refusal String :=
  if b.live.wheres.isEmpty && b.live.likes.isEmpty then .error .noDeleteCondition
  else .ok (style.dialect.deleteText {
    table
    conditions := Fragment.render b.live.wheres
    likes := Fragment.render b.live.likes
    limit := b.limit })

/-- Deletes the rows that meet the conditions. -/
def delete (style : Style) (b : Builder) (table? condition? : Option String) : Plan :=
  let b := b.merge
  .orRefused (b.target style table?) b fun table =>
    let b := b.whereArgument condition?
    .orRefused (b.deleteStatement style table) b fun text => .sending [text] b.afterWrite

/-- The deletes of several tables up to the first one that is refused. -/
def deletesOf (style : Style) (b : Builder) : List String → List String × Option Refusal
  | [] => ([], none)
  | table :: tables =>
    match b.target style (some table) >>= b.deleteStatement style with
    | .error r => ([], some r)
    | .ok text =>
      let (texts, refusal?) := deletesOf style b tables
      (text :: texts, refusal?)

/-- Deletes from several tables the rows that meet the same conditions. -/
def deleteTables (style : Style) (b : Builder) (tables : List String) (condition? : Option String)
    (limit? : Option Nat) : Plan :=
  let b := (b.whereArgument condition?).limitArgument limit?
  -- without a table nothing is compiled, and the snapshot is not merged
  let b := if tables.isEmpty then b else b.merge
  let (texts, refusal?) := b.deletesOf style tables
  ⟨texts, refusal?, b.afterWrite⟩

/-- Removes every row of a table. -/
def removeAllBy (text : String → String) (style : Style) (b : Builder) (table? : Option String) :
    Plan :=
  .orRefused (b.target style table?) b fun table => .sending [text table] b.afterWrite

def emptyTable (style : Style) (b : Builder) (table? : Option String) : Plan :=
  b.removeAllBy style.dialect.emptyText style table?

def truncate (style : Style) (b : Builder) (table? : Option String) : Plan :=
  b.removeAllBy style.dialect.truncateText style table?

/-! ## Batches -/

/-- The number of rows in one statement of a batch. -/
def chunkSize : Nat :=
  100

/-- Cuts a list into stretches of `size`, the last of which may be shorter. -/
def chunksFrom {α : Type} (size : Nat) (chunk : List α) : List α → List (List α)
  | [] => if chunk.isEmpty then [] else [chunk.reverse]
  | x :: xs =>
    if size ≤ chunk.length + 1 then (x :: chunk).reverse :: chunksFrom size [] xs
    else chunksFrom size (x :: chunk) xs

def chunks {α : Type} (size : Nat) (xs : List α) : List (List α) :=
  chunksFrom size [] xs

/-- The stretches one after the other are the list again. -/
theorem flatten_chunksFrom {α : Type} (size : Nat) (chunk xs : List α) :
    (chunksFrom size chunk xs).flatten = chunk.reverse ++ xs := by
  induction xs generalizing chunk with
  | nil => cases chunk <;> simp [chunksFrom]
  | cons x xs ih =>
    rw [chunksFrom]
    split <;> simp [ih]

theorem flatten_chunks {α : Type} (size : Nat) (xs : List α) : (chunks size xs).flatten = xs :=
  flatten_chunksFrom size [] xs

/-- The insert of some rows, with the columns of the first row of the batch. -/
def batchInsert (table : String) (columns : List String) (rows : List (List (String × String))) :
    InsertStatement :=
  ⟨table, columns, rows.map fun row => row.map Prod.snd⟩

/-- Inserts the queued rows, those of the call last. -/
def insertBatch (style : Style) (b : Builder) (table? : Option String)
    (rows? : Option (List Record)) : Plan :=
  -- rows that were queued stay queued when a later part is refused
  .orRefused (b.queueInserts style (rows?.getD [])) b fun b =>
  .orRefused b.needBatch b fun batch =>
  .orRefused (b.target style table?) b fun table =>
    let columns := (batch.headD []).map Prod.fst
    let texts := (chunks chunkSize batch).map fun rows =>
      style.dialect.insertText (batchInsert table columns rows)
    .sending texts b.afterWrite

/-- Queues the rows of a call, if it has any, by its index column. -/
def updatesArgument (style : Style) (b : Builder) (rows? : Option (List Record))
    (index? : Option String) : Except Refusal Builder :=
  match rows? with
  | some rows => b.queueUpdates style rows (index?.getD "")
  | none => .ok b

/-- Updates by the queued rows, those of the call last, told apart by the index column. -/
def updateBatch (style : Style) (b : Builder) (table? : Option String)
    (rows? : Option (List Record)) (index? : Option String) : Plan :=
  -- a refusal leaves the merged clauses and the queued rows behind
  let b := b.merge
  .orRefused (b.updatesArgument style rows? index?) b fun b =>
  .orRefused b.needIndex b fun index =>
  .orRefused b.needBatch b fun batch =>
  .orRefused (b.target style table?) b fun table =>
    let texts := (chunks chunkSize batch).map fun rows =>
      style.dialect.batchUpdateText ⟨table, rows, index, Fragment.render b.live.wheres⟩
    .sending texts b.afterWrite

end Builder

end SqlGateway
