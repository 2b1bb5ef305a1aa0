import SqlGateway.Proofs.Session.Operation
import SqlGateway.Proofs.Simulation

/-!
# Sessions that follow others

A session may be like another one in all but its connection and its debug flag. If what the two do
to their connections agrees, and the errors that they raise, then everything that they do agrees, up
to the failures that the flag tells apart. What this is good for is in the modules that say which
sessions follow which: those without the trace follow the traced ones, and those in debug mode
follow those that are not.

Main definitions:

* `Session.Shadow`: the session that follows, and what failures have to do with each other.
* `Session.Shadow.Faithful`: what has to agree.

Main result:

* `Session.Shadow.follows_perform`: each operation follows itself.
-/

namespace SqlGateway

/-- The error was upgraded. -/
def DbError.isUpgrade : DbError → Bool
  | fatal .. => true
  | _ => false

namespace Session

variable {C C' E α : Type}

/-- The session with another connection and another debug flag. -/
def recast (conn : C → C') (debug : Bool → Bool) (s : Session C) : Session C' where
  config := { s.config with debug := debug s.config.debug }
  conn := conn s.conn
  transaction := s.transaction
  cacheOn := s.cacheOn
  store := s.store
  queries := s.queries
  executed := s.executed
  catalogue := s.catalogue

/-- How sessions are followed by others that differ in the connection and the debug flag. -/
structure Shadow (C C' E : Type) where
  conn : C → C'
  debug : Bool → Bool
  /-- The flags of sessions that are followed. -/
  holds : Bool → Prop
  fails : DbError × Session C × World E → DbError × Session C' × World E → Prop

namespace Shadow

/-- The session that follows. -/
def cast (F : Shadow C C' E) (s : Session C) : Session C' :=
  recast F.conn F.debug s

/-- Following as a simulation. -/
def sim (F : Shadow C C' E) : Simulation (Session C) (Session C') E where
  view := F.cast
  holds s := F.holds s.config.debug
  fails := F.fails

variable [Connection C] [Connection C'] [Backend C E] [Backend C' E]

/-- The connections answer alike, the calls on them follow each other, and so do the errors of the
sessions themselves. -/
structure Faithful (F : Shadow C C' E) : Prop where
  dialect : ∀ c, Connection.dialect (F.conn c) = Connection.dialect c
  isConnected : ∀ c, Connection.isConnected (F.conn c) = Connection.isConnected c
  affectedRows : ∀ c, Connection.affectedRows (F.conn c) = Connection.affectedRows c
  raise : ∀ {α : Type} {e : DbError}, e.isUpgrade = false →
    F.sim.Follows (Session.raise e : Action (Session C) E α) (Session.raise e)
  /-- What a failed start leaves of the transaction does not matter. -/
  fails_transaction : ∀ {e s w e' s' w'} (f : Transaction → Transaction),
    F.fails (e, s, w) (e', s', w') →
      F.fails (e, { s with transaction := f s.transaction }, w)
        (e', { s' with transaction := f s'.transaction }, w')
  connect : ∀ config, F.sim.Follows
    (call (Backend.connect config) : Action (Session C) E Unit)
    (call (Backend.connect { config with debug := F.debug config.debug }))
  reconnect : F.sim.Follows (call Backend.reconnect : Action (Session C) E Unit)
    (call Backend.reconnect)
  selectDatabase : ∀ {error : DbError} name, error.isUpgrade = false → F.sim.Follows
    (callOr error (Backend.selectDatabase name) : Action (Session C) E Unit)
    (callOr error (Backend.selectDatabase name))
  setCharset : ∀ {error : DbError} charset collation, error.isUpgrade = false → F.sim.Follows
    (callOr error (Backend.setCharset charset collation) : Action (Session C) E Unit)
    (callOr error (Backend.setCharset charset collation))
  execute : ∀ sql, F.sim.Follows (call (Backend.execute sql) : Action (Session C) E _)
    (call (Backend.execute sql))
  startTransaction : F.sim.Follows (call Backend.startTransaction : Action (Session C) E Unit)
    (call Backend.startTransaction)
  commit : F.sim.Follows (call Backend.commit : Action (Session C) E Unit) (call Backend.commit)
  rollback : F.sim.Follows (call Backend.rollback : Action (Session C) E Unit)
    (call Backend.rollback)
  close : F.sim.Mirrors
    (Effect.part Session.conn (fun s conn => { s with conn }) Backend.close :
      Effect (Session C) E Unit)
    (Effect.part Session.conn (fun s conn => { s with conn }) Backend.close)

open Simulation

variable {F : Shadow C C' E}

/-! ## Kept results -/

omit [Connection C] [Connection C'] [Backend C E] [Backend C' E] in
theorem mirrors_needStore : F.sim.Mirrors (needStore : Effect (Session C) E _) needStore := by
  refine .subject_bind fun s => ?_
  have hstore : (F.sim.view s).store = s.store := rfl
  have hconfig : (F.sim.view s).config.cacheDir = s.config.cacheDir := rfl
  rw [hstore, hconfig]
  cases s.store with
  | some store => exact .pure
  | none =>
    cases s.config.cacheDir with
    | none => exact .bind (.modifySubject fun _ hs => ⟨hs, rfl⟩) fun _ => .pure
    | some directory =>
      exact .bind .onDisk fun store => .ite
        (.bind (.modifySubject fun _ hs => ⟨hs, rfl⟩) fun _ => .pure)
        (.bind (.modifySubject fun _ hs => ⟨hs, rfl⟩) fun _ => .pure)

omit [Connection C] [Connection C'] [Backend C E] [Backend C' E] in
theorem mirrors_onStore {default : α} {f : ResultStore → Disk → α × ResultStore × Disk} :
    F.sim.Mirrors (onStore default f : Effect (Session C) E α) (onStore default f) := by
  refine .bind mirrors_needStore fun store? => ?_
  cases store? with
  | none => exact .pure
  | some store =>
    exact .bind .onDisk fun _ => .bind (.modifySubject fun _ hs => ⟨hs, rfl⟩) fun _ => .pure

omit [Connection C] [Connection C'] [Backend C E] [Backend C' E] in
theorem mirrors_settle {sql : String} {handle? : Option Handle} :
    F.sim.Mirrors (settle sql handle? : Effect (Session C) E QueryOutcome)
      (settle sql handle?) := by
  refine .subject_bind fun s => .ite (.ite (.bind mirrors_onStore fun _ => .pure) .pure) ?_
  extract_lets cursor
  exact .ite (.bind (.bind mirrors_onStore fun _ => .pure) fun _ => .pure) .pure

omit [Connection C] [Connection C'] [Backend C E] [Backend C' E] in
theorem follows_record {sql : String} :
    F.sim.Follows (record sql : Action (Session C) E Unit) (record sql) := by
  refine .modifySubject fun s hs => ?_
  show F.holds (if s.config.saveQueries then _ else s : Session C).config.debug ∧
    F.cast (if s.config.saveQueries then _ else s) = if s.config.saveQueries then _ else _
  split <;> exact ⟨hs, rfl⟩

omit [Connection C] [Connection C'] [Backend C E] [Backend C' E] in
theorem follows_transactionStep {f : Transaction → Transaction} :
    F.sim.Follows (transactionStep f : Action (Session C) E Unit) (transactionStep f) :=
  .modifySubject fun _ hs => ⟨hs, rfl⟩

section

variable (h : F.Faithful)
include h

theorem dialect_cast (s : Session C) : (F.cast s).dialect = s.dialect :=
  h.dialect s.conn

theorem isConnected_cast (s : Session C) : (F.cast s).isConnected = s.isConnected :=
  h.isConnected s.conn

theorem rules_cast (s : Session C) : (F.cast s).rules = s.rules := by
  unfold rules
  rw [dialect_cast h]
  rfl

theorem finalText_cast (s : Session C) (sql : String) (binds : List Value) :
    (F.cast s).finalText sql binds = s.finalText sql binds := by
  unfold finalText
  rw [dialect_cast h]
  rfl

theorem protect_cast (s : Session C) (item : String) (bareIsTable : Bool) :
    (F.cast s).protect item bareIsTable = s.protect item bareIsTable := by
  unfold protect
  rw [rules_cast h]

theorem insertText_cast (s : Session C) (table : String) (record : Record) :
    (F.cast s).insertText table record = s.insertText table record := by
  unfold insertText
  rw [dialect_cast h, rules_cast h, protect_cast h]

/-! ## Life -/

theorem follows_connect : F.sim.Follows (connect : Action (Session C) E Unit) connect := by
  refine .subject_bind fun s => ?_
  have hopen : (F.sim.view s).isConnected = s.isConnected := isConnected_cast h s
  rw [hopen]
  refine .ite .pure (.bind (h.connect s.config) fun _ => ?_)
  exact .ite (.bind (h.selectDatabase _ rfl) fun _ => h.setCharset _ _ rfl) (h.setCharset _ _ rfl)

theorem follows_reconnect : F.sim.Follows (reconnect : Action (Session C) E Unit) reconnect := by
  refine .subject_bind fun s => ?_
  have hopen : (F.sim.view s).isConnected = s.isConnected := isConnected_cast h s
  rw [hopen]
  exact .ite h.reconnect (follows_connect h)

theorem mirrors_close : F.sim.Mirrors (close : Effect (Session C) E Unit) close := by
  refine .subject_bind fun s => ?_
  have hopen : (F.sim.view s).isConnected = s.isConnected := isConnected_cast h s
  rw [hopen]
  exact .ite h.close .pure

/-- An action over a connection that is opened for it. -/
theorem follows_unless_connect_bind {rest : Action (Session C) E α}
    {rest' : Action (Session C') E α} (hrest : F.sim.Follows rest rest') :
    F.sim.Follows
      (do
        let s : Session C ← Action.subject
        unless s.isConnected do connect
        rest)
      (do
        let s : Session C' ← Action.subject
        unless s.isConnected do connect
        rest') := by
  refine .subject_bind fun s => ?_
  have hopen : (F.sim.view s).isConnected = s.isConnected := isConnected_cast h s
  rw [hopen]
  exact .ite hrest (.bind (follows_connect h) fun _ => hrest)

/-! ## Transactions -/

theorem follows_startPhysical :
    F.sim.Follows (startPhysical : Action (Session C) E Unit) startPhysical :=
  follows_unless_connect_bind h h.startTransaction

theorem follows_startGroup {test : Bool} :
    F.sim.Follows (startGroup test : Action (Session C) E Unit) (startGroup test) := by
  refine .subject_bind fun s => .ite (.ite follows_transactionStep ?_) .pure
  refine .bind follows_transactionStep fun _ => ?_
  -- a level that could not be started is closed again before the failure goes on
  refine .attempt_bind (follows_startPhysical h) (fun _ => .pure) fun hfails => ?_
  exact ⟨_, _, _, _, rfl, rfl, h.fails_transaction (fun t => { t with depth := 0 }) hfails⟩

theorem follows_completeGroup :
    F.sim.Follows (completeGroup : Action (Session C) E _) completeGroup := by
  refine .subject_bind fun s => .ite .pure ?_
  have hleave : (F.sim.view s).transaction.leave = s.transaction.leave := rfl
  rw [hleave]
  obtain ⟨outcome, t⟩ := s.transaction.leave
  refine .bind follows_transactionStep fun _ => ?_
  cases outcome with
  | committed => exact .bind h.commit fun _ => .pure
  | rolledBack => exact .bind h.rollback fun _ => .pure
  | _ => exact .pure

theorem follows_beginManual {test : Bool} :
    F.sim.Follows (beginManual test : Action (Session C) E Unit) (beginManual test) :=
  .subject_bind fun _ => .ite
    (.bind follows_transactionStep fun _ => .bind (follows_startPhysical h) fun _ =>
      follows_transactionStep) .pure

theorem follows_commitManual :
    F.sim.Follows (commitManual : Action (Session C) E Unit) commitManual :=
  .subject_bind fun _ => .ite (.bind follows_transactionStep fun _ => h.commit) .pure

theorem follows_rollbackManual :
    F.sim.Follows (rollbackManual : Action (Session C) E Unit) rollbackManual :=
  .subject_bind fun _ => .ite (.bind follows_transactionStep fun _ => h.rollback) .pure

/-! ## Statements -/

theorem follows_runDirect {sql : String} :
    F.sim.Follows (runDirect sql : Action (Session C) E _) (runDirect sql) :=
  follows_unless_connect_bind h (h.execute sql)

theorem follows_updateText {table : String} {record : Record} {condition : String} :
    F.sim.Follows (updateText table record condition : Action (Session C) E String)
      (updateText table record condition) := by
  -- the refusal is followed by a text that is never reached
  refine .ite (.bind (h.raise rfl) fun _ => ?_) ?_
  all_goals
    refine .subject_bind fun s => ?_
    rw [show F.sim.view s = F.cast s from rfl, dialect_cast h]
    simp only [protect_cast h]
    exact .pure

theorem follows_need {feature : String} {text? : Option String} :
    F.sim.Follows (need feature text? : Action (Session C) E String) (need feature text?) := by
  cases text? with
  | none => exact h.raise rfl
  | some text => exact .pure

variable (hdispatch : ∀ sql, F.sim.Follows (dispatch sql : Action (Session C) E _) (dispatch sql))
include hdispatch

theorem follows_send {sql : String} :
    F.sim.Follows (send sql : Action (Session C) E _) (send sql) := by
  rw [send_eq, send_eq]
  exact follows_unless_connect_bind h (.bind follows_record fun _ => hdispatch sql)

theorem follows_resolve {sql : String} :
    F.sim.Follows (resolve sql : Action (Session C) E _) (resolve sql) := by
  have hask : F.sim.Follows (askBackend sql : Action (Session C) E _) (askBackend sql) :=
    .bind (follows_send h hdispatch) fun _ => .act mirrors_settle
  refine .subject_bind fun s => .ite ?_ hask
  refine .bind (.act mirrors_onStore) fun snapshot? => ?_
  cases snapshot? with
  | none => exact hask
  | some snapshot => exact .pure

theorem follows_query {sql : String} {binds : List Value} :
    F.sim.Follows (query sql binds : Action (Session C) E _) (query sql binds) := by
  rw [query_eq, query_eq]
  refine .subject_bind fun s => ?_
  have htext : (F.sim.view s).finalText sql binds = s.finalText sql binds := finalText_cast h s ..
  rw [htext]
  exact .ite (h.raise rfl) (follows_resolve h hdispatch)

theorem follows_read {sql : String} :
    F.sim.Follows (read sql : Action (Session C) E Cursor) (read sql) :=
  .bind (follows_query h hdispatch) fun _ => .pure

/-! ## The catalogue -/

theorem follows_tables {withPrefix : Bool} :
    F.sim.Follows (tables withPrefix : Action (Session C) E _) (tables withPrefix) := by
  refine .subject_bind fun s => ?_
  have hconfig : (F.sim.view s).config.tablePrefix = s.config.tablePrefix := rfl
  have hcatalogue : (F.sim.view s).catalogue = s.catalogue := rfl
  have hdialect : (F.sim.view s).dialect = s.dialect := dialect_cast h s
  rw [hconfig, hcatalogue, hdialect]
  dsimp only
  split
  · exact .pure
  · refine .bind (follows_need h) fun sql => .bind (follows_read h hdispatch) fun c => ?_
    exact .ite (.bind (.modifySubject fun _ hs => ⟨hs, rfl⟩) fun _ => .pure) .pure

theorem follows_tableExists {table : String} :
    F.sim.Follows (tableExists table : Action (Session C) E _) (tableExists table) := by
  refine .subject_bind fun s => ?_
  have hrules : (F.sim.view s).rules = s.rules := rules_cast h s
  rw [hrules]
  exact .bind (follows_tables h hdispatch) fun _ => .pure

theorem follows_columns {table : String} :
    F.sim.Follows (columns table : Action (Session C) E _) (columns table) := by
  refine .subject_bind fun s => ?_
  have hcatalogue : (F.sim.view s).catalogue = s.catalogue := rfl
  have hdialect : (F.sim.view s).dialect = s.dialect := dialect_cast h s
  have hrules : (F.sim.view s).rules = s.rules := rules_cast h s
  rw [hcatalogue, hdialect, hrules]
  dsimp only
  split
  · exact .pure
  · exact .bind (follows_need h) fun sql => .bind (follows_read h hdispatch) fun c =>
      .bind (.modifySubject fun _ hs => ⟨hs, rfl⟩) fun _ => .pure

theorem follows_columnData {table : String} :
    F.sim.Follows (columnData table : Action (Session C) E _) (columnData table) := by
  have hread : F.sim.Follows
      (do
        let s : Session C ← Action.subject
        return (← read (s.dialect.probe (s.protect table true))).fields :
          Action (Session C) E (List Column))
      (do
        let s : Session C' ← Action.subject
        return (← read (s.dialect.probe (s.protect table true))).fields) := by
    refine .subject_bind fun s => ?_
    have hdialect : (F.sim.view s).dialect = s.dialect := dialect_cast h s
    have hprotect : (F.sim.view s).protect table true = s.protect table true := protect_cast h ..
    rw [hdialect, hprotect]
    exact .bind (follows_read h hdispatch) fun _ => .pure
  exact .ite (.bind (h.raise rfl) fun _ => hread) hread

theorem follows_primaryKey {table : String} :
    F.sim.Follows (primaryKey table : Action (Session C) E _) (primaryKey table) := by
  refine .bind (follows_columnData h hdispatch) fun fields => ?_
  split
  · exact .pure
  · exact .bind (follows_columns h hdispatch) fun _ => .pure

theorem follows_version :
    F.sim.Follows (version : Action (Session C) E _) version := by
  refine .subject_bind fun s => ?_
  have hdialect : (F.sim.view s).dialect = s.dialect := dialect_cast h s
  rw [hdialect]
  exact .bind (follows_need h) fun _ => .bind (follows_read h hdispatch) fun _ => .pure

theorem follows_countAll {table : String} :
    F.sim.Follows (countAll table : Action (Session C) E _) (countAll table) := by
  refine .ite .pure (.subject_bind fun s => ?_)
  have hdialect : (F.sim.view s).dialect = s.dialect := dialect_cast h s
  have hprotect (item : String) (bare : Bool) :
      (F.sim.view s).protect item bare = s.protect item bare := protect_cast h ..
  rw [hdialect, hprotect, hprotect]
  exact .bind (follows_read h hdispatch) fun _ => .pure

/-! ## Operations -/

/-- Each operation follows itself. -/
theorem follows_perform (op : Operation) :
    F.sim.Follows (perform op : Action (Session C) E Answer) (perform op) := by
  have hchange {f : Session C → Session C} {f' : Session C' → Session C'}
      (hf : ∀ s, (f s).config.debug = s.config.debug ∧ F.cast (f s) = f' (F.cast s)) :
      F.sim.Follows (change f : Action (Session C) E Answer) (change f') := by
    refine .bind (.modifySubject fun s hs => ⟨?_, (hf s).2⟩) fun _ => .pure
    show F.holds (f s).config.debug
    rw [(hf s).1]
    exact hs
  cases op with
  | connect => exact .bind (follows_connect h) fun _ => .pure
  | reconnect => exact .bind (follows_reconnect h) fun _ => .pure
  | close => exact .bind (.act (mirrors_close h)) fun _ => .pure
  | query sql binds => exact .bind (follows_query h hdispatch) fun _ => .pure
  | runDirect sql => exact .bind (follows_runDirect h) fun _ => .pure
  | startGroup test => exact .bind (follows_startGroup h) fun _ => .pure
  | completeGroup => exact .bind (follows_completeGroup h) fun _ => .pure
  | beginManual test => exact .bind (follows_beginManual h) fun _ => .pure
  | commitManual => exact .bind (follows_commitManual h) fun _ => .pure
  | rollbackManual => exact .bind (follows_rollbackManual h) fun _ => .pure
  | forgetResults => exact .bind (.act mirrors_onStore) fun _ => .pure
  | tables withPrefix => exact .bind (follows_tables h hdispatch) fun _ => .pure
  | tableExists table => exact .bind (follows_tableExists h hdispatch) fun _ => .pure
  | columns table => exact .bind (follows_columns h hdispatch) fun _ => .pure
  | columnExists column table =>
    exact .bind (.bind (follows_columns h hdispatch) fun _ => .pure) fun _ => .pure
  | columnData table => exact .bind (follows_columnData h hdispatch) fun _ => .pure
  | primaryKey table => exact .bind (follows_primaryKey h hdispatch) fun _ => .pure
  | version => exact .bind (follows_version h hdispatch) fun _ => .pure
  | countAll table => exact .bind (follows_countAll h hdispatch) fun _ => .pure
  | disableTransactions | setStrict | setCaching => exact hchange fun _ => ⟨rfl, rfl⟩
  | setCacheDir | renewStore | setTablePrefix | forgetNames => exact hchange fun _ => ⟨rfl, rfl⟩

end

end Shadow

end Session

end SqlGateway
