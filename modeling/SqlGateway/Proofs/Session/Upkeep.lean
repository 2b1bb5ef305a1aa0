import SqlGateway.Proofs.Backend.Traced
import SqlGateway.Session.Catalogue

/-!
# What sessions leave alone

Most of what a session does on the way to a statement changes neither its settings nor its
transaction: it opens the connection, notes statements, and looks after kept results and names. Such
work is governed by any law that these two parts and the connection decide, so a law about
transactions or about the calls on the backend has to be checked at a few places only.

Main definitions:

* `Session.upkeep`: settings and transaction stay, and the connection obeys a law of its own.
* `Upkept`: a law of connections that opening and closing obey.
* `Session.dispatch`: the part of a query that runs the statement.
* `Session.Obeyed`: a law that the life of the connection and the sending of statements obey.
* `Session.Queried`: a contract that queries meet.

Main results:

* `Session.Obeyed.of_upkeep`: it is enough that all upkeep obeys it, and the running of statements.
* `Session.rel_query`: a query obeys a law if the sending of its final text does.
* `Session.meets_tables` and what follows it: operations on the catalogue meet what queries meet.
-/

namespace SqlGateway

/-- Opening, reviving and closing a connection obey the law. -/
structure Upkept {C : Type} (E : Type) [Connection C] [Backend C E] (M : Law C) : Prop where
  connect : ∀ config, M.Governs (Backend.connect config : Action C E Unit).run
  reconnect : M.Governs (Backend.reconnect : Action C E Unit).run
  selectDatabase : ∀ name, M.Governs (Backend.selectDatabase name : Action C E Unit).run
  setCharset : ∀ charset collation,
    M.Governs (Backend.setCharset charset collation : Action C E Unit).run
  close : M.Governs (Backend.close : Effect C E Unit)

/-- Of a traced connection they leave events that are neither statements nor control calls. -/
theorem Traced.upkept {C E : Type} [Connection C] [Backend C E] {q : BackendEvent → Prop}
    (h : ∀ e : BackendEvent, e.isUpkeep = true → q e) :
    Upkept E (Traced.appending q : Law (Traced C)) where
  connect _ := governs_noting fun _ => h _ rfl
  reconnect := governs_noting fun _ => h _ rfl
  selectDatabase _ := governs_noting fun _ => h _ rfl
  setCharset _ _ := governs_noting fun _ => h _ rfl
  close _ := ⟨[⟨.close, true⟩], rfl, fun e he => by
    rw [List.mem_singleton.1 he]
    exact h _ rfl⟩

namespace Session

variable {C E α : Type}

/-- Settings and transaction stay as they are, and the connection obeys its law. -/
def upkeep (M : Law C) : Law (Session C) where
  rel s t := t.config = s.config ∧ t.transaction = s.transaction ∧ M.rel s.conn t.conn
  refl s := ⟨rfl, rfl, M.refl s.conn⟩
  trans hst htu :=
    ⟨htu.1.trans hst.1, htu.2.1.trans hst.2.1, M.trans hst.2.2 htu.2.2⟩

variable {M : Law C} {L : Law (Session C)} {K : Contract (Session C)}

/-- A change elsewhere obeys every such law. -/
theorem upkeep_rel_of_eq {s t : Session C} (hconfig : t.config = s.config)
    (htransaction : t.transaction = s.transaction) (hconn : t.conn = s.conn) :
    (upkeep M).rel s t :=
  ⟨hconfig, htransaction, by rw [hconn]; exact M.refl s.conn⟩

/-! ## Work on the connection -/

theorem governs_onConn {a : Action C E α} (h : M.Governs a.run) :
    (upkeep M).Governs (onConn a).run :=
  fun s => ⟨rfl, rfl, h (s.1.conn, s.2)⟩

theorem governs_call {a : Action C E α} (h : L.Governs (onConn a).run) :
    L.Governs (call a).run :=
  .run_bind .run_subject fun _ => .run_mapError h

theorem governs_callOr {error : DbError} {a : Action C E α} (h : L.Governs (onConn a).run) :
    L.Governs (callOr error a).run :=
  .run_bind .run_subject fun _ => .run_mapError h

/-- A refusal changes nothing. -/
theorem governs_raise {e : DbError} : L.Governs (raise e : Action (Session C) E α).run :=
  .run_bind .run_subject fun _ => .run_throw

theorem meets_raise {e : DbError} : K.Meets (raise e : Action (Session C) E α) :=
  .of_governs governs_raise

theorem meets_need {feature : String} {text? : Option String} :
    K.Meets (need feature text? : Action (Session C) E String) := by
  cases text? with
  | none => exact meets_raise
  | some text => exact .pure

theorem run_onConn_apply (a : Action C E α) (s : Session C) (w : World E) :
    (onConn a).run (s, w) = ((a.run (s.conn, w)).1,
      { s with conn := (a.run (s.conn, w)).2.1 }, (a.run (s.conn, w)).2.2) :=
  rfl

/-- A call whose errors the session changes. -/
theorem run_mapError_onConn (f : Session C → DbError → DbError) (a : Action C E α) (s : Session C)
    (w : World E) :
    (do
      let s : Session C ← Action.subject
      Action.mapError (f s) (onConn a)).run (s, w) =
        ((a.run (s.conn, w)).1.mapError (f s), { s with conn := (a.run (s.conn, w)).2.1 },
          (a.run (s.conn, w)).2.2) :=
  rfl

section
variable [Connection C] [Backend C E]

/-- The calls that open, revive and close the connection of a session obey the law. -/
structure Tended (E : Type) [Backend C E] (L : Law (Session C)) : Prop where
  connect : ∀ config, L.Governs (onConn (Backend.connect config) : Action (Session C) E Unit).run
  reconnect : L.Governs (onConn Backend.reconnect : Action (Session C) E Unit).run
  selectDatabase : ∀ name,
    L.Governs (onConn (Backend.selectDatabase name) : Action (Session C) E Unit).run
  setCharset : ∀ charset collation,
    L.Governs (onConn (Backend.setCharset charset collation) : Action (Session C) E Unit).run
  close : L.Governs (Effect.part Session.conn (fun s conn => { s with conn }) Backend.close :
    Effect (Session C) E Unit)

theorem Tended.of_upkept (hM : Upkept E M) : Tended E (upkeep M) where
  connect config := governs_onConn (hM.connect config)
  reconnect := governs_onConn hM.reconnect
  selectDatabase name := governs_onConn (hM.selectDatabase name)
  setCharset charset collation := governs_onConn (hM.setCharset charset collation)
  close s := ⟨rfl, rfl, hM.close (s.1.conn, s.2)⟩

theorem governs_connect (h : Tended E L) :
    L.Governs (connect : Action (Session C) E Unit).run := by
  refine .run_bind .run_subject fun s => ?_
  split
  · exact .run_pure
  · refine .run_bind (governs_call (h.connect _)) fun _ => ?_
    split
    · exact .run_bind (governs_callOr (h.selectDatabase _)) fun _ =>
        governs_callOr (h.setCharset _ _)
    · exact governs_callOr (h.setCharset _ _)

theorem governs_reconnect (hconnect : L.Governs (connect : Action (Session C) E Unit).run)
    (hreconnect : L.Governs (onConn Backend.reconnect : Action (Session C) E Unit).run) :
    L.Governs (reconnect : Action (Session C) E Unit).run := by
  refine .run_bind .run_subject fun s => ?_
  split
  · exact governs_call hreconnect
  · exact hconnect

theorem governs_close (h : Tended E L) : L.Governs (close : Effect (Session C) E Unit) := by
  refine .bind .subject fun s => ?_
  split
  · exact h.close
  · exact .pure

/-- An open connection is not opened again. -/
theorem run_connect_open {s : Session C} (w : World E) (h : s.isConnected = true) :
    (connect : Action (Session C) E Unit).run (s, w) = (.ok (), s, w) := by
  unfold connect
  rw [Action.run_bind_apply]
  simp only [Action.run_subject_apply, h]
  rfl

/-- Opening what is closed comes down to opening, which asks the same. -/
theorem run_unless_connect_bind (rest : Action (Session C) E α) (s : Session C) (w : World E) :
    (do
      let s : Session C ← Action.subject
      unless s.isConnected do connect
      rest : Action (Session C) E α).run (s, w) =
      (do connect; rest : Action (Session C) E α).run (s, w) := by
  rw [Action.run_bind_apply, Action.run_subject_apply]
  cases hopen : s.isConnected with
  | false => simp only [hopen, Bool.false_eq_true, ↓reduceIte]
  | true => simp only [hopen, ↓reduceIte, Action.run_bind_apply connect, run_connect_open w hopen]

/-- An action over a connection that is opened for it. -/
theorem meets_unless_connect_bind {rest : Action (Session C) E α}
    (hconnect : K.Meets (connect : Action (Session C) E Unit)) (hrest : K.Meets rest) :
    K.Meets (do
      let s : Session C ← Action.subject
      unless s.isConnected do connect
      rest : Action (Session C) E α) where
  done {s x t} hr := by
    rw [run_unless_connect_bind] at hr
    exact (Contract.Meets.bind hconnect fun _ => hrest).done hr
  failed {s e t} hr := by
    rw [run_unless_connect_bind] at hr
    exact (Contract.Meets.bind hconnect fun _ => hrest).failed hr

theorem governs_unless_connect_bind {rest : Action (Session C) E α}
    (hconnect : L.Governs (connect : Action (Session C) E Unit).run) (hrest : L.Governs rest.run) :
    L.Governs (do
      let s : Session C ← Action.subject
      unless s.isConnected do connect
      rest : Action (Session C) E α).run :=
  Contract.meets_contract_iff.1 <| meets_unless_connect_bind
    (Contract.meets_contract_iff.2 hconnect) (Contract.meets_contract_iff.2 hrest)

end

/-! ## Transactions

What follows is for laws that do not look at the transaction. -/

section

variable (hstep : ∀ (s : Session C) transaction, L.rel s { s with transaction })
include hstep

theorem governs_transactionStep {f : Transaction → Transaction} :
    L.Governs (transactionStep f : Action (Session C) E Unit).run :=
  .run_modifySubject fun s => hstep s _

theorem governs_endManual {finish : Action C E Unit} (hfinish : L.Governs (onConn finish).run) :
    L.Governs (endManual finish).run := by
  refine .run_bind .run_subject fun s => ?_
  split
  · exact .run_bind (governs_transactionStep hstep) fun _ => governs_call hfinish
  · exact .run_pure

variable [Connection C] [Backend C E]

theorem governs_startGroup {test : Bool}
    (hstart : L.Governs (startPhysical : Action (Session C) E Unit).run) :
    L.Governs (startGroup test : Action (Session C) E Unit).run := by
  refine .run_bind .run_subject fun s => ?_
  split
  · split
    · exact governs_transactionStep hstep
    · refine .run_bind (governs_transactionStep hstep) fun _ => ?_
      refine .run_bind (.run_attempt hstart) fun outcome => ?_
      cases outcome with
      | ok u => exact .run_pure
      | error e => exact .run_bind (governs_transactionStep hstep) fun _ => .run_throw
  · exact .run_pure

theorem governs_completeGroup
    (hcommit : L.Governs (onConn Backend.commit : Action (Session C) E Unit).run)
    (hrollback : L.Governs (onConn Backend.rollback : Action (Session C) E Unit).run) :
    L.Governs (completeGroup : Action (Session C) E _).run := by
  refine .run_bind .run_subject fun s => ?_
  split
  · exact .run_pure
  · obtain ⟨outcome, t⟩ := s.transaction.leave
    refine .run_bind (governs_transactionStep hstep) fun _ => ?_
    cases outcome with
    | committed => exact .run_bind (governs_call hcommit) fun _ => .run_pure
    | rolledBack => exact .run_bind (governs_call hrollback) fun _ => .run_pure
    | _ => exact .run_pure

theorem governs_beginManual {test : Bool}
    (hstart : L.Governs (startPhysical : Action (Session C) E Unit).run) :
    L.Governs (beginManual test : Action (Session C) E Unit).run := by
  refine .run_bind .run_subject fun s => ?_
  split
  · exact .run_bind (governs_transactionStep hstep) fun _ => .run_bind hstart fun _ =>
      governs_transactionStep hstep
  · exact .run_pure

end

/-! ## Kept results -/

/-- A law that the store is free in, and that allows for giving up to keep results. -/
theorem governs_onStore_of_parts {default : α} {f : ResultStore → Disk → α × ResultStore × Disk}
    (hstore : ∀ (s : Session C) store, L.rel s { s with store })
    (hoff : ∀ s : Session C, L.rel s { s with cacheOn := false }) :
    L.Governs (onStore default f : Effect (Session C) E α) := by
  have hneed : L.Governs (needStore : Effect (Session C) E _) := by
    refine .bind .subject fun s => ?_
    split
    · exact .pure
    · exact .bind (.modifySubject fun s => hstore s _) fun _ => .pure
    · refine .bind .onDisk fun store => ?_
      split
      · exact .bind (.modifySubject fun s => hstore s _) fun _ => .pure
      -- a directory that cannot be used
      · exact .bind (.modifySubject hoff) fun _ => .pure
  refine .bind hneed fun store? => ?_
  cases store? with
  | none => exact .pure
  | some store =>
    exact .bind .onDisk fun _ => .bind (.modifySubject fun s => hstore s _) fun _ => .pure

theorem governs_onStore {default : α} {f : ResultStore → Disk → α × ResultStore × Disk} :
    (upkeep M).Governs (onStore default f : Effect (Session C) E α) :=
  governs_onStore_of_parts (fun _ _ => upkeep_rel_of_eq rfl rfl rfl)
    fun _ => upkeep_rel_of_eq rfl rfl rfl

/-- A law that forgetting results obeys, and keeping one. -/
theorem governs_settle_of_parts {sql : String} {handle? : Option Handle}
    (hforget : L.Governs (forgetResults : Effect (Session C) E Bool))
    (hkeep : ∀ sql snapshot, L.Governs (keep sql snapshot : Effect (Session C) E Unit)) :
    L.Governs (settle sql handle? : Effect (Session C) E QueryOutcome) := by
  refine .bind .subject fun s => ?_
  split
  · split
    · exact .bind hforget fun _ => .pure
    · exact .pure
  · extract_lets cursor
    split
    · exact .bind (hkeep _ _) fun _ => .pure
    · exact .pure

theorem governs_settle {sql : String} {handle? : Option Handle} :
    (upkeep M).Governs (settle sql handle? : Effect (Session C) E QueryOutcome) :=
  governs_settle_of_parts governs_onStore fun _ _ => .bind governs_onStore fun _ => .pure

/-! ## Statements -/

/-- What is noted of statements is the business of no other part. -/
theorem upkeep_notes (s : Session C) (queries : List String) (executed : Nat) :
    (upkeep M).rel s { s with queries, executed } :=
  upkeep_rel_of_eq rfl rfl rfl

theorem governs_record {sql : String}
    (hnotes : ∀ (s : Session C) queries executed, L.rel s { s with queries, executed }) :
    L.Governs (record sql : Action (Session C) E Unit).run := by
  refine .run_modifySubject fun s => ?_
  split
  · exact hnotes s _ s.executed
  · exact L.refl s

variable [Connection C] [Backend C E]

/-- Runs a statement over an open connection. -/
def dispatch (sql : String) : Action (Session C) E (Option Handle) := do
  let outcome ← (onConn (Backend.execute sql)).attempt
  Action.modifySubject fun s : Session C => { s with executed := s.executed + 1 }
  match outcome with
  | .ok handle? => return handle?
  | .error e => throw (← (reject sql e).act)

theorem run_dispatch (sql : String) (s : Session C) (w : World E) :
    (dispatch sql : Action (Session C) E _).run (s, w) =
      let (outcome, conn, w) := (Backend.execute sql : Action C E _).run (s.conn, w)
      let s := { s with conn, executed := s.executed + 1 }
      match outcome with
      | .ok handle? => (.ok handle?, s, w)
      | .error e =>
        let (e, t) := (reject sql e : Effect (Session C) E DbError) (s, w)
        (.error e, t) := by
  unfold dispatch
  rw [Action.run_bind_apply, Action.run_attempt_apply, run_onConn_apply]
  rcases (Backend.execute sql : Action C E _).run (s.conn, w) with ⟨e | handle?, conn, w'⟩ <;> rfl

/-- Closing all levels is closing one level at a time. -/
theorem governs_unwind (hgroup : L.Governs (completeGroup : Action (Session C) E _).run) :
    L.Governs (unwind : Effect (Session C) E Unit) := by
  refine .bind .subject fun s => ?_
  induction s.transaction.depth with
  | zero => exact .pure
  | succ levels ih =>
    refine .bind hgroup fun _ => .bind .subject fun t => ?_
    split
    · exact ih
    · exact .pure

/-- A rejected statement is a mark on the transaction and perhaps the end of it. -/
theorem governs_reject {sql : String} {e : DbError}
    (hmark : ∀ s : Session C, L.rel s { s with transaction := s.transaction.markFailed })
    (hgroup : L.Governs (completeGroup : Action (Session C) E _).run) :
    L.Governs (reject sql e : Effect (Session C) E DbError) := by
  refine .bind (.modifySubject hmark) fun _ => .bind .subject fun s => ?_
  dsimp only
  split
  · exact .bind (governs_unwind hgroup) fun _ => .pure
  · exact .pure

/-- Running a statement is a call on the connection and, if that goes wrong, a rejection. -/
theorem governs_dispatch {sql : String}
    (hnotes : ∀ (s : Session C) queries executed, L.rel s { s with queries, executed })
    (hexecute : L.Governs (onConn (Backend.execute sql) : Action (Session C) E _).run)
    (hmark : ∀ s : Session C, L.rel s { s with transaction := s.transaction.markFailed })
    (hgroup : L.Governs (completeGroup : Action (Session C) E _).run) :
    L.Governs (dispatch sql : Action (Session C) E _).run := by
  refine .run_bind (.run_attempt hexecute) fun outcome => ?_
  refine .run_bind (.run_modifySubject fun s => hnotes s s.queries _) fun _ => ?_
  cases outcome with
  | ok handle? => exact .run_pure
  | error e => exact .run_bind (.run_act (governs_reject hmark hgroup)) fun _ => .run_throw

theorem send_eq (sql : String) :
    (send sql : Action (Session C) E (Option Handle)) = (do
      let s : Session C ← Action.subject
      unless s.isConnected do connect
      record sql
      dispatch sql) :=
  rfl

theorem meets_send {sql : String} (hconnect : K.Meets (connect : Action (Session C) E Unit))
    (hnotes : ∀ (s : Session C) queries executed, K.done.rel s { s with queries, executed })
    (hdispatch : K.Meets (dispatch sql : Action (Session C) E _)) :
    K.Meets (send sql : Action (Session C) E _) := by
  rw [send_eq]
  exact meets_unless_connect_bind hconnect
    (.bind (.of_governs (governs_record hnotes)) fun _ => hdispatch)

theorem governs_send {sql : String}
    (hconnect : L.Governs (connect : Action (Session C) E Unit).run)
    (hnotes : ∀ (s : Session C) queries executed, L.rel s { s with queries, executed })
    (hdispatch : L.Governs (dispatch sql : Action (Session C) E _).run) :
    L.Governs (send sql : Action (Session C) E _).run :=
  Contract.meets_contract_iff.1 <| meets_send (Contract.meets_contract_iff.2 hconnect) hnotes
    (Contract.meets_contract_iff.2 hdispatch)

theorem governs_runDirect {sql : String}
    (hconnect : L.Governs (connect : Action (Session C) E Unit).run)
    (hexecute : L.Governs (onConn (Backend.execute sql) : Action (Session C) E _).run) :
    L.Governs (runDirect sql : Action (Session C) E _).run :=
  governs_unless_connect_bind hconnect (governs_call hexecute)

omit [Connection C] [Backend C E] in
/-- To leave the connection as it is obeys every law of connections. -/
theorem upkeep_of_unchanged {s t : Session C} (h : (upkeep .unchanged).rel s t) :
    (upkeep M).rel s t :=
  upkeep_rel_of_eq h.1 h.2.1 h.2.2

/-- Sends a final text, and keeps what comes of it. -/
def askBackend (sql : String) : Action (Session C) E QueryOutcome := do
  let handle? ← send sql
  (settle sql handle?).act

/-- Answers a final text, from the store or by sending it. -/
def resolve (sql : String) : Action (Session C) E QueryOutcome := do
  let s : Session C ← Action.subject
  if s.cacheOn && mayBeKept sql then
    let snapshot? ← (kept? sql).act
    snapshot?.elim (askBackend sql) fun snapshot => return .rows (.ofSnapshot snapshot)
  else askBackend sql

/-- A blank statement is refused, and any other one is answered by its final text. -/
theorem run_query (sql : String) (binds : List Value) (s : Session C) (w : World E) :
    (query sql binds : Action (Session C) E _).run (s, w) =
      if Text.isBlank sql then (raise blankStatement : Action (Session C) E _).run (s, w)
      else (resolve (s.finalText sql binds) : Action (Session C) E _).run (s, w) := by
  unfold query resolve
  split
  · rw [Action.run_bind_apply]
    rfl
  · rw [Action.run_bind_apply, Action.run_subject_apply, Action.run_bind_apply,
      Action.run_subject_apply]
    dsimp only
    split
    · rw [Action.run_bind_apply, Action.run_bind_apply]
      rcases ExceptT.run (Effect.act _) (s, w) with ⟨e | _ | snapshot, t⟩ <;> rfl
    · rfl

theorem query_eq (sql : String) (binds : List Value) :
    (query sql binds : Action (Session C) E QueryOutcome) = (do
      let s : Session C ← Action.subject
      if Text.isBlank sql then raise blankStatement
      else resolve (s.finalText sql binds)) := by
  funext ⟨s, w⟩
  refine (run_query sql binds s w).trans ?_
  rw [← apply_ite (fun a : Action (Session C) E QueryOutcome => a.run (s, w))]
  rfl

/-- A law that looking for kept results obeys, and asking the backend. -/
theorem governs_query_of_parts {sql : String} {binds : List Value}
    (hkept : ∀ sql, L.Governs (kept? sql : Effect (Session C) E _))
    (hask : ∀ sql, L.Governs (askBackend sql : Action (Session C) E _).run) :
    L.Governs (query sql binds : Action (Session C) E QueryOutcome).run := by
  rw [query_eq]
  refine .run_bind .run_subject fun s => ?_
  split
  · exact governs_raise
  · refine .run_bind .run_subject fun s => ?_
    split
    · refine .run_bind (.run_act (hkept _)) fun snapshot? => ?_
      cases snapshot? with
      | none => exact hask _
      | some snapshot => exact .run_pure
    · exact hask _

/-- To answer a final text takes the sending of it, and work on the store. -/
theorem meets_resolve {sql : String}
    (hstill : ∀ s t, (upkeep .unchanged).rel s t → K.done.rel s t)
    (hsend : K.Meets (send sql : Action (Session C) E _)) :
    K.Meets (resolve sql : Action (Session C) E _) := by
  have hask : K.Meets (askBackend sql : Action (Session C) E _) :=
    .bind hsend fun _ => .act (governs_settle.mono hstill)
  refine .bind .subject fun s => ?_
  split
  · refine .bind (.act (governs_onStore.mono hstill)) fun snapshot? => ?_
    cases snapshot? with
    | none => exact hask
    | some snapshot => exact .pure
  · exact hask

/-- A query obeys a law from where it starts if the sending of its final text does. -/
theorem rel_query {sql : String} {binds : List Value}
    (hstill : ∀ s t, (upkeep .unchanged).rel s t → L.rel s t) (s : Session C) (w : World E)
    (hsend : L.Governs (send (s.finalText sql binds) : Action (Session C) E _).run) :
    L.rel s ((query sql binds : Action (Session C) E _).run (s, w)).2.1 := by
  rw [run_query]
  split
  · exact governs_raise (s, w)
  · have hresolve : L.contract.Meets (resolve (s.finalText sql binds) : Action (Session C) E _) :=
      meets_resolve hstill (Contract.meets_contract_iff.2 hsend)
    exact Contract.meets_contract_iff.1 hresolve (s, w)

/-- A query meets a contract if the sending of every text does. -/
theorem meets_query {sql : String} {binds : List Value}
    (hstill : ∀ s t, (upkeep .unchanged).rel s t → K.done.rel s t)
    (hsend : ∀ sql, K.Meets (send sql : Action (Session C) E _)) :
    K.Meets (query sql binds : Action (Session C) E _) := by
  rw [query_eq]
  refine .bind .subject fun s => ?_
  split
  · exact meets_raise
  · exact meets_resolve hstill (hsend _)

/-! ## Obedience -/

/-- A law that only settings, transaction and connection decide, and that the life of the connection
and the sending of statements obey. -/
structure Obeyed (E : Type) [Backend C E] (L : Law (Session C)) : Prop where
  still : ∀ s t, (upkeep .unchanged).rel s t → L.rel s t
  connect : L.Governs (connect : Action (Session C) E Unit).run
  reconnect : L.Governs (reconnect : Action (Session C) E Unit).run
  close : L.Governs (close : Effect (Session C) E Unit)
  send : ∀ sql, L.Governs (send sql : Action (Session C) E _).run
  runDirect : ∀ sql, L.Governs (runDirect sql : Action (Session C) E _).run

/-- A law that all upkeep obeys, and the running of statements. -/
theorem Obeyed.of_upkeep (hM : Upkept E M) (hupkeep : ∀ s t, (upkeep M).rel s t → L.rel s t)
    (hdispatch : ∀ sql, L.Governs (dispatch sql : Action (Session C) E _).run)
    (hexecute : ∀ sql, L.Governs (onConn (Backend.execute sql) : Action (Session C) E _).run) :
    Obeyed E L :=
  have htended : Tended E (upkeep M) := .of_upkept hM
  have hconnect := (governs_connect htended).mono hupkeep
  { still := fun _ _ h => hupkeep _ _ (upkeep_of_unchanged h)
    connect := hconnect
    reconnect := (governs_reconnect (governs_connect htended) htended.reconnect).mono hupkeep
    close := (governs_close htended).mono hupkeep
    send := fun sql => governs_send hconnect (fun _ _ _ => hupkeep _ _ (upkeep_notes ..))
      (hdispatch sql)
    runDirect := fun sql => governs_runDirect hconnect (hexecute sql) }

theorem governs_query (h : Obeyed E L) {sql : String} {binds : List Value} :
    L.Governs (query sql binds : Action (Session C) E _).run :=
  fun s => rel_query h.still s.1 s.2 (h.send _)

/-! ## The catalogue -/

/-- A contract that queries meet, and the remembering of names. -/
structure Queried (E : Type) [Backend C E] (K : Contract (Session C)) : Prop where
  query : ∀ sql binds, K.Meets (query sql binds : Action (Session C) E _)
  names : ∀ (s : Session C) catalogue, K.done.rel s { s with catalogue }

theorem Obeyed.queried (h : Obeyed E L) : Queried E L.contract where
  query _ _ := Contract.meets_contract_iff.2 (governs_query h)
  names _ _ := h.still _ _ (upkeep_rel_of_eq rfl rfl rfl)

section

variable (hquery : ∀ sql binds, K.Meets (query sql binds : Action (Session C) E _))
include hquery

theorem meets_read {sql : String} : K.Meets (read sql : Action (Session C) E Cursor) :=
  .bind (hquery sql []) fun _ => .pure

theorem meets_columnData {table : String} :
    K.Meets (columnData table : Action (Session C) E _) := by
  have hread : K.Meets (do
      let s : Session C ← Action.subject
      return (← read (s.dialect.probe (s.protect table true))).fields :
        Action (Session C) E (List Column)) :=
    .bind .subject fun _ => .bind (meets_read hquery) fun _ => .pure
  unfold columnData
  split
  · exact .bind meets_raise fun _ => hread
  · exact hread

theorem meets_version : K.Meets (version : Action (Session C) E _) :=
  .bind .subject fun _ => .bind meets_need fun _ => .bind (meets_read hquery) fun _ => .pure

theorem meets_countAll {table : String} :
    K.Meets (countAll table : Action (Session C) E _) := by
  unfold countAll
  split
  · exact .pure
  · exact .bind .subject fun _ => .bind (meets_read hquery) fun _ => .pure

end

section

variable (h : Queried E K)
include h

theorem meets_tables {withPrefix : Bool} :
    K.Meets (tables withPrefix : Action (Session C) E _) := by
  refine .bind .subject fun s => ?_
  extract_lets lead?
  split
  · exact .pure
  · refine .bind meets_need fun sql => .bind (meets_read h.query) fun c => ?_
    dsimp only
    split
    · exact .bind (.modifySubject fun s => h.names s _) fun _ => .pure
    · exact .pure

theorem meets_columns {table : String} :
    K.Meets (columns table : Action (Session C) E _) := by
  refine .bind .subject fun s => ?_
  dsimp only
  split
  · exact .pure
  · exact .bind meets_need fun sql => .bind (meets_read h.query) fun _ =>
      .bind (.modifySubject fun s => h.names s _) fun _ => .pure

theorem meets_primaryKey {table : String} :
    K.Meets (primaryKey table : Action (Session C) E _) := by
  refine .bind (meets_columnData h.query) fun fields => ?_
  split
  · exact .pure
  · exact .bind (meets_columns h) fun _ => .pure

end

end Session

end SqlGateway
