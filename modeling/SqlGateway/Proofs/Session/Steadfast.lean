import SqlGateway.Backend.Scripted
import SqlGateway.Proofs.Session.Operation

/-!
# Connections that stay open

A session asks its connection whether it is open, and opens it where it is not. With a backend that
gives up no connection by itself, a session that is connected stays so until it is closed, and does
not open its connection another time.

Main definitions:

* `Steadfast`: backends whose connections are given up by closing them alone.
* `Session.keepingOpen`: the law that an open connection stays open, and is not opened again.

Main results:

* `Session.governs_perform_keepingOpen`: all operations but closing obey that law.
* `Session.isConnected_connect`: a connection that could be opened is open.
* `Scripted.steadfast`: scripted backends are of this kind.
-/

namespace SqlGateway

/-- The call opens or closes the connection. -/
def BackendEvent.isSwitch (e : BackendEvent) : Bool :=
  match e.call with
  | .connect | .close => true
  | _ => false

/-- The law of keeping a connection open. -/
abbrev stayingConnected (C : Type) [Connection C] : Law C :=
  .preserving fun c => Connection.isConnected c = true

/-- A connection is open once it was opened, and no call but closing gives it up. -/
structure Steadfast (C E : Type) [Connection C] [Backend C E] : Prop where
  connect : ∀ config (s : C × World E) t,
    (Backend.connect config : Action C E Unit).run s = (.ok (), t) →
      Connection.isConnected t.1 = true
  reconnect : (stayingConnected C).Governs (Backend.reconnect : Action C E Unit).run
  selectDatabase : ∀ name,
    (stayingConnected C).Governs (Backend.selectDatabase name : Action C E Unit).run
  setCharset : ∀ charset collation,
    (stayingConnected C).Governs (Backend.setCharset charset collation : Action C E Unit).run
  execute : ∀ sql, (stayingConnected C).Governs (Backend.execute sql : Action C E _).run
  startTransaction : (stayingConnected C).Governs (Backend.startTransaction : Action C E Unit).run
  commit : (stayingConnected C).Governs (Backend.commit : Action C E Unit).run
  rollback : (stayingConnected C).Governs (Backend.rollback : Action C E Unit).run

namespace Session

variable {C E α : Type} [Connection C] [Backend C E]

/-! ## Sessions that keep their connection open -/

/-- An open connection stays open, and is neither opened nor closed. -/
def keepingOpen (C : Type) [Connection C] : Law (Session (Traced C)) where
  rel s t := s.isConnected = true → t.isConnected = true ∧
    (Traced.appending fun e => e.isSwitch = false).rel s.conn t.conn
  refl _ h := ⟨h, Law.refl _ _⟩
  trans hst htu hs := by
    obtain ⟨ht, hevents⟩ := hst hs
    obtain ⟨hu, hevents'⟩ := htu ht
    exact ⟨hu, Law.trans _ hevents hevents'⟩

omit [Backend C E] in
theorem keepingOpen_of_conn_eq {s t : Session (Traced C)} (h : t.conn = s.conn) :
    (keepingOpen C).rel s t := by
  intro hs
  unfold isConnected
  rw [h]
  exact ⟨hs, Law.refl _ _⟩

omit [Backend C E] in
theorem governs_onConn_keepingOpen {call : BackendCall} {a : Action C E α}
    (hcall : ∀ accepted, BackendEvent.isSwitch ⟨call, accepted⟩ = false)
    (h : (stayingConnected C).Governs a.run) :
    (keepingOpen C).Governs (onConn (Traced.noting call a)).run :=
  fun s hs => ⟨h (s.1.conn.conn, s.2) hs, Traced.governs_noting hcall (s.1.conn, s.2)⟩

theorem governs_connect_keepingOpen :
    (keepingOpen C).Governs (connect : Action (Session (Traced C)) E Unit).run := by
  intro ⟨s, w⟩ hs
  rw [run_connect_open w hs]
  exact ⟨hs, Law.refl _ _⟩

section

variable (h : Steadfast C E)
include h

theorem governs_completeGroup_keepingOpen :
    (keepingOpen C).Governs (completeGroup : Action (Session (Traced C)) E _).run :=
  governs_completeGroup (fun _ _ => keepingOpen_of_conn_eq rfl)
    (governs_onConn_keepingOpen (fun _ => rfl) h.commit)
    (governs_onConn_keepingOpen (fun _ => rfl) h.rollback)

theorem served_keepingOpen : Served E (keepingOpen C).contract :=
  have hstill : ∀ s t, (upkeep .unchanged).rel s t → (keepingOpen C).rel s t :=
    fun _ _ h => keepingOpen_of_conn_eq h.2.2
  have hexecute (sql : String) : (keepingOpen C).Governs
      (onConn (Backend.execute sql) : Action (Session (Traced C)) E _).run :=
    governs_onConn_keepingOpen (fun _ => rfl) (h.execute sql)
  have hdispatch (sql : String) : (keepingOpen C).Governs
      (dispatch sql : Action (Session (Traced C)) E _).run :=
    governs_dispatch (fun _ _ _ => keepingOpen_of_conn_eq rfl) (hexecute sql)
      (fun _ => keepingOpen_of_conn_eq rfl) (governs_completeGroup_keepingOpen h)
  { query := fun _ _ => meets_query hstill fun sql =>
      Contract.meets_contract_iff.2 (governs_send governs_connect_keepingOpen
        (fun _ _ _ => keepingOpen_of_conn_eq rfl) (hdispatch sql))
    names := fun _ _ => keepingOpen_of_conn_eq rfl
    connect := Contract.meets_contract_iff.2 governs_connect_keepingOpen
    reconnect := Contract.meets_contract_iff.2 (governs_reconnect governs_connect_keepingOpen
      (governs_onConn_keepingOpen (fun _ => rfl) h.reconnect))
    runDirect := fun sql => Contract.meets_contract_iff.2
      (governs_runDirect governs_connect_keepingOpen (hexecute sql))
    store := governs_onStore.mono hstill }

/-- Every operation but closing keeps an open connection. -/
theorem governs_perform_keepingOpen {op : Operation} (hop : op ≠ .close) :
    (keepingOpen C).Governs (perform op : Action (Session (Traced C)) E Answer).run := by
  have hstart : (keepingOpen C).Governs
      (startPhysical : Action (Session (Traced C)) E Unit).run :=
    governs_unless_connect_bind governs_connect_keepingOpen
      (governs_call (governs_onConn_keepingOpen (fun _ => rfl) h.startTransaction))
  cases hother : op.isTransactional with
  | false =>
    refine Contract.meets_contract_iff.1 (meets_perform (served_keepingOpen h) hother
      (fun hclose => absurd hclose hop) fun f hf s => ?_)
    exact keepingOpen_of_conn_eq (Operation.edit?_spec hf s).1
  | true =>
    exact governs_transactional hother (fun _ _ => keepingOpen_of_conn_eq rfl) hstart
      (governs_onConn_keepingOpen (fun _ => rfl) h.commit)
      (governs_onConn_keepingOpen (fun _ => rfl) h.rollback)

/-- A call that opened the connection leaves it open. -/
theorem isConnected_call_connect {config : ConnectionConfig} {s t : Session (Traced C)}
    {w w' : World E}
    (hr : (call (Backend.connect config) : Action (Session (Traced C)) E Unit).run (s, w) =
      (.ok (), t, w')) : t.isConnected = true := by
  obtain ⟨q, hq⟩ : ∃ q, (Backend.connect config : Action C E Unit).run (s.conn.conn, w) = q :=
    ⟨_, rfl⟩
  have hrun : (call (Backend.connect config) : Action (Session (Traced C)) E Unit).run (s, w) =
      (q.1.mapError s.upgrade,
        { s with conn := ⟨q.2.1, s.conn.events ++ [⟨.connect, q.1.isOk⟩]⟩ }, q.2.2) :=
    hq ▸ rfl
  obtain ⟨e | u, c, v⟩ := q
  · rw [hrun] at hr
    cases hr
  · rw [hrun] at hr
    cases hr
    exact h.connect config _ _ hq

/-- A connection that could be opened is open. -/
theorem isConnected_connect {s t : Session (Traced C)} {w w' : World E}
    (hr : (connect : Action (Session (Traced C)) E Unit).run (s, w) = (.ok (), t, w')) :
    t.isConnected = true := by
  have hset {error : DbError} : (keepingOpen C).Governs
      (callOr error (Backend.setCharset s.config.charset s.config.collation) :
        Action (Session (Traced C)) E Unit).run :=
    governs_callOr (governs_onConn_keepingOpen (fun _ => rfl) (h.setCharset _ _))
  have hselect {error : DbError} : (keepingOpen C).Governs
      (callOr error (Backend.selectDatabase s.config.database) :
        Action (Session (Traced C)) E Unit).run :=
    governs_callOr (governs_onConn_keepingOpen (fun _ => rfl) (h.selectDatabase _))
  cases hopen : s.isConnected with
  | true =>
    rw [run_connect_open w hopen] at hr
    cases hr
    exact hopen
  | false =>
    -- what follows the opening keeps the connection open
    unfold connect at hr
    rw [Action.run_bind_apply, Action.run_subject_apply] at hr
    simp only [hopen, Bool.false_eq_true, ↓reduceIte] at hr
    rw [Action.run_bind_apply] at hr
    rcases hcall : (call (Backend.connect s.config) : Action (Session (Traced C)) E Unit).run
      (s, w) with ⟨e | u, v, w₁⟩
    · rw [hcall] at hr
      cases hr
    · rw [hcall] at hr
      have hv := isConnected_call_connect h hcall
      dsimp only at hr
      split at hr
      · refine (Law.Governs.rel_of_eq (L := keepingOpen C) ?_ hr hv).1
        exact .run_bind hselect fun _ => hset
      · exact (hset.rel_of_eq hr hv).1

end

end Session

/-! ## Scripted backends -/

namespace Scripted

section

variable {L : Law Scripted}

theorem governs_note (entry : String) : L.Governs (note entry).run :=
  .run_modifyServers

theorem governs_allow (call : String) : L.Governs (allow call).run := by
  refine .run_bind .run_servers fun script => ?_
  split
  · exact .run_throw
  · exact .run_pure

theorem governs_reconnect : L.Governs reconnect.run := by
  refine .run_bind .run_subject fun c => ?_
  split
  · exact .run_bind (governs_note _) fun _ => governs_allow _
  · exact .run_pure

variable (hsame : ∀ c d : Scripted, d.connected = c.connected → L.rel c d)
include hsame

/-- Statements neither open nor close the connection. -/
theorem governs_execute (sql : String) : L.Governs (execute sql).run := by
  have hmodify {f : Scripted → Scripted} (h : ∀ c, (f c).connected = c.connected) :
      L.Governs (Action.modifySubject f : Action Scripted Script Unit).run :=
    .run_modifySubject fun c => hsame c _ (h c)
  refine .run_bind (governs_note _) fun _ => .run_bind (hmodify fun _ => rfl) fun _ => ?_
  refine .run_bind .run_servers fun script => ?_
  dsimp only
  split
  · exact .run_bind (hmodify fun _ => rfl) fun _ => .run_throw
  · exact .run_bind (hmodify fun _ => rfl) fun _ => .run_pure

theorem governs_run (sql : String) : L.Governs (run sql).run :=
  .run_bind (governs_execute hsame sql) fun _ => .run_pure

end

/-- An opening is the last thing that opening does, so it is not done where the script refuses it. -/
theorem connected_connect (config : ConnectionConfig) (s : Scripted × World Script) :
    ((connect config).run s).2.1.connected =
      (((connect config).run s).1.isOk || s.1.connected) := by
  obtain ⟨entry, hrun⟩ : ∃ entry, (connect config).run s = (do
      note entry
      allow "connect"
      Action.modifySubject fun c => { c with connected := true } : Action Scripted Script Unit).run
        s := ⟨_, rfl⟩
  have hkept := governs_allow (L := .unchanged) "connect" ((note entry).run s).2
  rw [hrun, Action.run_bind_apply, Action.run_bind_apply]
  rcases hallowed : (allow "connect").run ((note entry).run s).2 with ⟨e | u, t⟩
  · -- what was refused left the connection as it was
    rw [hallowed] at hkept
    exact congrArg Scripted.connected hkept
  · rfl

/-- Scripted connections are given up by closing them alone. -/
theorem steadfast : Steadfast Scripted Script :=
  have hsame : ∀ c d : Scripted, d.connected = c.connected →
      (stayingConnected Scripted).rel c d := fun _ _ hsame hc => hsame.trans hc
  { connect := fun config s t hr => by
      have hconnected := connected_connect config s
      rw [show (connect config).run s = (.ok (), t) from hr] at hconnected
      exact hconnected
    reconnect := governs_reconnect
    selectDatabase := fun _ => .run_bind (governs_note _) fun _ => governs_allow _
    setCharset := fun _ _ => .run_bind (governs_note _) fun _ => governs_allow _
    execute := governs_execute hsame
    startTransaction := governs_run hsame _
    commit := governs_run hsame _
    rollback := governs_run hsame _ }

end Scripted

end SqlGateway
