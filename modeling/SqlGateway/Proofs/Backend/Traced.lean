import SqlGateway.Backend.Basic
import SqlGateway.Proofs.Simulation

/-!
# Traced backends

A connection together with the calls that were made on it, in order, and whether the backend
accepted them. Every connection can be traced, so what is proved of the trace of a traced connection
holds of any backend, however it decides what to accept.

Main definitions:

* `Watches`: one connection does what another one does, and more besides.
* `BackendEvent`: a call on a backend, with how it ended.
* `Traced`: a connection with its trace.
* `Traced.appending`: the law that only events of some kind are added to the trace.
-/

namespace SqlGateway

/-! ## Watching -/

/-- The connection does what the one inside of it does. -/
structure Watches {C C' : Type} (E : Type) [Connection C] [Connection C'] [Backend C E]
    [Backend C' E] (inner : C → C') : Prop where
  dialect : ∀ c, Connection.dialect (inner c) = Connection.dialect c
  isConnected : ∀ c, Connection.isConnected (inner c) = Connection.isConnected c
  affectedRows : ∀ c, Connection.affectedRows (inner c) = Connection.affectedRows c
  connect : ∀ config, (Simulation.exactly inner).Mirrors
    (Backend.connect config : Action C E Unit).run (Backend.connect config).run
  reconnect : (Simulation.exactly inner).Mirrors
    (Backend.reconnect : Action C E Unit).run Backend.reconnect.run
  selectDatabase : ∀ name, (Simulation.exactly inner).Mirrors
    (Backend.selectDatabase name : Action C E Unit).run (Backend.selectDatabase name).run
  setCharset : ∀ charset collation, (Simulation.exactly inner).Mirrors
    (Backend.setCharset charset collation : Action C E Unit).run
    (Backend.setCharset charset collation).run
  execute : ∀ sql, (Simulation.exactly inner).Mirrors
    (Backend.execute sql : Action C E _).run (Backend.execute sql).run
  startTransaction : (Simulation.exactly inner).Mirrors
    (Backend.startTransaction : Action C E Unit).run Backend.startTransaction.run
  commit : (Simulation.exactly inner).Mirrors
    (Backend.commit : Action C E Unit).run Backend.commit.run
  rollback : (Simulation.exactly inner).Mirrors
    (Backend.rollback : Action C E Unit).run Backend.rollback.run
  close : (Simulation.exactly inner).Mirrors (Backend.close : Effect C E Unit) Backend.close

/-! ## Tracing -/

inductive BackendCall where
  | connect
  | reconnect
  | selectDatabase (name : String)
  | setCharset (charset collation : String)
  | execute (sql : String)
  | startTransaction
  | commit
  | rollback
  | close
  deriving DecidableEq, Repr

structure BackendEvent where
  call : BackendCall
  accepted : Bool
  deriving DecidableEq, Repr

structure Traced (C : Type) where
  conn : C
  events : List BackendEvent

namespace BackendEvent

/-- The statement that was sent by the call, if any. -/
def statement? (e : BackendEvent) : Option String :=
  match e.call with
  | .execute sql => some sql
  | _ => none

/-- A statement that the backend rejected. -/
def isRejection (e : BackendEvent) : Bool :=
  e.statement?.isSome && !e.accepted

/-- The call starts or ends a transaction. -/
def isControl (e : BackendEvent) : Bool :=
  match e.call with
  | .startTransaction | .commit | .rollback => true
  | _ => false

/-- The call has to do with the connection alone. -/
def isUpkeep (e : BackendEvent) : Bool :=
  e.statement?.isNone && !e.isControl

end BackendEvent

namespace Traced

variable {C E α : Type}

/-- A connection that nothing was asked of yet. -/
def untouched (conn : C) : Traced C :=
  ⟨conn, []⟩

/-- Does what the connection does, and adds the call to the trace. -/
def noting (call : BackendCall) (a : Action C E α) : Action (Traced C) E α := do
  let outcome ← (Action.part Traced.conn (fun t conn => { t with conn }) a).attempt
  Action.modifySubject fun t => { t with events := t.events ++ [⟨call, outcome.isOk⟩] }
  Action.ofExcept outcome

/-- A traced call ends as the connection says, and leaves one event more. -/
theorem run_noting (call : BackendCall) (a : Action C E α) (t : Traced C) (w : World E) :
    (noting call a).run (t, w) =
      ((a.run (t.conn, w)).1,
        ⟨(a.run (t.conn, w)).2.1, t.events ++ [⟨call, (a.run (t.conn, w)).1.isOk⟩]⟩,
        (a.run (t.conn, w)).2.2) :=
  rfl

/-- The trace grows, and only by events of a kind. -/
def appending (q : BackendEvent → Prop) : Law (Traced C) where
  rel t u := ∃ more, u.events = t.events ++ more ∧ ∀ e ∈ more, q e
  refl t := ⟨[], by simp, by simp⟩
  trans := by
    rintro t u v ⟨es, hes, hqes⟩ ⟨fs, hfs, hqfs⟩
    refine ⟨es ++ fs, by rw [hfs, hes, List.append_assoc], fun e he => ?_⟩
    rcases List.mem_append.1 he with he | he
    · exact hqes e he
    · exact hqfs e he

theorem governs_noting {q : BackendEvent → Prop} {call : BackendCall} {a : Action C E α}
    (h : ∀ accepted, q ⟨call, accepted⟩) : (appending q).Governs (noting call a).run := by
  intro s
  refine ⟨[⟨call, (a.run (s.1.conn, s.2)).1.isOk⟩], by rw [run_noting], fun e he => ?_⟩
  rw [List.mem_singleton.1 he]
  exact h _

variable [Connection C]

instance : Connection (Traced C) where
  dialect t := Connection.dialect t.conn
  isConnected t := Connection.isConnected t.conn
  insertId t := Connection.insertId t.conn
  affectedRows t := Connection.affectedRows t.conn
  lastError t := Connection.lastError t.conn

instance [Backend C E] : Backend (Traced C) E where
  connect config := noting .connect (Backend.connect config)
  reconnect := noting .reconnect Backend.reconnect
  selectDatabase name := noting (.selectDatabase name) (Backend.selectDatabase name)
  setCharset charset collation :=
    noting (.setCharset charset collation) (Backend.setCharset charset collation)
  execute sql := noting (.execute sql) (Backend.execute sql)
  startTransaction := noting .startTransaction Backend.startTransaction
  commit := noting .commit Backend.commit
  rollback := noting .rollback Backend.rollback
  close := do
    Effect.part Traced.conn (fun t conn => { t with conn }) Backend.close
    Action.modifySubject fun t => { t with events := t.events ++ [⟨.close, true⟩] }

/-- A traced call does what the call does. -/
theorem watches [Backend C E] :
    Watches E (Traced.conn : Traced C → C) where
  dialect _ := rfl
  isConnected _ := rfl
  affectedRows _ := rfl
  connect _ _ _ _ := ⟨trivial, rfl⟩
  reconnect _ _ _ := ⟨trivial, rfl⟩
  selectDatabase _ _ _ _ := ⟨trivial, rfl⟩
  setCharset _ _ _ _ _ := ⟨trivial, rfl⟩
  execute _ _ _ _ := ⟨trivial, rfl⟩
  startTransaction _ _ _ := ⟨trivial, rfl⟩
  commit _ _ _ := ⟨trivial, rfl⟩
  rollback _ _ _ := ⟨trivial, rfl⟩
  close _ _ _ := ⟨trivial, rfl⟩

end Traced

end SqlGateway
