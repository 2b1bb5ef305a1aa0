import SqlGateway.Proofs.Backend.Heard

/-!
# Backends with a full log

A connection together with all that was asked of it, in order: the statements with their answers and
the other calls with how they ended. `Heard` has the statements alone and `Traced` has no answers;
what is said of results and transactions together needs both, in the order in which they came.

Main definitions:

* `LogEntry`: a statement with its answer, or another call.
* `Logged`: a connection with its log.
* `Logged.heard`, `Logged.traced`: what is heard of a logged connection, and its trace.
* `Logged.growing`: the law that a log is only added to.
-/

namespace SqlGateway

inductive LogEntry where
  | statement (h : Hearing)
  | call (e : BackendEvent)

/-- The statement of an entry, if it is one. -/
def LogEntry.hearing? : LogEntry → Option Hearing
  | statement h => some h
  | call _ => none

/-- The call that an entry is about. -/
def LogEntry.event : LogEntry → BackendEvent
  | statement h => ⟨.execute h.sql, h.outcome.isOk⟩
  | call e => e

structure Logged (C : Type) where
  conn : C
  log : List LogEntry

namespace Logged

variable {C E α : Type}

/-- A connection that nothing was asked of yet. -/
def untouched (conn : C) : Logged C :=
  ⟨conn, []⟩

/-- The connection with its statements alone. -/
def heard (l : Logged C) : Heard C :=
  ⟨l.conn, l.log.filterMap LogEntry.hearing?⟩

/-- The connection with its calls alone. -/
def traced (l : Logged C) : Traced C :=
  ⟨l.conn, l.log.map LogEntry.event⟩

theorem heard_statement (conn : C) (log : List LogEntry) (h : Hearing) :
    heard ⟨conn, log ++ [.statement h]⟩ = ⟨conn, log.filterMap LogEntry.hearing? ++ [h]⟩ := by
  unfold heard
  rw [List.filterMap_append]
  rfl

theorem heard_call (conn : C) (log : List LogEntry) (e : BackendEvent) :
    heard ⟨conn, log ++ [.call e]⟩ = heard ⟨conn, log⟩ := by
  unfold heard
  rw [List.filterMap_append, List.filterMap_cons_none rfl, List.filterMap_nil, List.append_nil]

/-- Does what the connection does, and logs how it ended. -/
def logging (entry : Except DbError α → LogEntry) (a : Action C E α) : Action (Logged C) E α := do
  let outcome ← (Action.part Logged.conn (fun l conn => { l with conn }) a).attempt
  -- an action that fails is logged as well
  Action.modifySubject fun l => { l with log := l.log ++ [entry outcome] }
  Action.ofExcept outcome

theorem run_logging (entry : Except DbError α → LogEntry) (a : Action C E α) (l : Logged C)
    (w : World E) :
    (logging entry a).run (l, w) =
      ((a.run (l.conn, w)).1,
        ⟨(a.run (l.conn, w)).2.1, l.log ++ [entry (a.run (l.conn, w)).1]⟩,
        (a.run (l.conn, w)).2.2) :=
  rfl

/-- What is logged of a call is traced. -/
theorem mirrors_logging {call : BackendCall} {entry : Except DbError α → LogEntry}
    {a : Action C E α} (h : ∀ outcome, (entry outcome).event = ⟨call, outcome.isOk⟩) :
    (Simulation.exactly traced).Mirrors (logging entry a).run (Traced.noting call a).run := by
  intro l w _
  refine ⟨trivial, ?_⟩
  have htraced : ((Simulation.exactly (E := E) traced).view l : Traced C) =
      ⟨l.conn, l.log.map LogEntry.event⟩ := rfl
  rw [htraced, run_logging, Traced.run_noting, ← h, ← List.map_singleton, ← List.map_append]
  rfl

/-- The log is only added to. -/
def growing (C : Type) : Law (Logged C) where
  rel k l := k.log <+: l.log
  refl _ := List.prefix_rfl
  trans := List.IsPrefix.trans

theorem governs_logging {entry : Except DbError α → LogEntry} {a : Action C E α} :
    (growing C).Governs (logging entry a).run :=
  fun s => List.prefix_append s.1.log _

/-- Logs a call that is no statement. -/
def calling (call : BackendCall) (a : Action C E Unit) : Action (Logged C) E Unit :=
  logging (fun outcome => .call ⟨call, outcome.isOk⟩) a

/-- What is logged of such a call is not heard. -/
theorem mirrors_calling {call : BackendCall} {a : Action C E Unit} :
    (Simulation.exactly heard).Mirrors (calling call a).run (Heard.inside a).run := by
  intro l w _
  refine ⟨trivial, ?_⟩
  show _ = (_, Logged.heard ⟨_, l.log ++ [.call _]⟩, _)
  rw [heard_call]
  rfl

variable [Connection C]

instance : Connection (Logged C) where
  dialect l := Connection.dialect l.conn
  isConnected l := Connection.isConnected l.conn
  insertId l := Connection.insertId l.conn
  affectedRows l := Connection.affectedRows l.conn
  lastError l := Connection.lastError l.conn

variable [Backend C E]

instance : Backend (Logged C) E where
  connect config := calling .connect (Backend.connect config)
  reconnect := calling .reconnect Backend.reconnect
  selectDatabase name := calling (.selectDatabase name) (Backend.selectDatabase name)
  setCharset charset collation :=
    calling (.setCharset charset collation) (Backend.setCharset charset collation)
  execute sql := logging (fun outcome => .statement ⟨sql, outcome⟩) (Backend.execute sql)
  startTransaction := calling .startTransaction Backend.startTransaction
  commit := calling .commit Backend.commit
  rollback := calling .rollback Backend.rollback
  close := do
    Effect.part Logged.conn (fun l conn => { l with conn }) Backend.close
    Action.modifySubject fun l => { l with log := l.log ++ [.call ⟨.close, true⟩] }

/-- A logged connection does what the heard one does. -/
theorem watches : Watches E (heard : Logged C → Heard C) where
  dialect _ := rfl
  isConnected _ := rfl
  affectedRows _ := rfl
  connect _ := mirrors_calling
  reconnect := mirrors_calling
  selectDatabase _ := mirrors_calling
  setCharset _ _ := mirrors_calling
  execute sql l w _ := by
    refine ⟨trivial, ?_⟩
    show _ = (_, Logged.heard ⟨_, l.log ++ [.statement _]⟩, _)
    rw [heard_statement]
    rfl
  startTransaction := mirrors_calling
  commit := mirrors_calling
  rollback := mirrors_calling
  close l w _ := by
    refine ⟨trivial, ?_⟩
    show _ = (_, Logged.heard ⟨_, l.log ++ [.call _]⟩, _)
    rw [heard_call]
    rfl

/-- Nor does it do anything else than the traced one. -/
theorem watches_traced : Watches E (traced : Logged C → Traced C) where
  dialect _ := rfl
  isConnected _ := rfl
  affectedRows _ := rfl
  connect _ := mirrors_logging fun _ => rfl
  reconnect := mirrors_logging fun _ => rfl
  selectDatabase _ := mirrors_logging fun _ => rfl
  setCharset _ _ := mirrors_logging fun _ => rfl
  execute _ := mirrors_logging fun _ => rfl
  startTransaction := mirrors_logging fun _ => rfl
  commit := mirrors_logging fun _ => rfl
  rollback := mirrors_logging fun _ => rfl
  close l w _ := by
    refine ⟨trivial, ?_⟩
    show _ = (_, Logged.traced ⟨_, l.log ++ [.call ⟨.close, true⟩]⟩, _)
    unfold traced
    rw [List.map_append]
    rfl

end Logged

end SqlGateway
