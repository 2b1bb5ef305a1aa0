import SqlGateway.Proofs.Backend.Traced

/-!
# Backends whose answers are heard

A connection together with the statements that were run on it, and with what the backend answered.
What is proved of sessions over such a connection holds of all sessions, as hearing changes nothing.

Main definitions:

* `Hearing`: a statement with its answer.
* `Heard`: a connection with what was heard of it.
* `Heard.silent`: the law that nothing more is heard.
-/

namespace SqlGateway

/-- A statement that was run, and what came of it. -/
structure Hearing where
  sql : String
  outcome : Except DbError (Option Handle)

structure Heard (C : Type) where
  conn : C
  hearings : List Hearing

namespace Heard

variable {C E α : Type}

/-- A connection that nothing was asked of yet. -/
def untouched (conn : C) : Heard C :=
  ⟨conn, []⟩

/-- Does what the connection does. -/
def inside (a : Action C E α) : Action (Heard C) E α :=
  .part Heard.conn (fun h conn => { h with conn }) a

/-- Does what the connection does, and keeps its answer. -/
def hearing (sql : String) (a : Action C E (Option Handle)) :
    Action (Heard C) E (Option Handle) := do
  let outcome ← (inside a).attempt
  Action.modifySubject fun h => { h with hearings := h.hearings ++ [⟨sql, outcome⟩] }
  Action.ofExcept outcome

theorem run_hearing (sql : String) (a : Action C E (Option Handle)) (h : Heard C) (w : World E) :
    (hearing sql a).run (h, w) =
      ((a.run (h.conn, w)).1,
        ⟨(a.run (h.conn, w)).2.1, h.hearings ++ [⟨sql, (a.run (h.conn, w)).1⟩]⟩,
        (a.run (h.conn, w)).2.2) :=
  rfl

/-- Nothing more is heard. -/
def silent (C : Type) : Law (Heard C) where
  rel g h := h.hearings = g.hearings
  refl _ := rfl
  trans hgh hhi := hhi.trans hgh

theorem governs_inside {a : Action C E α} : (silent C).Governs (inside a).run :=
  fun _ => rfl

variable [Connection C]

instance : Connection (Heard C) where
  dialect h := Connection.dialect h.conn
  isConnected h := Connection.isConnected h.conn
  insertId h := Connection.insertId h.conn
  affectedRows h := Connection.affectedRows h.conn
  lastError h := Connection.lastError h.conn

instance [Backend C E] : Backend (Heard C) E where
  connect config := inside (Backend.connect config)
  reconnect := inside Backend.reconnect
  selectDatabase name := inside (Backend.selectDatabase name)
  setCharset charset collation := inside (Backend.setCharset charset collation)
  execute sql := hearing sql (Backend.execute sql)
  startTransaction := inside Backend.startTransaction
  commit := inside Backend.commit
  rollback := inside Backend.rollback
  close := Effect.part Heard.conn (fun h conn => { h with conn }) Backend.close

/-- Hearing changes nothing. -/
theorem watches [Backend C E] : Watches E (Heard.conn : Heard C → C) where
  dialect _ := rfl
  isConnected _ := rfl
  affectedRows _ := rfl
  connect _ _ _ _ := ⟨trivial, rfl⟩
  reconnect _ _ _ := ⟨trivial, rfl⟩
  selectDatabase _ _ _ _ := ⟨trivial, rfl⟩
  setCharset _ _ _ _ _ := ⟨trivial, rfl⟩
  execute _ _ _ _ := ⟨trivial, rfl⟩
  startTransaction _ _ _ := ⟨trivial, rfl⟩
  commit _ _ _ := ⟨trivial, rfl⟩
  rollback _ _ _ := ⟨trivial, rfl⟩
  close _ _ _ := ⟨trivial, rfl⟩

end Heard

end SqlGateway
