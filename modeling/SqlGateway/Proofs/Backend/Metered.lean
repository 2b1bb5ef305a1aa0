import SqlGateway.Proofs.Backend.Traced

/-!
# Metered backends

A connection together with the calls that were made on it, and with how each of them ended: with the
number of rows that the connection then counted as changed, or with an error. What is proved of the
meter of a connection holds of any backend, whatever it rejects and however it counts.

Main definitions:

* `Reading`: a call with how it ended.
* `Metered`: a connection with the readings of its calls.
* `Metered.adding`: the law that only readings of some kind are added.
* `Reading.statements`: the statements among some readings, with how they ended.
-/

namespace SqlGateway

structure Reading where
  call : BackendCall
  /-- The rows that the connection counted after the call, or why it was rejected. -/
  outcome : Except DbError Nat

structure Metered (C : Type) where
  conn : C
  readings : List Reading

namespace Reading

/-- The statement that was sent by the call, if any, with how it ended. -/
def statement? (r : Reading) : Option (String × Except DbError Nat) :=
  match r.call with
  | .execute sql => some (sql, r.outcome)
  | _ => none

def statements (readings : List Reading) : List (String × Except DbError Nat) :=
  readings.filterMap statement?

@[simp]
theorem statements_nil : statements [] = [] :=
  rfl

@[simp]
theorem statements_append (readings more : List Reading) :
    statements (readings ++ more) = statements readings ++ statements more :=
  List.filterMap_append

theorem statements_eq_nil {readings : List Reading} (h : ∀ r ∈ readings, r.statement? = none) :
    statements readings = [] :=
  List.filterMap_eq_nil_iff.2 h

/-- The last call was none that sends a statement, and was rejected. -/
def EndRefused (readings : List Reading) : Prop :=
  ∃ r, readings.getLast? = some r ∧ r.statement? = none ∧ r.outcome.isOk = false

theorem EndRefused.append {readings : List Reading} (before : List Reading)
    (h : EndRefused readings) : EndRefused (before ++ readings) := by
  obtain ⟨r, hlast, hr⟩ := h
  exact ⟨r, by rw [List.getLast?_append, hlast]; rfl, hr⟩

end Reading

namespace Metered

variable {C E α : Type}

/-- A connection that nothing was asked of yet. -/
def untouched (conn : C) : Metered C :=
  ⟨conn, []⟩

/-- The readings grow, and only by those of a kind. -/
def adding (q : Reading → Prop) : Law (Metered C) where
  rel m n := ∃ more, n.readings = m.readings ++ more ∧ ∀ r ∈ more, q r
  refl m := ⟨[], by simp, by simp⟩
  trans := by
    rintro m n o ⟨rs, hrs, hqrs⟩ ⟨ts, hts, hqts⟩
    refine ⟨rs ++ ts, by rw [hts, hrs, List.append_assoc], fun r hr => ?_⟩
    rcases List.mem_append.1 hr with hr | hr
    · exact hqrs r hr
    · exact hqts r hr

variable [Connection C]

/-- Does what the connection does, and adds the reading. -/
def reading (call : BackendCall) (a : Action C E α) : Action (Metered C) E α := do
  let outcome ← (Action.part Metered.conn (fun m conn => { m with conn }) a).attempt
  Action.modifySubject fun m =>
    { m with readings := m.readings ++
        [⟨call, outcome.map fun _ => Connection.affectedRows m.conn⟩] }
  Action.ofExcept outcome

/-- A metered call ends as the connection says, and leaves one reading more. -/
theorem run_reading (call : BackendCall) (a : Action C E α) (m : Metered C) (w : World E) :
    (reading call a).run (m, w) =
      let r := a.run (m.conn, w)
      (r.1, ⟨r.2.1, m.readings ++
        [⟨call, r.1.map fun _ => Connection.affectedRows r.2.1⟩]⟩, r.2.2) :=
  rfl

theorem governs_reading {q : Reading → Prop} {call : BackendCall} {a : Action C E α}
    (h : ∀ outcome, q ⟨call, outcome⟩) : (adding q).Governs (reading call a).run := by
  intro s
  refine ⟨_, by rw [run_reading], fun r hr => ?_⟩
  rw [List.mem_singleton.1 hr]
  exact h _

instance : Connection (Metered C) where
  dialect m := Connection.dialect m.conn
  isConnected m := Connection.isConnected m.conn
  insertId m := Connection.insertId m.conn
  affectedRows m := Connection.affectedRows m.conn
  lastError m := Connection.lastError m.conn

instance [Backend C E] : Backend (Metered C) E where
  connect config := reading .connect (Backend.connect config)
  reconnect := reading .reconnect Backend.reconnect
  selectDatabase name := reading (.selectDatabase name) (Backend.selectDatabase name)
  setCharset charset collation :=
    reading (.setCharset charset collation) (Backend.setCharset charset collation)
  execute sql := reading (.execute sql) (Backend.execute sql)
  startTransaction := reading .startTransaction Backend.startTransaction
  commit := reading .commit Backend.commit
  rollback := reading .rollback Backend.rollback
  close := do
    Effect.part Metered.conn (fun m conn => { m with conn }) Backend.close
    Action.modifySubject fun m =>
      { m with readings := m.readings ++ [⟨.close, .ok (Connection.affectedRows m.conn)⟩] }

/-- A metered call does what the call does. -/
theorem watches [Backend C E] : Watches E (Metered.conn : Metered C → C) where
  dialect _ := rfl
  isConnected _ := rfl
  affectedRows _ := rfl
  connect _ _ _ _ := ⟨trivial, rfl⟩
  reconnect _ _ _ := ⟨trivial, rfl⟩
  selectDatabase _ _ _ _ := ⟨trivial, rfl⟩
  setCharset _ _ _ _ _ := ⟨trivial, rfl⟩
  execute _ _ _ _ := ⟨trivial, rfl⟩
  startTransaction _ _ _ := ⟨trivial, rfl⟩
  commit _ _ _ := ⟨trivial, rfl⟩
  rollback _ _ _ := ⟨trivial, rfl⟩
  close _ _ _ := ⟨trivial, rfl⟩

end Metered

end SqlGateway
