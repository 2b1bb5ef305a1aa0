import SqlGateway.Action
import SqlGateway.Config
import SqlGateway.Result.Handle
import SqlGateway.Sql.Dialect

/-!
# Backends

A backend owns a physical connection and speaks a dialect. `Connection C` is what can be told of a
connection whose state is `C`; `Backend C E` is what can be done with it, `E` being the state of the
servers which connections share.
-/

namespace SqlGateway

class Connection (C : Type) where
  dialect : C → Dialect
  isConnected : C → Bool
  /-- The number given to the row inserted last. -/
  insertId : C → Nat
  /-- The number of rows that the last statement changed. -/
  affectedRows : C → Nat
  /-- The number and the words of the last error, if the last statement had one. -/
  lastError : C → Option (Int × String)

class Backend (C E : Type) [Connection C] where
  /-- Opens the connection that the settings describe. -/
  connect : ConnectionConfig → Action C E Unit
  /-- Keeps an open connection alive. -/
  reconnect : Action C E Unit
  selectDatabase : String → Action C E Unit
  setCharset : String → String → Action C E Unit
  /-- Runs a statement; there is a handle if it has a result. -/
  execute : String → Action C E (Option Handle)
  startTransaction : Action C E Unit
  commit : Action C E Unit
  rollback : Action C E Unit
  close : Effect C E Unit

/-! ## Connections of one of two kinds -/

variable {A B E : Type}

/-- Works on whichever connection there is. -/
def Effect.either {α : Type} (left : Effect A E α) (right : Effect B E α) : Effect (A ⊕ B) E α :=
  fun (c, w) => match c with
    | .inl a =>
      let (result, a, w) := left (a, w)
      (result, .inl a, w)
    | .inr b =>
      let (result, b, w) := right (b, w)
      (result, .inr b, w)

def Action.either {α : Type} (left : Action A E α) (right : Action B E α) : Action (A ⊕ B) E α :=
  ExceptT.mk (Effect.either left.run right.run)

instance [Connection A] [Connection B] : Connection (A ⊕ B) where
  dialect := Sum.elim Connection.dialect Connection.dialect
  isConnected := Sum.elim Connection.isConnected Connection.isConnected
  insertId := Sum.elim Connection.insertId Connection.insertId
  affectedRows := Sum.elim Connection.affectedRows Connection.affectedRows
  lastError := Sum.elim Connection.lastError Connection.lastError

open Backend in
instance [Connection A] [Connection B] [Backend A E] [Backend B E] : Backend (A ⊕ B) E where
  connect config := .either (connect config) (connect config)
  reconnect := .either reconnect reconnect
  selectDatabase name := .either (selectDatabase name) (selectDatabase name)
  setCharset charset collation :=
    .either (setCharset charset collation) (setCharset charset collation)
  execute sql := .either (execute sql) (execute sql)
  startTransaction := .either startTransaction startTransaction
  commit := .either commit commit
  rollback := .either rollback rollback
  close := .either close close

end SqlGateway
