import SqlGateway.Disk
import SqlGateway.Error

/-!
# Actions

What is done to a connection. An action works on its subject and on the world that all subjects
share, the disk and the servers; it ends with a result or with an error. What it has changed before
an error stays changed. An `Effect` is an action that cannot fail.

Main definitions:

* `Action`, `Effect`: what may fail, and what may not.
* `Action.subject`, `Action.modifySubject`: reading and changing the subject, in both.
* `Effect.part`, `Action.part`: work on a part of the subject.
* `Action.attempt`: the outcome of an action as a value.
-/

namespace SqlGateway

/-- What subjects share: the disk, and the servers behind the connections. -/
structure World (E : Type) where
  disk : Disk
  servers : E

abbrev Effect (X E : Type) : Type → Type :=
  StateM (X × World E)

abbrev Action (X E : Type) : Type → Type :=
  ExceptT DbError (Effect X E)

namespace Action

section
variable {X E α : Type} {m : Type → Type} [Monad m] [MonadState (X × World E) m]

def subject : m X :=
  return (← get).1

def modifySubject (f : X → X) : m Unit :=
  modify fun s => (f s.1, s.2)

def servers : m E :=
  return (← get).2.servers

def modifyServers (f : E → E) : m Unit :=
  modify fun s => (s.1, { s.2 with servers := f s.2.servers })

/-- Work on the disk. -/
def onDisk (f : Disk → α × Disk) : m α :=
  modifyGet fun s =>
    let (result, disk) := f s.2.disk
    (result, s.1, { s.2 with disk })

end

variable {X Y E α : Type}

/-- The outcome as a value. -/
def attempt (a : Action X E α) : Action X E (Except DbError α) :=
  ExceptT.mk (Except.ok <$> a.run)

/-- Ends as an outcome says. -/
def ofExcept (outcome : Except DbError α) : Action X E α :=
  ExceptT.mk (pure outcome)

/-- Changes the error of an action that fails. -/
def mapError (f : DbError → DbError) (a : Action X E α) : Action X E α :=
  ExceptT.mk ((Except.mapError f) <$> a.run)

end Action

/-- An effect as an action. -/
def Effect.act {X E α : Type} (e : Effect X E α) : Action X E α :=
  ExceptT.lift e

/-- Work on a part of the subject. -/
def Effect.part {X Y E α : Type} (view : X → Y) (put : X → Y → X) (e : Effect Y E α) :
    Effect X E α :=
  fun s =>
    let (result, y, w) := e (view s.1, s.2)
    (result, put s.1 y, w)

/-- Work on a subject of its own, which is returned. -/
def Effect.apart {X Y E α : Type} (y : Y) (e : Effect Y E α) : Effect X E (α × Y) :=
  fun s =>
    let (result, y, w) := e (y, s.2)
    ((result, y), s.1, w)

/-- Work on a part of the subject, which may fail. -/
def Action.part {X Y E α : Type} (view : X → Y) (put : X → Y → X) (a : Action Y E α) :
    Action X E α :=
  ExceptT.mk (Effect.part view put a.run)

end SqlGateway
