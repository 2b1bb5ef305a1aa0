import SqlGateway.Query.Plan
import SqlGateway.Session.Catalogue

/-!
# Databases

A session with its query builder, unless its settings do without one. What the builder has compiled
or planned runs on the session; the builder that is left does not depend on how that ends.
-/

namespace SqlGateway

structure Database (C : Type) where
  session : Session C
  builder : Option Builder

namespace Database

variable {C E α : Type}

def create (config : ConnectionConfig) (conn : C) : Database C :=
  ⟨.create config conn, if config.builderEnabled then some .empty else none⟩

section
variable [Connection C]

/-- How the session writes statements. -/
def style (d : Database C) : Style :=
  ⟨d.session.dialect, d.session.rules⟩

end

/-- Work on the session. -/
def onSession (a : Action (Session C) E α) : Action (Database C) E α :=
  .part Database.session (fun d session => { d with session }) a

/-- The session closed if it is open, as when the database is given up. -/
def release [Connection C] [Backend C E] : Effect (Database C) E Unit :=
  .part Database.session (fun d session => { d with session }) Session.close

/-! ## The builder -/

/-- The builder, if the session has one. -/
def needBuilder : Action (Database C) E Builder := do
  let d : Database C ← Action.subject
  match d.builder with
  | some b => return b
  | none => onSession (Session.refuse .noBuilder)

def setBuilder (b : Builder) : Action (Database C) E Unit :=
  Action.modifySubject fun d => { d with builder := some b }

variable [Connection C]

/-- A call that changes the builder and sends nothing. -/
def call (f : Style → Builder → Except Refusal Builder) : Action (Database C) E Unit := do
  let b ← needBuilder
  let d : Database C ← Action.subject
  match f d.style b with
  | .ok b => setBuilder b
  | .error r => onSession (Session.refuse r)

/-- A call that gives a text and sends nothing. -/
def compile (f : Style → Builder → String × Builder) : Action (Database C) E String := do
  let b ← needBuilder
  let d : Database C ← Action.subject
  let (text, b) := f d.style b
  setBuilder b
  return text

variable [Backend C E]

/-- Sends the statement of a read. -/
def read (f : Style → Builder → Read) : Action (Database C) E Cursor := do
  let b ← needBuilder
  let d : Database C ← Action.subject
  let r := f d.style b
  let outcome ← (onSession (Session.read r.statement)).attempt
  setBuilder r.after
  .ofExcept outcome

/-- Sends the statement of a count. -/
def count (f : Style → Builder → Read) : Action (Database C) E Nat := do
  let c ← read f
  return if c.numRows = 0 then 0 else Session.countOf c "numrows"

/-- Sends statements one after the other, and sums up the rows that they change. The first one that
is rejected is the last one sent. -/
def sendAll : List String → Action (Session C) E Nat
  | [] => return 0
  | sql :: rest => do
    let _ ← Session.query sql []
    let s : Session C ← Action.subject
    let affected := Connection.affectedRows s.conn
    return affected + (← sendAll rest)

/-- Sends the statements of a plan. The result is the number of rows that they change. -/
def write (f : Style → Builder → Plan) : Action (Database C) E Nat := do
  let b ← needBuilder
  let d : Database C ← Action.subject
  let plan := f d.style b
  let outcome ← (onSession (sendAll plan.statements)).attempt
  setBuilder plan.after
  let affected ← .ofExcept outcome
  match plan.refusal with
  | none => return affected
  | some r => onSession (Session.refuse r)

end Database

end SqlGateway
