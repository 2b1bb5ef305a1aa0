import SqlGateway.Session.Basic

/-!
# Transactions of a session

Managed groups (`startGroup`, `completeGroup`) nest to any depth. Manual transactions
(`beginManual`, `commitManual`, `rollbackManual`) share their counter and act on the outermost level
alone. Where the settings do without transactions none of them does anything.
-/

namespace SqlGateway.Session

variable {C E : Type} [Connection C] [Backend C E]

def transactionStep (f : Transaction → Transaction) : Action (Session C) E Unit :=
  Action.modifySubject fun s => { s with transaction := f s.transaction }

/-- Starts a transaction on the connection, which is opened for it. -/
def startPhysical : Action (Session C) E Unit := do
  let s : Session C ← Action.subject
  unless s.isConnected do connect
  call Backend.startTransaction

/-- Opens a level of a group. A level that cannot be started is closed again. -/
def startGroup (test : Bool) : Action (Session C) E Unit := do
  let s : Session C ← Action.subject
  if s.transaction.enabled then
    if s.transaction.isOpen then
      transactionStep .enterInner
    else
      transactionStep fun t => t.enterOuter test
      match ← startPhysical.attempt with
      | .ok _ => return
      | .error e =>
        transactionStep fun t => { t with depth := 0 }
        throw e

/-- Closes a level of a group. The outermost one is committed, or rolled back after a failure. -/
def completeGroup : Action (Session C) E TransactionOutcome := do
  let s : Session C ← Action.subject
  if !s.transaction.enabled then return .disabled
  let (outcome, t) := s.transaction.leave
  transactionStep fun _ => t
  match outcome with
  | .committed => call Backend.commit
  | .rolledBack => call Backend.rollback
  | _ => return outcome
  return outcome

/-- Starts a manual transaction unless one is open. -/
def beginManual (test : Bool) : Action (Session C) E Unit := do
  let s : Session C ← Action.subject
  if s.transaction.enabled && !s.transaction.isOpen then
    -- the level is open only once the backend has started
    transactionStep fun t => { t with failed := test }
    startPhysical
    transactionStep fun t => { t with depth := 1 }

/-- Ends the outermost level. -/
def endManual (finish : Action C E Unit) : Action (Session C) E Unit := do
  let s : Session C ← Action.subject
  if s.transaction.enabled && s.transaction.depth = 1 then
    -- the level is closed even if the backend fails
    transactionStep fun t => { t with depth := 0 }
    call finish

def commitManual : Action (Session C) E Unit :=
  endManual Backend.commit

def rollbackManual : Action (Session C) E Unit :=
  endManual Backend.rollback

/-- Closes up to `levels` levels, errors aside, as long as that changes the depth. -/
def unwindFrom : Nat → Effect (Session C) E Unit
  | 0 => return
  | levels + 1 => do
    let _ ← (completeGroup : Action (Session C) E _).run
    let s : Session C ← Action.subject
    -- a level that stayed open would stay so for ever
    if s.transaction.depth = levels then unwindFrom levels

/-- Closes every level that is open. -/
def unwind : Effect (Session C) E Unit := do
  let s : Session C ← Action.subject
  unwindFrom s.transaction.depth

end SqlGateway.Session
