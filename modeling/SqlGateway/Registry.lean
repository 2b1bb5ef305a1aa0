import SqlGateway.Backend.Table
import SqlGateway.Database
import SqlGateway.Settings

/-!
# Registries

A registry builds the databases that settings describe and shares them: one key is built once, until
it is closed. Each caller that is given a database has a lease on it. A database that is neither
shared nor leased is given up, and its connection closed.

Main definitions:

* `Registry.get`: the database of a key, or one from settings of the caller's own, with a lease.
* `Registry.close`, `Registry.closeAll`: closing and forgetting shared databases.
* `Registry.drop`: giving a lease back.
-/

namespace SqlGateway

/-- What tells the databases of a registry apart. -/
abbrev InstanceId := Nat

structure Registry (C : Type) where
  settings : Settings
  backends : BackendTable C
  instances : List (InstanceId × Database C)
  /-- The shared database of each key. -/
  shared : OrderedMap InstanceId
  /-- One entry for each lease. -/
  leases : List InstanceId
  nextId : InstanceId

namespace Registry

variable {C E α : Type}

def create (settings : Settings) (backends : BackendTable C) : Registry C :=
  ⟨settings, backends, [], .empty, [], 0⟩

/-! ## Keys -/

/-- The key that stands for the active group. -/
def defaultKey : String :=
  "default"

/-- The key under which a database is shared. A blank key or `default` means the active group. -/
def resolve (settings : Settings) (key : String) : Except DbError String :=
  let key := Text.trim key
  if key ≠ "" ∧ key ≠ defaultKey then .ok key
  else
    match Text.nonBlank? settings.activeGroup with
    | some group => .ok group
    | none =>
      if key = defaultKey then .ok defaultKey
      else .error (.configuration
        "No database connection settings were found in the database config file.")

/-- The settings of a key. -/
def settingsOf (settings : Settings) (key : String) : Except DbError ConnectionConfig :=
  match settings.connection? key with
  | some config => .ok config
  | none => .error (.configuration
      ("You have specified an invalid database connection group (" ++ key ++
        ") in your config file."))

/-! ## Instances -/

def instance? (r : Registry C) (id : InstanceId) : Option (Database C) :=
  r.instances.lookup id

/-- Something other than the instance itself keeps it alive. -/
def isHeld (r : Registry C) (id : InstanceId) : Bool :=
  r.shared.values.contains id || r.leases.contains id

def setInstance (r : Registry C) (id : InstanceId) (d : Database C) : Registry C :=
  { r with instances := r.instances.map fun entry => if entry.1 = id then (id, d) else entry }

/-- Adds an instance with a lease on it. -/
def addInstance (d : Database C) : Effect (Registry C) E InstanceId := do
  let r : Registry C ← Action.subject
  Action.modifySubject fun r => { r with
    instances := r.instances ++ [(r.nextId, d)]
    leases := r.nextId :: r.leases
    nextId := r.nextId + 1 }
  return r.nextId

/-- Works on an instance; nothing is done if there is no such instance. -/
def onInstance? (id : InstanceId) (e : Effect (Database C) E α) :
    Effect (Registry C) E (Option α) := do
  let r : Registry C ← Action.subject
  match r.instance? id with
  | none => return none
  | some d =>
    let result ← Effect.part (fun _ => d) (fun r d => r.setInstance id d) e
    return some result

variable [Connection C] [Backend C E]

/-- Gives an instance up unless it is held. -/
def giveUp (id : InstanceId) : Effect (Registry C) E Unit := do
  let r : Registry C ← Action.subject
  unless r.isHeld id do
    let _ ← onInstance? id Database.release
    Action.modifySubject fun r : Registry C =>
      { r with instances := r.instances.filter fun entry => entry.1 ≠ id }

/-- Gives a lease back. -/
def drop (id : InstanceId) : Effect (Registry C) E Unit := do
  Action.modifySubject fun r : Registry C => { r with leases := r.leases.erase id }
  giveUp id

/-! ## Getting -/

/-- Opens a new database as its settings want. Only a fatal error keeps it from being used; it is
given up then. -/
def openNew (config : ConnectionConfig) : Action (Database C) E Unit := do
  if config.autoOpen then
    match ← (Database.onSession Session.connect).attempt with
    | .ok _ => return
    | .error e =>
      -- other errors leave a database that may be opened later
      if e.isFatal then
        Database.release.act
        throw e

/-- Builds a database. -/
def build (config : ConnectionConfig) : Action (Registry C) E (Database C) := do
  .ofExcept config.validate
  let r : Registry C ← Action.subject
  let conn ← .ofExcept (r.backends.build config)
  let (outcome, d) ← (Effect.apart (Database.create config conn) (openNew config).run).act
  .ofExcept outcome
  return d

/-- The database of a key, which is built when it is first needed. With settings of the caller's own
it is built anew and not shared. -/
def get (key : String) (override? : Option ConnectionConfig) :
    Action (Registry C) E InstanceId := do
  match override? with
  | some config => (addInstance (← build config)).act
  | none =>
    let r : Registry C ← Action.subject
    let key ← .ofExcept (resolve r.settings key)
    match r.shared.get? key with
    | some id =>
      Action.modifySubject fun r : Registry C => { r with leases := id :: r.leases }
      return id
    | none =>
      let config ← .ofExcept (settingsOf r.settings key)
      let id ← (addInstance (← build config)).act
      Action.modifySubject fun r : Registry C => { r with shared := r.shared.insert key id }
      return id

/-! ## Closing -/

/-- Closes and forgets the shared database of a key; false when there is none. -/
def close (key : String) : Effect (Registry C) E Bool := do
  let r : Registry C ← Action.subject
  match r.shared.get? key with
  | none => return false
  | some id =>
    Action.modifySubject fun r : Registry C => { r with shared := r.shared.erase key }
    -- leases on it stay good: the database opens again when it is used
    let _ ← onInstance? id Database.release
    giveUp id
    return true

def closeKeys : List String → Effect (Registry C) E Unit
  | [] => return
  | key :: keys => do
    let _ ← close key
    closeKeys keys

/-- Closes and forgets every shared database. -/
def closeAll : Effect (Registry C) E Unit := do
  let r : Registry C ← Action.subject
  closeKeys r.shared.keys

/-! ## Description -/

def sortedKeys (keys : List String) : List String :=
  keys.mergeSort fun a b => a ≤ b

def describe (r : Registry C) : String :=
  "ConnectionRegistry \x7b backends: BackendRegistry \x7b kinds: " ++
    Text.quotedList (sortedKeys r.backends.factories.keys) ++ " \x7d, instances: " ++
    Text.quotedList (sortedKeys r.shared.keys) ++ " \x7d"

end Registry

end SqlGateway
