import SqlGateway.Digest
import SqlGateway.Disk
import SqlGateway.Error
import SqlGateway.Result.Snapshot

/-!
# Stores of results

A store keeps snapshots of results under the text of their statements, in memory or in a directory
with one file for each statement. A directory that cannot be used switches its store off.

The operations on a file store take the disk and return it.
-/

namespace SqlGateway

/-- A directory of snapshots. -/
structure FileStore where
  directory : String
  usable : Bool
  deriving DecidableEq, Repr

namespace FileStore

/-- Opens a directory, making it if it is missing. -/
def create (directory : String) (disk : Disk) : FileStore × Disk :=
  let (made, disk) := disk.makeDirectories directory
  (⟨directory, made && disk.isDirectory directory⟩, disk)

/-- The file of a statement. -/
def fileFor (s : FileStore) (sql : String) : String :=
  Path.within s.directory (Digest.ofText sql ++ ".json")

/-- The snapshot of a statement. A file that holds none is removed. -/
def read (s : FileStore) (sql : String) (disk : Disk) : Option Snapshot × Disk :=
  if !s.usable then (none, disk)
  else
    match disk.read? (s.fileFor sql) with
    | none => (none, disk)
    | some text =>
      match Snapshot.decode? text with
      | some snapshot => (some snapshot, disk)
      -- a file that cannot be removed stays
      | none => (none, (disk.remove (s.fileFor sql)).2)

/-- Writes the snapshot of a statement, or tells why it cannot. -/
def put (s : FileStore) (sql : String) (snapshot : Snapshot) (disk : Disk) : Except DbError Disk :=
  if !s.usable then
    .error (.cache ("cache directory " ++ s.directory ++ " is not usable"))
  else
    match disk.write (s.fileFor sql) snapshot.encode with
    | (true, disk) => .ok disk
    | (false, _) =>
      .error (.cache ("unable to write " ++ s.fileFor sql ++ ": its directory is missing"))

/-- Writes the snapshot of a statement. The first failure switches the store off. -/
def write (s : FileStore) (sql : String) (snapshot : Snapshot) (disk : Disk) :
    Bool × FileStore × Disk :=
  match s.put sql snapshot disk with
  | .ok disk => (true, s, disk)
  | .error _ => (false, { s with usable := false }, disk)

/-- Removes every snapshot; false when there is no directory. -/
def clear (s : FileStore) (disk : Disk) : Bool × Disk :=
  match disk.files? s.directory with
  | none => (false, disk)
  | some files =>
    let snapshots := (files.map Prod.fst).filter fun name => Path.extension? name = some "json"
    (true, snapshots.foldl
      (fun disk name => (disk.remove (Path.within s.directory name)).2) disk)

end FileStore

inductive ResultStore where
  | memory (entries : OrderedMap Snapshot)
  | files (store : FileStore)
  deriving DecidableEq

namespace ResultStore

/-- An empty store in memory. -/
def inMemory : ResultStore :=
  memory .empty

def read (s : ResultStore) (sql : String) (disk : Disk) : Option Snapshot × Disk :=
  match s with
  | memory entries => (entries.get? sql, disk)
  | files store => store.read sql disk

/-- Whether the snapshot was kept. -/
def write (s : ResultStore) (sql : String) (snapshot : Snapshot) (disk : Disk) :
    Bool × ResultStore × Disk :=
  match s with
  | memory entries => (true, memory (entries.insert sql snapshot), disk)
  | files store =>
    let (kept, store, disk) := store.write sql snapshot disk
    (kept, files store, disk)

/-- Forgets every snapshot. -/
def clear (s : ResultStore) (disk : Disk) : Bool × ResultStore × Disk :=
  match s with
  | memory _ => (true, inMemory, disk)
  | files store =>
    let (found, disk) := store.clear disk
    (found, files store, disk)

end ResultStore

end SqlGateway
