import SqlGateway.Path

/-!
# A disk

A tree of directories and text files held in memory. A path is followed name by name, and each name
is looked up in a directory that exists: `none/../x` leads nowhere when there is no `none`. Paths
start at the root, which always exists.

Main definitions:

* `Disk.find`: where a path leads.
* `Disk.read?`, `Disk.write`, `Disk.remove`: whole files.
* `Disk.makeDirectories`, `Disk.removeTree`: directories.
* `Disk.files?`: the files of a directory.

A change tells whether it worked, and returns the disk in any case: what it has done before it fails
stays done.
-/

namespace SqlGateway

/-- The names that lead from the root to an entry. -/
abbrev Trail := List String

inductive DiskEntry where
  | directory
  | file (content : String)
  deriving DecidableEq, Repr

/-- Each entry with the trail to it. -/
structure Disk where
  entries : List (Trail × DiskEntry)
  deriving Repr, Inhabited

/-- Why a path leads to no entry. -/
inductive NoEntry where
  /-- A directory on the way has no entry with the name that follows. -/
  | missing
  /-- The way goes through a file, or there cannot be an entry with the name or the path. -/
  | blocked
  deriving DecidableEq, Repr

namespace Disk

/-- A disk with nothing but its root. -/
def empty : Disk :=
  ⟨[]⟩

def entry? (d : Disk) (t : Trail) : Option DiskEntry :=
  if t = [] then some .directory else d.entries.lookup t

/-- Takes away the entry at the end of a trail. -/
def erase (d : Disk) (t : Trail) : Disk :=
  ⟨d.entries.filter fun x => x.1 ≠ t⟩

/-- Puts an entry at the end of a trail, replacing the one there. -/
def put (d : Disk) (t : Trail) (e : DiskEntry) : Disk :=
  ⟨(t, e) :: (d.erase t).entries⟩

/-! ## Following paths -/

/-- Goes on by a name from an entry, which has to be a directory. The root is its own parent. -/
def step (d : Disk) (t : Trail) (name : String) : Except NoEntry Trail :=
  if d.entry? t ≠ some .directory then .error .blocked
  else if Path.isIdle name then .ok t
  else if name = ".." then .ok t.dropLast
  else if Path.maxNameSize < name.utf8ByteSize then .error .blocked
  else if (d.entry? (t ++ [name])).isNone then .error .missing
  else .ok (t ++ [name])

/-- Follows names from the root. -/
def walk (d : Disk) (names : List String) : Except NoEntry Trail :=
  names.foldlM d.step []

/-- The way along the names ends at a file, or at a name that no entry can have. -/
def isBlocked (d : Disk) (names : List String) : Bool :=
  match d.walk names with
  | .error .blocked => true
  | _ => false

/-- The trail of the entry with a path. -/
def find (d : Disk) (path : String) : Except NoEntry Trail :=
  if path = "" then .error .missing
  else if !Path.isUsable path then .error .blocked
  else d.walk (Path.names path)

/-- The trail of an entry that need not exist yet. What it lies in does exist. -/
def place (d : Disk) (names : List String) : Except NoEntry Trail :=
  match names.getLast? with
  | none => .ok []
  | some name => do
    let parent ← d.walk names.dropLast
    match d.step parent name with
    | .error .missing => .ok (parent ++ [name])
    | found => found

def contains (d : Disk) (path : String) : Bool :=
  (d.find path).toBool

def isDirectory (d : Disk) (path : String) : Bool :=
  match d.find path with
  | .ok t => d.entry? t = some .directory
  | .error _ => false

/-! ## Files -/

/-- The content of a file. -/
def read? (d : Disk) (path : String) : Option String :=
  match d.find path with
  | .ok t =>
    match d.entry? t with
    | some (.file content) => some content
    | _ => none
  | .error _ => none

/-- Writes a whole file; its directory must exist, and it must not be a directory itself. -/
def write (d : Disk) (path content : String) : Bool × Disk :=
  if !Path.isUsable path then (false, d)
  else match d.place (Path.names path) with
    | .ok t =>
      if d.entry? t = some .directory then (false, d) else (true, d.put t (.file content))
    | .error _ => (false, d)

/-- Removes a file. -/
def remove (d : Disk) (path : String) : Bool × Disk :=
  match d.find path with
  | .ok t =>
    match d.entry? t with
    | some (.file _) => (true, d.erase t)
    | _ => (false, d)
  | .error _ => (false, d)

/-- The files of a directory with their contents, sorted by name. -/
def files? (d : Disk) (path : String) : Option (List (String × String)) :=
  match d.find path with
  | .ok t =>
    if d.entry? t = some .directory then
      let found := d.entries.filterMap fun
        | (trail, .file content) =>
          if trail.dropLast = t then trail.getLast?.map (·, content) else none
        | _ => none
      some (found.mergeSort fun a b => a.1 ≤ b.1)
    else none
  | .error _ => none

/-! ## Directories -/

/-- Makes a directory where there is none. -/
def makeDirectory (d : Disk) (names : List String) : Except NoEntry Disk := do
  let t ← d.place names
  match d.entry? t with
  | some .directory => return d
  | some (.file _) => throw .blocked
  | none => return d.put t .directory

/-- Makes a directory. When the way to it is missing, the directory around it is made first; `outer`
holds the names of that one, last first. -/
def makeWithin (d : Disk) (names outer : List String) : Bool × Disk :=
  match d.makeDirectory names, outer with
  | .ok d, _ => (true, d)
  | .error .missing, name :: rest =>
    let (made, d) := makeWithin d (rest.reverse ++ [name]) rest
    match made, d.makeDirectory names with
    | true, .ok d => (true, d)
    | _, _ => (false, d)
  | .error _, _ => (false, d)

/-- Makes a directory and the ones it is in. A dot at the end of a path is no directory to be made,
so the way to it has to be there. Nothing is made for the empty path. -/
def makeDirectories (d : Disk) (path : String) : Bool × Disk :=
  if path = "" then (true, d)
  else if !Path.isUsable path then (false, d)
  else
    let names := (Path.names path).filter (· ≠ "")
    d.makeWithin names ((names.filter (· ≠ ".")).reverse.drop 1)

/-- Removes what is in a directory. -/
def clear (d : Disk) (t : Trail) : Disk :=
  ⟨d.entries.filter fun x => !(t.isPrefixOf x.1 && x.1 ≠ t)⟩

/-- Removes a directory with all it holds. A path that ends in a dot names no entry of its own, so
that the directory is emptied and stays; it stays as well when the path ends in two dots, which is
no failure because the name before them is gone. -/
def removeTree (d : Disk) (path : String) : Bool × Disk :=
  match d.find path with
  | .ok t =>
    if d.entry? t ≠ some .directory then (false, d)
    else match ((Path.names path).filter (· ≠ "")).getLast? with
      | none | some "." => (false, d.clear t)
      | some ".." => (true, d.clear t)
      | some _ => (true, (d.clear t).erase t)
  | .error _ => (false, d)

end Disk

end SqlGateway
