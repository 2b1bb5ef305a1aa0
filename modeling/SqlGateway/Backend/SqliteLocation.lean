import SqlGateway.Backend.SqliteError
import SqlGateway.Disk
import SqlGateway.Text.Hex
import SqlGateway.Text.Utf8

/-!
# Where a SQLite database lies

A database is named by the path of a file, by `:memory:`, or by a URI with the scheme `file`. The
options of a URI choose the file system and the access, which they can narrow and not widen.

Main definitions:

* `SqliteLocation.ofName`: what a name means.
* `SqliteLocation.prepare`: the disk once the database is open, which has its file if there is one.
-/

namespace SqlGateway

/-- What a connection may do with the file of its database. -/
inductive SqliteAccess where
  | readOnly
  | readWrite
  /-- Reading and writing, and making the file if it is missing. -/
  | create
  /-- There is no file. -/
  | memory
  deriving DecidableEq, Repr

namespace SqliteAccess

def ofWord? (word : String) : Option SqliteAccess :=
  if word = "ro" then some readOnly
  else if word = "rw" then some readWrite
  else if word = "rwc" then some create
  else if word = "memory" then some memory
  else none

/-- The order of the accesses: the next one must not be above the one before. -/
def rank : SqliteAccess → Nat
  | readOnly => 0
  | readWrite => 1
  | create => 2
  | memory => 3

/-- A database in memory is always allowed, and once it is chosen everything is. -/
def allows (now next : SqliteAccess) : Bool :=
  next = memory || next.rank ≤ now.rank

end SqliteAccess

structure SqliteLocation where
  /-- The text that names the database. -/
  name : String
  path : String
  access : SqliteAccess
  /-- The engine's word for the way in which files are reached. -/
  fileSystem : String
  /-- A file whose permissions a new file takes. -/
  permissionsOf : Option String
  deriving DecidableEq, Repr

namespace SqliteLocation

def ofPath (name path : String) : SqliteLocation :=
  ⟨name, path, .create, "unix", none⟩

/-! ## URIs -/

/-- The bytes of a part of a URI, in which a percent sign with two digits is a byte. A byte of zero
ends the part. -/
def partBytes : List Char → List UInt8
  | '%' :: a :: b :: cs =>
    match Hex.value? a, Hex.value? b with
    | some 0, some 0 => []
    | some high, some low => UInt8.ofNat (high * 16 + low) :: partBytes cs
    | _, _ => String.utf8EncodeChar '%' ++ partBytes (a :: b :: cs)
  | c :: cs => String.utf8EncodeChar c ++ partBytes cs
  | [] => []

def partText (cs : List Char) : String :=
  Utf8.decodeLossy (partBytes cs)

/-- The options of a URI with their values. One without a name is none. -/
def options (query : List Char) : List (String × String) :=
  (Chars.splitOn '&' query).filterMap fun option =>
    let (name, value) := Chars.breakAt '=' option
    if partText name = "" then none else some (partText name, partText (value.drop 1))

/-- Follows an option of a URI. -/
def applyOption (l : SqliteLocation) (option : String × String) :
    Except SqliteError SqliteLocation :=
  let (name, value) := option
  if name = "vfs" then .ok { l with fileSystem := value }
  else if name = "cache" then
    if value = "shared" ∨ value = "private" then .ok l
    else .error (.failure 1 ("no such cache mode: " ++ value))
  else if name = "mode" then
    match SqliteAccess.ofWord? value with
    | none => .error (.failure 1 ("no such access mode: " ++ value))
    | some access =>
      if l.access.allows access then .ok { l with access }
      else .error (.failure 3 ("access mode not allowed: " ++ value))
  else .ok l

/-- The rest of a URI behind its authority, which stands between two slashes and the next one and is
either empty or the local host. -/
def afterAuthority : List Char → Except SqliteError (List Char)
  | '/' :: '/' :: cs =>
    let (authority, rest) := Chars.breakAt '/' cs
    if authority = [] ∨ authority = "localhost".toList then .ok rest
    else .error (.failure 1 ("invalid uri authority: " ++ String.ofList authority))
  | cs => .ok cs

/-- The ways to reach files that the engine knows. -/
def fileSystems : List String :=
  ["unix", "unix-none", "unix-dotfile", "unix-excl", "memdb"]

/-- What a URI means, given the text behind its scheme. -/
def ofUri (name : String) (cs : List Char) : Except SqliteError SqliteLocation := do
  let text := (← afterAuthority cs).takeWhile (· ≠ '#')
  let (path, query) := Chars.breakAt '?' text
  let options := options (query.drop 1)
  let l ← options.foldlM applyOption (ofPath name (partText path))
  if fileSystems.contains l.fileSystem then
    return { l with permissionsOf := options.lookup "modeof" }
  else throw (.failure 1 ("no such vfs: " ++ l.fileSystem))

/-- What a name means. -/
def ofName (name : String) : Except SqliteError SqliteLocation :=
  if name.toList.contains '\x00' then
    let before := String.ofList (name.toList.takeWhile (· ≠ '\x00'))
    .error (.badPath
      ("nul byte found in provided data at position: " ++ toString before.utf8ByteSize))
  else match Chars.afterLead? "file:".toList name.toList with
    | some cs => ofUri name cs
    | none => .ok (ofPath name name)

/-! ## Opening -/

def cannotOpen (l : SqliteLocation) : SqliteError :=
  .failure 14 ("unable to open database file: " ++ l.name)

/-- The absolute path with the given names. -/
def fullPath (names : List String) : String :=
  String.join (names.map ("/" ++ ·))

/-- The trail of the file. Two dots go back in the text of the path, whether or not the name before
them is there; but no name may be looked up behind a file, and the whole path has at most 504
bytes, to which the engine adds the ending of a companion file. -/
def trail? (l : SqliteLocation) (disk : Disk) : Option Trail := do
  let names ← (Path.names l.path).foldlM (fun names name =>
    if Path.isIdle name then some names
    else if name = ".." then some names.dropLast
    else
      let longer := names ++ [name]
      if 512 ≤ (fullPath longer).utf8ByteSize ∨ disk.isBlocked longer then none else some longer) []
  if names = [] ∨ 504 < (fullPath names).utf8ByteSize then none else some names

/-- Makes sure that the file is there and can be opened. -/
def prepareFile (l : SqliteLocation) (disk : Disk) : Except SqliteError Disk :=
  match l.trail? disk with
  | none => .error l.cannotOpen
  | some trail =>
    if l.permissionsOf.any fun path => !disk.contains path then
      .error (.failure 10 "disk I/O error")
    else match disk.entry? trail with
      | some (.file _) => .ok disk
      | some .directory =>
        if l.access = .readOnly then .error (.failure 10 "disk I/O error")
        else .error l.cannotOpen
      | none =>
        if l.access = .create ∧ disk.entry? trail.dropLast = some .directory then
          .ok (disk.put trail (.file ""))
        else .error l.cannotOpen

/-- The disk once the database is open. A database in memory leaves no trace on it. -/
def prepare (l : SqliteLocation) (disk : Disk) : Except SqliteError Disk :=
  if l.path = "" ∨ l.path = ":memory:" ∨ l.access = .memory then .ok disk
  else if l.fileSystem = "memdb" then
    if l.path.utf8ByteSize ≤ 1016 then .ok disk else .error l.cannotOpen
  else l.prepareFile disk

end SqliteLocation

end SqlGateway
