import Mathlib.Data.String.Basic
import SqlGateway.Proofs.Disk
import SqlGateway.Proofs.Result.SnapshotText
import SqlGateway.Result.Store

/-!
# Stores in files and in memory

A store of files answers as a store in memory does, call by call, as long as it alone uses its
directory. What ties the two together is the map of the directory's files: the file of a text holds
the snapshot that memory has for it, and no other file is there.

Main definitions:

* `StoreCall`, `ResultStore.call`, `ResultStore.answers`: runs of a store.
* `FileStore.Serves`: the assumptions on the disk and on digests, for the texts of a run.
* `FileStore.filesOf`, `FileStore.Mirrors`: a directory that holds the snapshots of a memory.

Main results:

* `FileStore.Mirrors.call`: one call answers alike and keeps the two stores together.
* `ResultStore.answers_create_eq_inMemory`: a run on an empty directory answers as one in memory.
-/

namespace SqlGateway

/-! ## Names of files -/

namespace Hex

theorem mem_byte {c : Char} {b : UInt8} (h : c ∈ byte false b) : c ∈ "0123456789abcdef".toList := by
  have hdigit : ∀ n < 16, digit false n ∈ "0123456789abcdef".toList := by decide
  have hb := b.toNat_lt
  rcases List.mem_pair.1 h with rfl | rfl
  · exact hdigit _ (by omega)
  · exact hdigit _ (by omega)

end Hex

namespace Digest

theorem length_sha256 (message : List UInt8) : (sha256 message).length = 32 := by
  unfold sha256
  generalize List.foldl State.absorb .start _ = final
  rfl

theorem length_toList_ofText (s : String) : (ofText s).toList.length = 64 := by
  have hbyte : (fun b : UInt8 => (Hex.byte false b).length) = fun _ => 2 := rfl
  rw [ofText, Hex.ofBytes, String.toList_ofList, List.length_flatMap, hbyte, List.map_const',
    length_sha256]
  rfl

theorem mem_ofText {s : String} {c : Char} (h : c ∈ (ofText s).toList) :
    c ∈ "0123456789abcdef".toList := by
  rw [ofText, Hex.ofBytes, String.toList_ofList, List.mem_flatMap] at h
  obtain ⟨b, -, hc⟩ := h
  exact Hex.mem_byte hc

end Digest

namespace FileStore

/-- The name of a statement's file. -/
def fileName (sql : String) : String :=
  Digest.ofText sql ++ ".json"

theorem fileFor_eq (store : FileStore) (sql : String) :
    store.fileFor sql = Path.within store.directory (fileName sql) := rfl

theorem toList_fileName (sql : String) :
    (fileName sql).toList = (Digest.ofText sql).toList ++ ['.', 'j', 's', 'o', 'n'] :=
  String.toList_append

theorem length_toList_fileName (sql : String) : (fileName sql).toList.length = 69 := by
  rw [toList_fileName, List.length_append, Digest.length_toList_ofText]
  rfl

theorem utf8Len_eq_length {cs : List Char} (h : ∀ c ∈ cs, c.utf8Size = 1) :
    String.utf8Len cs = cs.length := by
  induction cs with
  | nil => rfl
  | cons c cs ih =>
    rw [String.utf8Len_cons, ih fun c hc => h c (List.mem_cons_of_mem _ hc),
      h c (List.mem_cons_self ..), List.length_cons]

/-- A file name is a name that an entry can have, whatever the statement. -/
theorem isEntryName_fileName (sql : String) : Path.IsEntryName (fileName sql) := by
  have hlength := length_toList_fileName sql
  have hne : ∀ name : String, name.toList.length < 69 → fileName sql ≠ name := by
    intro name hname heq
    rw [heq] at hlength
    omega
  -- digits and the extension are all ASCII, and none is a slash
  have hchars : ∀ c ∈ (fileName sql).toList, c ∈ "0123456789abcdef.json".toList := by
    intro c hc
    rw [toList_fileName, List.mem_append] at hc
    rcases hc with hc | hc
    · exact List.mem_append_left ".json".toList (Digest.mem_ofText hc)
    · exact List.mem_append_right "0123456789abcdef".toList hc
  refine ⟨?_, hne _ (by decide), fun hslash => ?_, ?_⟩
  · simp [Path.isIdle, hne "" (by decide), hne "." (by decide)]
  · exact absurd (hchars _ hslash) (by decide)
  · have hsize : ∀ c ∈ "0123456789abcdef.json".toList, c.utf8Size = 1 := by simp [Char.utf8Size]
    rw [← String.utf8Len_toList, utf8Len_eq_length fun c hc => hsize c (hchars c hc), hlength]
    decide

theorem fileName?_of_isEntryName {name : String} (h : Path.IsEntryName name) :
    Path.fileName? name = some name := by
  have hnames : Path.names name = [name] := by
    rw [Path.names, Chars.splitOn_eq, List.splitOn_eq_singleton h.no_slash]
    simp
  have hlast : ([name].filter fun n => !Path.isIdle n).getLast? = some name := by
    rw [List.filter_singleton, h.not_idle]
    rfl
  rw [Path.fileName?, hnames, hlast]
  split
  · rename_i hparent
    exact absurd (Option.some.inj hparent) h.ne_parent
  · rfl

theorem extension?_of_isEntryName {name : String} {tail : List Char} (h : Path.IsEntryName name)
    (htail : (name.toList.reverse.takeWhile (· ≠ '.')).reverse = tail)
    (hlonger : tail.length + 1 < name.toList.length) :
    Path.extension? name = some (String.ofList tail) := by
  rw [Path.extension?, fileName?_of_isEntryName h]
  show (if name.toList.length ≤
      ((name.toList.reverse.takeWhile (· ≠ '.')).reverse).length + 1 then none
    else some (String.ofList (name.toList.reverse.takeWhile (· ≠ '.')).reverse)) = _
  rw [htail, if_neg (Nat.not_le.2 hlonger)]

theorem extension?_fileName (sql : String) : Path.extension? (fileName sql) = some "json" := by
  have htail : ((fileName sql).toList.reverse.takeWhile (· ≠ '.')).reverse =
      ['j', 's', 'o', 'n'] := by
    rw [toList_fileName, List.reverse_append]
    rfl
  refine extension?_of_isEntryName (isEntryName_fileName sql) htail ?_
  rw [length_toList_fileName]
  decide

end FileStore

/-! ## Runs -/

/-- A call on a store. -/
inductive StoreCall where
  | read (sql : String)
  | write (sql : String) (snapshot : Snapshot)
  | clear

/-- The text that a call is about. -/
def StoreCall.text? : StoreCall → Option String
  | read sql | write sql _ => some sql
  | clear => none

/-- What a store answers to a call. -/
inductive StoreAnswer where
  | found (snapshot? : Option Snapshot)
  | done (success : Bool)
  deriving DecidableEq

namespace ResultStore

def call (s : ResultStore) (disk : Disk) : StoreCall → StoreAnswer × ResultStore × Disk
  | .read sql =>
    let (snapshot?, disk) := s.read sql disk
    (.found snapshot?, s, disk)
  | .write sql snapshot =>
    let (kept, s, disk) := s.write sql snapshot disk
    (.done kept, s, disk)
  | .clear =>
    let (cleared, s, disk) := s.clear disk
    (.done cleared, s, disk)

/-- The answers to calls made one after the other. -/
def answers (s : ResultStore) (disk : Disk) : List StoreCall → List StoreAnswer
  | [] => []
  | c :: calls =>
    let (answer, s, disk) := s.call disk c
    answer :: s.answers disk calls

end ResultStore

/-! ## A directory that holds what memory does -/

namespace FileStore

/-- What is assumed of the disk and of digests: the disk can be asked for the file of each of these
texts, and no two of them have one digest. -/
structure Serves (store : FileStore) (texts : List String) : Prop where
  isUsable_fileFor : ∀ sql ∈ texts, Path.isUsable (store.fileFor sql) = true
  digest_inj : ∀ a ∈ texts, ∀ b ∈ texts, Digest.ofText a = Digest.ofText b → a = b

/-- The files that hold the snapshots of a memory, for these texts. -/
def filesOf (texts : List String) (entries : OrderedMap Snapshot) (name : String) : Option String :=
  (texts.find? fun sql => fileName sql = name).bind fun sql =>
    (entries.get? sql).map Snapshot.encode

variable {store : FileStore} {texts : List String} {entries : OrderedMap Snapshot} {disk : Disk}
variable {sql : String}

theorem Serves.fileName_inj {a b : String} (hserves : store.Serves texts) (ha : a ∈ texts)
    (hb : b ∈ texts) (h : fileName a = fileName b) : a = b :=
  hserves.digest_inj a ha b hb ((String.append_left_inj _).1 h)

/-- The text of a file is the one that the file is named after. -/
theorem Serves.find?_fileName (hserves : store.Serves texts) (hsql : sql ∈ texts) :
    texts.find? (fun a => fileName a = fileName sql) = some sql := by
  cases hfind : texts.find? fun a => fileName a = fileName sql with
  | none =>
    have := List.find?_eq_none.1 hfind sql hsql
    simp at this
  | some a =>
    have ha : fileName a = fileName sql := by simpa using List.find?_some hfind
    rw [hserves.fileName_inj (List.mem_of_find?_eq_some hfind) hsql ha]

theorem Serves.filesOf_fileName (hserves : store.Serves texts) (hsql : sql ∈ texts) :
    filesOf texts entries (fileName sql) = (entries.get? sql).map Snapshot.encode := by
  rw [filesOf, hserves.find?_fileName hsql, Option.bind_some]

/-- Keeping a snapshot changes one file. -/
theorem Serves.filesOf_insert (hserves : store.Serves texts) (hsql : sql ∈ texts)
    (snapshot : Snapshot) :
    filesOf texts (entries.insert sql snapshot) =
      Function.update (filesOf texts entries) (fileName sql) (some snapshot.encode) := by
  funext name
  by_cases hname : name = fileName sql
  · rw [hname, Function.update_self, hserves.filesOf_fileName hsql, OrderedMap.get?_insert,
      if_pos rfl, Option.map_some]
  · rw [Function.update_of_ne hname]
    unfold filesOf
    cases hfind : texts.find? fun a => fileName a = name with
    | none => rfl
    | some a =>
      have ha : fileName a = name := by simpa using List.find?_some hfind
      have hne : a ≠ sql := by
        rintro rfl
        exact hname ha.symm
      rw [Option.bind_some, Option.bind_some, OrderedMap.get?_insert, if_neg hne]

theorem filesOf_empty (texts : List String) : filesOf texts .empty = fun _ => none := by
  funext name
  unfold filesOf
  cases texts.find? fun a => fileName a = name <;> rfl

/-- Only texts have files. -/
theorem exists_of_filesOf {name : String} (h : (filesOf texts entries name).isSome = true) :
    ∃ sql ∈ texts, fileName sql = name := by
  unfold filesOf at h
  cases hfind : texts.find? fun a => fileName a = name with
  | none => simp [hfind] at h
  | some a => exact ⟨a, List.mem_of_find?_eq_some hfind, by simpa using List.find?_some hfind⟩

/-- The directory of a store holds what a memory does, for these texts. -/
structure Mirrors (store : FileStore) (texts : List String) (entries : OrderedMap Snapshot)
    (disk : Disk) : Prop where
  usable : store.usable = true
  holds : ∃ t, disk.Holds store.directory t (filesOf texts entries)
  storable : ∀ sql snapshot, entries.get? sql = some snapshot → snapshot.Storable

theorem Mirrors.read (h : store.Mirrors texts entries disk) (hserves : store.Serves texts)
    (hsql : sql ∈ texts) : store.read sql disk = (entries.get? sql, disk) := by
  obtain ⟨t, hholds⟩ := h.holds
  have hread : disk.read? (store.fileFor sql) = (entries.get? sql).map Snapshot.encode := by
    rw [fileFor_eq, hholds.read?_within (isEntryName_fileName sql)
      (hserves.isUsable_fileFor sql hsql), hserves.filesOf_fileName hsql]
  rw [FileStore.read, h.usable, hread]
  cases hget : entries.get? sql with
  | none => rfl
  | some snapshot =>
    simp only [Bool.not_true, Bool.false_eq_true, ↓reduceIte, Option.map_some,
      Snapshot.decode?_encode (h.storable sql snapshot hget)]

theorem Mirrors.write {snapshot : Snapshot} (h : store.Mirrors texts entries disk)
    (hserves : store.Serves texts) (hsql : sql ∈ texts) (hsnapshot : snapshot.Storable) :
    ∃ disk', store.write sql snapshot disk = (true, store, disk') ∧
      store.Mirrors texts (entries.insert sql snapshot) disk' := by
  obtain ⟨t, hholds⟩ := h.holds
  obtain ⟨disk', hwrite, hholds'⟩ := hholds.write_within (isEntryName_fileName sql)
    (hserves.isUsable_fileFor sql hsql) snapshot.encode
  rw [← fileFor_eq] at hwrite
  refine ⟨disk', ?_, h.usable, ⟨t, hserves.filesOf_insert hsql snapshot ▸ hholds'⟩, ?_⟩
  · rw [FileStore.write, put, h.usable, hwrite]
    rfl
  · intro a kept hget
    rw [OrderedMap.get?_insert] at hget
    split at hget
    · injection hget with hget
      exact hget ▸ hsnapshot
    · exact h.storable a kept hget

theorem Mirrors.clear (h : store.Mirrors texts entries disk) (hserves : store.Serves texts) :
    ∃ disk', store.clear disk = (true, disk') ∧ store.Mirrors texts .empty disk' := by
  obtain ⟨t, hholds⟩ := h.holds
  obtain ⟨files, hfiles, hmem⟩ := hholds.mem_files?
  let names := (files.map Prod.fst).filter fun name => Path.extension? name = some "json"
  have hnames : ∀ name, name ∈ names ↔ (filesOf texts entries name).isSome = true := by
    intro name
    rw [List.mem_filter, hmem, and_iff_left_iff_imp]
    intro hsome
    obtain ⟨sql, -, rfl⟩ := exists_of_filesOf hsome
    simpa using extension?_fileName sql
  have hproper : ∀ name ∈ names, Path.IsEntryName name ∧
      Path.isUsable (Path.within store.directory name) = true := by
    intro name hname
    obtain ⟨sql, hsql, rfl⟩ := exists_of_filesOf ((hnames name).1 hname)
    exact ⟨isEntryName_fileName sql, hserves.isUsable_fileFor sql hsql⟩
  have hremoved := hholds.removeEach hproper
  have hnone : (fun name => if name ∈ names then none else filesOf texts entries name) =
      filesOf texts .empty := by
    rw [filesOf_empty]
    funext name
    split
    · rfl
    · rename_i hname
      rw [hnames, Bool.not_eq_true, Option.isSome_eq_false_iff] at hname
      exact Option.isNone_iff_eq_none.1 hname
  rw [hnone] at hremoved
  refine ⟨_, ?_, h.usable, ⟨t, hremoved⟩, fun sql snapshot hget => ?_⟩
  · rw [FileStore.clear, hfiles]
  · rw [OrderedMap.get?_empty] at hget
    cases hget

/-- **One call** answers as it does in memory, and the directory goes on holding what memory does.-/
theorem Mirrors.call {c : StoreCall} (h : store.Mirrors texts entries disk)
    (hserves : store.Serves texts) (htext : ∀ sql ∈ c.text?, sql ∈ texts)
    (hstorable : ∀ sql snapshot, c = .write sql snapshot → snapshot.Storable) (disk₀ : Disk) :
    ∃ answer entries' disk',
      (ResultStore.files store).call disk c = (answer, .files store, disk') ∧
      (ResultStore.memory entries).call disk₀ c = (answer, .memory entries', disk₀) ∧
      store.Mirrors texts entries' disk' := by
  cases c with
  | read sql =>
    refine ⟨.found (entries.get? sql), entries, disk, ?_, rfl, h⟩
    show (StoreAnswer.found (store.read sql disk).1, _, (store.read sql disk).2) = _
    rw [h.read hserves (htext sql rfl)]
  | write sql snapshot =>
    obtain ⟨disk', hwrite, hmirrors⟩ :=
      h.write hserves (htext sql rfl) (hstorable sql snapshot rfl)
    refine ⟨.done true, entries.insert sql snapshot, disk', ?_, rfl, hmirrors⟩
    show (StoreAnswer.done (store.write sql snapshot disk).1,
      ResultStore.files (store.write sql snapshot disk).2.1,
      (store.write sql snapshot disk).2.2) = _
    rw [hwrite]
  | clear =>
    obtain ⟨disk', hclear, hmirrors⟩ := h.clear hserves
    refine ⟨.done true, .empty, disk', ?_, rfl, hmirrors⟩
    show (StoreAnswer.done (store.clear disk).1, _, (store.clear disk).2) = _
    rw [hclear]

/-- Every call of a run answers as it does in memory. -/
theorem Mirrors.answers {calls : List StoreCall} (h : store.Mirrors texts entries disk)
    (hserves : store.Serves texts) (htexts : ∀ c ∈ calls, ∀ sql ∈ c.text?, sql ∈ texts)
    (hstorable : ∀ sql snapshot, .write sql snapshot ∈ calls → snapshot.Storable) (disk₀ : Disk) :
    (ResultStore.files store).answers disk calls =
      (ResultStore.memory entries).answers disk₀ calls := by
  induction calls generalizing entries disk with
  | nil => rfl
  | cons c calls ih =>
    obtain ⟨answer, entries', disk', hfiles, hmemory, hmirrors⟩ :=
      h.call hserves (htexts c (List.mem_cons_self ..))
        (fun sql snapshot hc => hstorable sql snapshot (hc ▸ List.mem_cons_self ..)) disk₀
    have hrest := ih hmirrors (fun c hc => htexts c (List.mem_cons_of_mem _ hc))
      fun sql snapshot hc => hstorable sql snapshot (List.mem_cons_of_mem _ hc)
    rw [ResultStore.answers, hfiles, ResultStore.answers, hmemory]
    exact congrArg _ hrest

end FileStore

namespace ResultStore

/-- **Files answer as memory does.** A usable store of files gives the same answers as a store in
memory to every run of calls, if its directory is empty at first, the disk can be asked for the
files of the run's texts, these have different digests, and the snapshots are ones that files can
hold. -/
theorem answers_create_eq_inMemory {directory : String} {disk : Disk} {calls : List StoreCall}
    (husable : (FileStore.create directory disk).1.usable = true)
    (hempty : ∃ t, (FileStore.create directory disk).2.Holds directory t fun _ => none)
    (hserves : (FileStore.create directory disk).1.Serves (calls.filterMap StoreCall.text?))
    (hstorable : ∀ sql snapshot, .write sql snapshot ∈ calls → snapshot.Storable) :
    (files (FileStore.create directory disk).1).answers (FileStore.create directory disk).2 calls =
      inMemory.answers disk calls := by
  have hmirrors : (FileStore.create directory disk).1.Mirrors (calls.filterMap StoreCall.text?)
      .empty (FileStore.create directory disk).2 :=
    { usable := husable
      holds := by
        rw [FileStore.filesOf_empty]
        exact hempty
      storable := by
        intro sql snapshot hget
        rw [OrderedMap.get?_empty] at hget
        cases hget }
  exact hmirrors.answers hserves
    (fun c hc sql hsql => List.mem_filterMap.2 ⟨c, hc, hsql⟩) hstorable disk

/-- A run that keeps two results, forgets them, and asks for them in between. -/
def sampleRun : List StoreCall := [
  .write "SELECT 1" ⟨["a", "ü"], [[.int 7, .bytes []], [.text "[]"]], 2⟩,
  .read "SELECT 2",
  .read "SELECT 1",
  .write "SELECT 2" ⟨[], [[.bytes [255], .null, .bool true]], 0⟩,
  .clear,
  .read "SELECT 1"]

theorem answers_create_cache :
    ((FileStore.create "cache" .empty).1.usable = true ∧
      (∃ t, (FileStore.create "cache" .empty).2.Holds "cache" t fun _ => none) ∧
      (FileStore.create "cache" .empty).1.Serves (sampleRun.filterMap StoreCall.text?) ∧
      ∀ sql snapshot, .write sql snapshot ∈ sampleRun → snapshot.Storable) ∧
    (files (FileStore.create "cache" .empty).1).answers (FileStore.create "cache" .empty).2
      sampleRun = inMemory.answers .empty sampleRun := by
  have hcreate : FileStore.create "cache" .empty =
      (⟨"cache", true⟩, ⟨[(["cache"], .directory)]⟩) := rfl
  have hempty : ∃ t, (FileStore.create "cache" .empty).2.Holds "cache" t fun _ => none := by
    rw [hcreate]
    refine ⟨["cache"], rfl, rfl, fun name => ?_⟩
    simp [ Disk.entry?, List.lookup_cons]
  have htexts : ∀ sql ∈ sampleRun.filterMap StoreCall.text?,
      sql = "SELECT 1" ∨ sql = "SELECT 2" := by decide
  have hserves :
      (FileStore.create "cache" .empty).1.Serves (sampleRun.filterMap StoreCall.text?) := by
    have hne : Digest.ofText "SELECT 1" ≠ Digest.ofText "SELECT 2" := by decide +kernel
    rw [hcreate]
    constructor
    · intro sql hsql
      rcases htexts sql hsql with rfl | rfl <;> decide +kernel
    · intro a ha b hb
      rcases htexts a ha with rfl | rfl <;> rcases htexts b hb with rfl | rfl <;>
        simp [hne, hne.symm]
  have hstorable : ∀ sql snapshot, .write sql snapshot ∈ sampleRun → snapshot.Storable := by
    intro sql snapshot hmem
    have hsnapshot : snapshot = ⟨["a", "ü"], [[.int 7, .bytes []], [.text "[]"]], 2⟩ ∨
        snapshot = ⟨[], [[.bytes [255], .null, .bool true]], 0⟩ := by
      simp only [sampleRun, List.mem_cons, StoreCall.write.injEq, reduceCtorEq, List.not_mem_nil,
        false_or, or_false] at hmem
      exact hmem.imp And.right And.right
    rcases hsnapshot with rfl | rfl <;> constructor <;> simp [Value.IsExact, Json.maxUnsigned]
  exact ⟨⟨rfl, hempty, hserves, hstorable⟩,
    answers_create_eq_inMemory rfl hempty hserves hstorable⟩

end ResultStore

end SqlGateway
