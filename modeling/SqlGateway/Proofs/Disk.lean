import SqlGateway.Disk
import SqlGateway.Proofs.OrderedMap
import SqlGateway.Proofs.Text.Pieces

/-!
# One directory of a disk

The files of one directory, seen as a map from names to contents. Each operation on a file of the
directory is one operation on the map.

Main definitions:

* `Path.IsEntryName`: a name that an entry can have.
* `Disk.Holds`: the files that a directory has, and that it has nothing else.

Main results:

* `Disk.walk_eq_of_directories`: a way to a directory is there as long as its directories are.
* `Disk.Holds.read?_within`, `Disk.Holds.write_within`, `Disk.Holds.remove_within`: single files.
* `Disk.Holds.mem_files?`, `Disk.Holds.removeEach`: all files.
-/

namespace SqlGateway

/-! ## Names -/

namespace Path

/-- A name that an entry of a directory can have. -/
structure IsEntryName (name : String) : Prop where
  not_idle : isIdle name = false
  ne_parent : name ≠ ".."
  no_slash : '/' ∉ name.toList
  short : name.utf8ByteSize ≤ maxNameSize

theorem IsEntryName.ne_empty {name : String} (h : IsEntryName name) : name ≠ "" := by
  intro hempty
  have := h.not_idle
  simp [isIdle, hempty] at this

/-- The names after a slash follow the ones before it. -/
theorem names_ofList_slash (outer : List Char) {name : String} (h : '/' ∉ name.toList) :
    names (String.ofList (outer ++ '/' :: name.toList)) =
      names (String.ofList outer) ++ [name] := by
  have hname : Chars.splitOn '/' name.toList = [name.toList] := by
    rw [Chars.splitOn_eq, List.splitOn_eq_singleton h]
  unfold names
  rw [String.toList_ofList, String.toList_ofList, Chars.splitOn_eq, List.splitOn_append_cons_self,
    ← Chars.splitOn_eq, ← Chars.splitOn_eq, hname, List.map_append]
  simp

/-- A path inside a directory goes by the names of the directory, then by its own. The empty name
after a slash at the end of the directory is gone. -/
theorem names_within {directory name : String} (hdirectory : directory ≠ "")
    (h : '/' ∉ name.toList) :
    ∃ outer, names (within directory name) = outer ++ [name] ∧
      (names directory = outer ∨ names directory = outer ++ [""]) := by
  by_cases hends : directory.endsWith "/" = true
  · rw [String.endsWith_eq_endsWith_toSlice, String.Slice.endsWith_string_iff] at hends
    obtain ⟨outer, houter⟩ := hends
    have hlist : directory.toList = outer ++ ['/'] := by simpa using houter.symm
    have hdir : directory = String.ofList (outer ++ '/' :: "".toList) := by
      rw [← String.ofList_toList (s := directory), hlist]
      rfl
    have hwithin : within directory name = String.ofList (outer ++ '/' :: name.toList) := by
      have hif : directory = "" ∨ directory.endsWith "/" = true := by
        refine Or.inr ?_
        rw [String.endsWith_eq_endsWith_toSlice, String.Slice.endsWith_string_iff]
        exact ⟨outer, houter⟩
      rw [within, if_pos hif, ← String.toList_inj]
      simp [hlist]
    refine ⟨names (String.ofList outer), ?_, Or.inr ?_⟩
    · rw [hwithin, names_ofList_slash outer h]
    · rw [hdir, names_ofList_slash outer (by simp)]
  · have hwithin : within directory name =
        String.ofList (directory.toList ++ '/' :: name.toList) := by
      rw [within, if_neg (by simp [hdirectory, hends]), ← String.toList_inj]
      simp
    refine ⟨names directory, ?_, Or.inl rfl⟩
    rw [hwithin, names_ofList_slash _ h, String.ofList_toList]

end Path

namespace Disk

open SqlGateway.Path (IsEntryName within isUsable)

/-! ## Single entries -/

theorem entry?_erase {d : Disk} {t : Trail} (ht : t ≠ []) (u : Trail) :
    entry? (d.erase t) u = if u = t then none else d.entry? u := by
  unfold entry? erase
  rw [lookup_filter_ne]
  by_cases hu : u = t
  · simp [hu, ht]
  · simp [hu]

theorem entry?_put {d : Disk} {t : Trail} (ht : t ≠ []) (e : DiskEntry) (u : Trail) :
    entry? (d.put t e) u = if u = t then some e else d.entry? u := by
  by_cases hu : u = t
  · simp [ entry?, put, hu, ht]
  · have herase := entry?_erase (d := d) ht u
    rw [if_neg hu] at herase ⊢
    rw [← herase]
    simp [ entry?, put, List.lookup_cons, beq_false_of_ne hu]

/-! ## The way to a directory -/

/-- A name of its own leads to the entry that has it. -/
theorem step_entryName {d : Disk} {t : Trail} {name : String} (hname : IsEntryName name)
    (ht : d.entry? t = some .directory) :
    d.step t name =
      if (d.entry? (t ++ [name])).isNone then .error .missing else .ok (t ++ [name]) := by
  have hsize : ¬ Path.maxNameSize < name.utf8ByteSize := Nat.not_lt.2 hname.short
  simp [step, ht, hname.not_idle, hname.ne_parent, hsize]

/-- What a step that leads somewhere can be: it starts at a directory, and it stays there, goes up,
or goes on to an entry that exists. -/
theorem step_eq_ok_iff {d : Disk} {t u : Trail} {name : String} :
    d.step t name = .ok u ↔ d.entry? t = some .directory ∧
      if Path.isIdle name = true then t = u
      else if name = ".." then t.dropLast = u
      else name.utf8ByteSize ≤ Path.maxNameSize ∧ (d.entry? u).isSome = true ∧
        t ++ [name] = u := by
  unfold step
  by_cases ht : d.entry? t = some .directory
  · simp only [ht, ne_eq, not_true_eq_false, if_false, true_and]
    split
    · simp
    · split
      · simp
      · by_cases hsize : Path.maxNameSize < name.utf8ByteSize
        · simp [hsize, Nat.not_le.2 hsize]
        · rw [if_neg hsize]
          cases hentry : d.entry? (t ++ [name]) with
          | none =>
            simp only [Option.isNone_none, if_true, reduceCtorEq, false_iff]
            rintro ⟨-, hsome, rfl⟩
            simp [hentry] at hsome
          | some e =>
            simp only [Option.isNone_some, Bool.false_eq_true, if_false, Except.ok.injEq]
            constructor
            · rintro rfl
              exact ⟨Nat.not_lt.1 hsize, by simp [hentry], rfl⟩
            · exact fun h => h.2.2
  · simp [ht]

/-- A step to a directory is the same where the directories are still there. -/
theorem step_eq_of_directories {d d' : Disk} {t u : Trail} {name : String}
    (h : d.step t name = .ok u) (hu : d.entry? u = some .directory)
    (hkeep : ∀ v, d.entry? v = some .directory → d'.entry? v = some .directory) :
    d'.step t name = .ok u := by
  rw [step_eq_ok_iff, hu] at h
  rw [step_eq_ok_iff, hkeep u hu]
  exact ⟨hkeep t h.1, h.2⟩

/-- **The way to a directory** stays as it is as long as its directories do. -/
theorem walk_eq_of_directories {d d' : Disk} {names : List String} {u : Trail}
    (h : d.walk names = .ok u) (hu : d.entry? u = some .directory)
    (hkeep : ∀ v, d.entry? v = some .directory → d'.entry? v = some .directory) :
    d'.walk names = .ok u := by
  unfold walk at h ⊢
  generalize ([] : Trail) = t at h ⊢
  induction names generalizing t with
  | nil => exact h
  | cons name names ih =>
    rw [List.foldlM_cons] at h ⊢
    cases hstep : d.step t name with
    | error e => rw [hstep] at h; cases h
    | ok v =>
      rw [hstep] at h
      -- what the step leads to is a directory, because the way goes on from it or ends in one
      have hv : d.entry? v = some .directory := by
        cases names with
        | nil => injection h with h; rwa [h]
        | cons name' names =>
          replace h : (d.step v name' >>= fun w => names.foldlM d.step w) = .ok u := h
          cases hstep' : d.step v name' with
          | error e => rw [hstep'] at h; cases h
          | ok w => exact (step_eq_ok_iff.1 hstep').1
      rw [step_eq_of_directories hstep hv hkeep]
      exact ih v h

/-- A directory is found where the way to it ends. -/
theorem find_eq_ok_iff {d : Disk} {path : String} {t : Trail} :
    d.find path = .ok t ↔ path ≠ "" ∧ isUsable path = true ∧ d.walk (Path.names path) = .ok t := by
  unfold find
  split
  · simp_all
  · split
    · simp_all
    · simp_all

/-! ## The files of a directory -/

/-- A path leads to a directory, at the end of a trail, that has just these files. -/
structure Holds (d : Disk) (directory : String) (t : Trail)
    (contents : String → Option String) : Prop where
  find_eq : d.find directory = .ok t
  entry?_eq : d.entry? t = some .directory
  entry?_append : ∀ name, d.entry? (t ++ [name]) = (contents name).map .file

variable {d : Disk} {directory name : String} {t : Trail} {contents : String → Option String}

/-- The way to a file goes through its directory. -/
theorem Holds.walk_within (h : d.Holds directory t contents) (hname : IsEntryName name) :
    ∃ outer, Path.names (within directory name) = outer ++ [name] ∧ d.walk outer = .ok t := by
  obtain ⟨hne, -, hwalk⟩ := find_eq_ok_iff.1 h.find_eq
  obtain ⟨outer, hnames, hdirectory | hdirectory⟩ := Path.names_within hne hname.no_slash
  · exact ⟨outer, hnames, hdirectory ▸ hwalk⟩
  · refine ⟨outer, hnames, ?_⟩
    -- the empty name after the last slash leads nowhere else
    rw [hdirectory, walk, List.foldlM_append] at hwalk
    unfold walk
    cases houter : outer.foldlM d.step [] with
    | error e => rw [houter] at hwalk; cases hwalk
    | ok u =>
      rw [houter] at hwalk
      replace hwalk : (d.step u "" >>= pure) = .ok t := hwalk
      rw [bind_pure] at hwalk
      have hstay := (step_eq_ok_iff.1 hwalk).2
      rw [if_pos (by decide)] at hstay
      rw [hstay]

theorem Holds.find_within (h : d.Holds directory t contents) (hname : IsEntryName name)
    (husable : isUsable (within directory name) = true) :
    d.find (within directory name) =
      if (contents name).isNone then .error .missing else .ok (t ++ [name]) := by
  obtain ⟨outer, hnames, hwalk⟩ := h.walk_within hname
  have hne : within directory name ≠ "" := by
    intro hempty
    rw [hempty, show Path.names "" = [] ++ [""] by decide] at hnames
    exact hname.ne_empty (List.append_inj_right' hnames.symm rfl |> List.head_eq_of_cons_eq)
  have hstep := step_entryName hname h.entry?_eq
  rw [h.entry?_append, Option.isNone_map] at hstep
  rw [find, if_neg hne, husable, hnames, walk, List.foldlM_append,
    show outer.foldlM d.step [] = .ok t from hwalk]
  show (if (!true) = true then _ else d.step t name >>= pure) = _
  rw [bind_pure, hstep]
  rfl

/-- Reading a file of the directory. -/
theorem Holds.read?_within (h : d.Holds directory t contents) (hname : IsEntryName name)
    (husable : isUsable (within directory name) = true) :
    d.read? (within directory name) = contents name := by
  rw [read?, h.find_within hname husable]
  cases hcontents : contents name with
  | none => rfl
  | some text =>
    have hfile : d.entry? (t ++ [name]) = some (.file text) := by
      rw [h.entry?_append, hcontents]
      rfl
    simp only [Option.isNone_some, Bool.false_eq_true, ↓reduceIte, hfile]

/-- A change of one file changes that file and nothing else. -/
theorem Holds.change {d' : Disk} {text? : Option String} (h : d.Holds directory t contents)
    (hinside : d'.entry? (t ++ [name]) = text?.map .file)
    (houtside : ∀ u, u ≠ t ++ [name] → d'.entry? u = d.entry? u) :
    d'.Holds directory t (Function.update contents name text?) := by
  -- the changed file was no directory
  have hkeep : ∀ v, d.entry? v = some .directory → d'.entry? v = some .directory := by
    intro v hv
    by_cases hne : v = t ++ [name]
    · rw [hne, h.entry?_append] at hv
      cases hcontents : contents name <;> simp [hcontents] at hv
    · rwa [houtside v hne]
  obtain ⟨hne, husable, hwalk⟩ := find_eq_ok_iff.1 h.find_eq
  refine ⟨find_eq_ok_iff.2 ⟨hne, husable, walk_eq_of_directories hwalk h.entry?_eq hkeep⟩,
    hkeep t h.entry?_eq, fun name' => ?_⟩
  by_cases hname : name' = name
  · rw [hname, hinside, Function.update_self]
  · rw [houtside _ (by simp [hname]), h.entry?_append, Function.update_of_ne hname]

/-- Writing a file of the directory. -/
theorem Holds.write_within (h : d.Holds directory t contents) (hname : IsEntryName name)
    (husable : isUsable (within directory name) = true) (text : String) :
    ∃ d', d.write (within directory name) text = (true, d') ∧
      d'.Holds directory t (Function.update contents name (some text)) := by
  obtain ⟨outer, hnames, hwalk⟩ := h.walk_within hname
  have hplace : d.place (Path.names (within directory name)) = .ok (t ++ [name]) := by
    have hstep := step_entryName hname h.entry?_eq
    simp only [hnames, place, List.getLast?_concat, List.dropLast_concat, hwalk, bind, Except.bind,
      hstep]
    cases (d.entry? (t ++ [name])).isNone <;> rfl
  have hfile : d.entry? (t ++ [name]) ≠ some .directory := by
    rw [h.entry?_append]
    cases contents name <;> simp
  refine ⟨d.put (t ++ [name]) (.file text), ?_, h.change ?_ fun u hu => ?_⟩
  · rw [write, husable, hplace]
    exact if_neg hfile
  · rw [entry?_put (by simp), if_pos rfl]
    rfl
  · rw [entry?_put (by simp), if_neg hu]

/-- Removing a file of the directory. -/
theorem Holds.remove_within (h : d.Holds directory t contents) (hname : IsEntryName name)
    (husable : isUsable (within directory name) = true) :
    (d.remove (within directory name)).2.Holds directory t
      (Function.update contents name none) := by
  rw [remove, h.find_within hname husable]
  cases hcontents : contents name with
  | none =>
    have hsame : Function.update contents name none = contents := by
      rw [← hcontents, Function.update_eq_self]
    rw [hsame]
    exact h
  | some text =>
    have hfile : d.entry? (t ++ [name]) = some (.file text) := by
      rw [h.entry?_append, hcontents]
      rfl
    simp only [Option.isNone_some, Bool.false_eq_true, ↓reduceIte, hfile]
    refine h.change ?_ fun u hu => ?_
    · rw [entry?_erase (by simp), if_pos rfl]
      rfl
    · rw [entry?_erase (by simp), if_neg hu]

/-- Removing files of the directory one after the other. -/
theorem Holds.removeEach {names : List String} (h : d.Holds directory t contents)
    (hnames : ∀ name ∈ names, IsEntryName name ∧ isUsable (within directory name) = true) :
    (names.foldl (fun d name => (d.remove (within directory name)).2) d).Holds directory t
      fun name => if name ∈ names then none else contents name := by
  induction names generalizing d contents with
  | nil => simpa using h
  | cons name names ih =>
    obtain ⟨hname, husable⟩ := hnames name (List.mem_cons_self ..)
    have hrest := ih (h.remove_within hname husable) fun name hmem =>
      hnames name (List.mem_cons_of_mem _ hmem)
    have hcontents : (fun name' => if name' ∈ name :: names then none else contents name') =
        fun name' => if name' ∈ names then none else Function.update contents name none name' := by
      funext name'
      by_cases hname' : name' = name
      · simp [hname']
      · simp [hname']
    rw [hcontents]
    exact hrest

/-- The listing of the directory has the names of its files. -/
theorem Holds.mem_files? (h : d.Holds directory t contents) :
    ∃ files, d.files? directory = some files ∧
      ∀ name, name ∈ files.map Prod.fst ↔ (contents name).isSome = true := by
  have hentry : ∀ name, d.entries.lookup (t ++ [name]) = (contents name).map .file := by
    intro name
    have := h.entry?_append name
    rwa [ entry?, if_neg (by simp)] at this
  rw [files?, h.find_eq]
  refine ⟨_, if_pos h.entry?_eq, fun name => ?_⟩
  simp only [List.mem_map, List.mem_mergeSort, List.mem_filterMap]
  constructor
  · rintro ⟨⟨found, text⟩, ⟨⟨u, e⟩, hmem, hfound⟩, rfl⟩
    -- an entry of the list is not always the first one at its trail
    have hu : u = t ++ [found] := by
      cases e with
      | directory => simp at hfound
      | file content =>
        dsimp only at hfound
        split at hfound
        · obtain ⟨last, hlast, heq⟩ := Option.map_eq_some_iff.1 hfound
          injection heq with hname
          have := List.dropLast_append_getLast? _ hlast
          rw [← this, hname, ‹u.dropLast = t›]
        · cases hfound
    by_contra hnone
    rw [Bool.not_eq_true, Option.isSome_eq_false_iff, Option.isNone_iff_eq_none] at hnone
    have hlookup := hentry found
    rw [hnone, Option.map_none, List.lookup_eq_none_iff] at hlookup
    have := hlookup _ hmem
    simp [hu] at this
  · intro hsome
    obtain ⟨text, htext⟩ := Option.isSome_iff_exists.1 hsome
    have hlookup := hentry name
    rw [htext, Option.map_some, List.lookup_eq_some_iff] at hlookup
    obtain ⟨before, after, hentries, -⟩ := hlookup
    exact ⟨(name, text), ⟨(t ++ [name], .file text), by simp [hentries], by simp⟩, rfl⟩

end Disk

end SqlGateway
