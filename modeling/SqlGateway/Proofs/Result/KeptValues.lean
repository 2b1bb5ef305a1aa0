import SqlGateway.Proofs.Result.Stores

/-!
# Which values a file keeps

A result in memory is kept as it is, one in a file as a text. A value comes back from its text as
the same value of the same kind, doubles included, as far as their numerals are read as the same
doubles. But a double that is infinite or no number has no numeral, and comes back as nothing, so a
result with such a double is not the one that was read.

Main definitions:

* `Value.hasForm`: a value with a JSON form of its own.
* `Value.Same`: equal values, where all that is no number counts as equal.

Main result:

* `FileStore.values_kept`: what comes back for a value, for a snapshot, and from a file.
-/

namespace SqlGateway

namespace Value

/-- Any value but a double that is infinite or no number. -/
def hasForm : Value → Bool
  | real x => x.isFinite
  | _ => true

def isNaN : Value → Bool
  | real x => x.isNaN
  | _ => false

/-- Equal values of the same kind. Whatever is no number is the same double. -/
def Same (v w : Value) : Prop :=
  v = w ∨ v.isNaN = true ∧ w.isNaN = true

instance (v w : Value) : Decidable (v.Same w) :=
  inferInstanceAs (Decidable (_ ∨ _))

theorem kept_of_hasForm {v : Value} (h : v.hasForm = true) : v.kept = v := by
  cases v with
  | real x => exact if_pos h
  | _ => rfl

theorem kept_of_not_hasForm {v : Value} (h : v.hasForm = false) : v.kept = null := by
  cases v with
  | real x => exact if_neg (Bool.eq_false_iff.1 h)
  | _ => cases h

theorem same_kept_iff {v : Value} : v.kept.Same v ↔ v.hasForm = true := by
  cases hform : v.hasForm with
  | true =>
    rw [kept_of_hasForm hform]
    exact iff_of_true (.inl rfl) rfl
  | false =>
    refine iff_of_false (fun hsame => ?_) Bool.false_ne_true
    rw [kept_of_not_hasForm hform] at hsame
    rcases hsame with hnull | ⟨hnumber, -⟩
    · -- nothing has a form of its own
      rw [← hnull] at hform
      cases hform
    · cases hnumber

theorem kept_eq_iff {v : Value} : v.kept = v ↔ v.hasForm = true :=
  ⟨fun h => same_kept_iff.1 (.inl h), kept_of_hasForm⟩

/-- What comes back from the text of a value by itself. -/
theorem ofJson?_parse?_kept {v : Value} (h : v.PrintedBack) :
    (Json.parse? v.toJson.compact.toList).bind ofJson? = some v.kept := by
  rw [Json.compact, String.toList_ofList, Json.parse?_chars v.legible_toJson, Option.bind_some,
    ofJson?_toJson_kept h]

end Value

theorem Snapshot.kept_eq_iff {s : Snapshot} :
    s.kept = s ↔ ∀ row ∈ s.rows, ∀ v ∈ row, v.hasForm = true := by
  have hsame {α : Type} {f : α → α} (xs : List α) : xs.map f = xs ↔ ∀ x ∈ xs, f x = x := by
    have hmap := @List.map_inj_left α α xs f id
    rwa [List.map_id] at hmap
  have hrows : s.kept = s ↔ s.rows.map (List.map Value.kept) = s.rows := by
    obtain ⟨columns, rows, numRows⟩ := s
    rw [kept, Snapshot.mk.injEq]
    exact ⟨fun h => h.2.1, fun h => ⟨rfl, h, rfl⟩⟩
  simp only [hrows, hsame, Value.kept_eq_iff]

namespace FileStore

/-- A file that has been written is read. -/
theorem read_written {store : FileStore} {disk : Disk} {t : Trail}
    {contents : String → Option String} {sql : String} {s : Snapshot}
    (husable : store.usable = true) (hholds : disk.Holds store.directory t contents)
    (hfile : Path.isUsable (store.fileFor sql) = true)
    (hvalues : ∀ row ∈ s.rows, ∀ v ∈ row, v.PrintedBack) (hcount : s.numRows ≤ Json.maxUnsigned) :
    ∃ written, store.write sql s disk = (true, store, written) ∧
      store.read sql written = (some s.kept, written) := by
  obtain ⟨written, hwrite, hholds'⟩ :=
    hholds.write_within (isEntryName_fileName sql) hfile s.encode
  have hread := hholds'.read?_within (isEntryName_fileName sql) hfile
  rw [Function.update_self] at hread
  rw [← fileFor_eq] at hwrite hread
  refine ⟨written, ?_, ?_⟩
  · rw [FileStore.write, put, husable, hwrite]
    rfl
  · rw [FileStore.read, husable, hread]
    simp only [Bool.not_true, Bool.false_eq_true, ↓reduceIte,
      Snapshot.decode?_encode_kept hvalues hcount]

/-- **What a file keeps.** A value comes back from its text as the same value of the same kind, if
and only if it is no double that is infinite or no number; such a double comes back as nothing. So a
snapshot comes back, from its text and from the file of its statement, with nothing in the place of
each such double, and it is the same snapshot if and only if there is none. It is assumed of each
double that has a numeral that this numeral is read as that double. -/
theorem values_kept (v : Value) (s : Snapshot) :
    (v.PrintedBack →
      (Json.parse? v.toJson.compact.toList).bind Value.ofJson? = some v.kept ∧
        (v.kept.Same v ↔ v.hasForm = true)) ∧
    ((∀ row ∈ s.rows, ∀ v ∈ row, v.PrintedBack) → s.numRows ≤ Json.maxUnsigned →
      Snapshot.decode? s.encode = some s.kept ∧
        (s.kept = s ↔ ∀ row ∈ s.rows, ∀ v ∈ row, v.hasForm = true) ∧
        ∀ (store : FileStore) (disk : Disk) (t : Trail) (contents : String → Option String)
          (sql : String), store.usable = true → disk.Holds store.directory t contents →
          Path.isUsable (store.fileFor sql) = true →
          ∃ written, store.write sql s disk = (true, store, written) ∧
            store.read sql written = (some s.kept, written)) := by
  refine ⟨fun hprinted => ⟨Value.ofJson?_parse?_kept hprinted, Value.same_kept_iff⟩,
    fun hvalues hcount => ⟨Snapshot.decode?_encode_kept hvalues hcount, Snapshot.kept_eq_iff, ?_⟩⟩
  intro store disk t contents sql husable hholds hfile
  exact read_written husable hholds hfile hvalues hcount

/-- One value of each kind, with the greatest and the least 64-bit integer, a fraction, minus zero,
the least double and one that is a whole number. -/
def sampleRow : List Value :=
  [.null, .bool true, .int Int64.maxValue, .int Int64.minValue, .real ⟨0x3FF8000000000000⟩,
    .real ⟨0x8000000000000000⟩, .real ⟨1⟩, .real ⟨0x4341C37937E08000⟩, .text "1.5", .bytes [0, 255]]

/-- The sample comes back from a file in a new directory. -/
theorem values_kept_sample :
    let s : Snapshot := ⟨["a", "b"], [sampleRow], 1⟩
    let store := (FileStore.create "cache" .empty).1
    let disk := (FileStore.create "cache" .empty).2
    (∀ row ∈ s.rows, ∀ v ∈ row, v.PrintedBack) ∧
      (∀ row ∈ s.rows, ∀ v ∈ row, v.hasForm = true) ∧
      (∀ v ∈ sampleRow, (Json.parse? v.toJson.compact.toList).bind Value.ofJson? = some v) ∧
      Snapshot.decode? s.encode = some s ∧
      ∃ written, store.write "SELECT 1" s disk = (true, store, written) ∧
        store.read "SELECT 1" written = (some s, written) := by
  intro s store disk
  have hvalues : ∀ row ∈ s.rows, ∀ v ∈ row, v.PrintedBack := by decide +kernel
  have hforms : ∀ row ∈ s.rows, ∀ v ∈ row, v.hasForm = true := by decide +kernel
  have hcreate : FileStore.create "cache" .empty =
      (⟨"cache", true⟩, ⟨[(["cache"], .directory)]⟩) := rfl
  have hholds : (FileStore.create "cache" .empty).2.Holds "cache" ["cache"] fun _ => none := by
    rw [hcreate]
    exact ⟨rfl, rfl, fun name => by simp [Disk.entry?, List.lookup_cons]⟩
  have hparsed : ∀ v ∈ sampleRow,
      (Json.parse? v.toJson.compact.toList).bind Value.ofJson? = some v := by
    intro v hv
    have hrow : sampleRow ∈ s.rows := List.mem_singleton_self _
    obtain ⟨hback, -⟩ := (values_kept v s).1 (hvalues _ hrow v hv)
    rw [hback, Value.kept_of_hasForm (hforms _ hrow v hv)]
  obtain ⟨hdecode, hsame, hfiles⟩ := (values_kept .null s).2 hvalues (by decide)
  rw [hsame.2 hforms] at hdecode
  refine ⟨hvalues, hforms, hparsed, hdecode, ?_⟩
  have hread := hfiles store disk ["cache"] _ "SELECT 1" rfl hholds (by decide +kernel)
  rwa [hsame.2 hforms] at hread

/-- An infinite double comes back as nothing. -/
theorem values_kept_infinite :
    let infinite : Value := .real ⟨0x7FF0000000000000⟩
    let s : Snapshot := ⟨["x"], [[infinite]], 1⟩
    (Json.parse? infinite.toJson.compact.toList).bind Value.ofJson? = some .null ∧
      ¬Value.null.Same infinite ∧
      Snapshot.decode? s.encode = some ⟨["x"], [[.null]], 1⟩ ∧
      Snapshot.decode? s.encode ≠ some s := by
  decide +kernel

end FileStore

end SqlGateway
