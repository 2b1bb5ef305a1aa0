import Mathlib.Data.List.Nodup
import Mathlib.Data.List.Perm.Subperm
import SqlGateway.Proofs.OrderedMap
import SqlGateway.Proofs.Query.RefusedWrites
import SqlGateway.Proofs.Sql.Swapping

/-!
# Batches of rows

The rows of a batch insert are queued by one call or by several. Each call asks of its rows that
they have the columns of its first row, and puts their values into that order. The statements list
the columns of the first row of the whole queue. So a row of the first call that has rows is aligned
with what is listed; a row of another call is if that call lists the same columns in the same order,
and otherwise only where its values happen to be the same.

Main definitions:

* `Builder.columnsOf`, `Builder.EvenRows`: the columns of a call, and that all its rows have them.
* `Builder.queueOf`: the queue that calls make.
* `Builder.batchTexts`: the statements that a queue is sent as.
* `Builder.Aligned`: a row has one value for each listed column, its own.

Main results:

* `Builder.lengths_chunks`: how a queue is cut.
* `Builder.queueInserts_eq_ok_iff`, `Builder.queueAll_eq_ok_iff`: what calls queue.
* `Builder.insertBatch_eq`, `Builder.mem_statements_insertBatch`: what a batch insert sends.
* `Builder.batches_aligned`: the tuples in what is sent, and which of them are aligned.
-/

namespace SqlGateway.Builder

/-! ## Cutting -/

section
variable {α : Type} {size : Nat} {chunk xs : List α}

theorem mem_dropLast_cons {x y : α} (h : x ∈ (y :: xs).dropLast) : x = y ∨ x ∈ xs.dropLast := by
  cases xs with
  | nil => cases h
  | cons z zs => exact List.mem_cons.1 h

theorem lengths_chunksFrom (hchunk : chunk.length < size) :
    (∀ stretch ∈ chunksFrom size chunk xs, stretch ≠ [] ∧ stretch.length ≤ size) ∧
      ∀ stretch ∈ (chunksFrom size chunk xs).dropLast, stretch.length = size := by
  -- the stretch that is being gathered is not full yet, which carries the induction
  induction xs generalizing chunk with
  | nil =>
    cases chunk with
    | nil => exact ⟨nofun, nofun⟩
    | cons x chunk =>
      refine ⟨fun stretch h => ?_, nofun⟩
      obtain rfl := List.mem_singleton.1 h
      exact ⟨by simp, by simpa using Nat.le_of_lt hchunk⟩
  | cons x xs ih =>
    rw [chunksFrom]
    split
    · next hfull =>
      have hnil : ([] : List α).length < size := Nat.zero_lt_of_lt hchunk
      have hlength : (x :: chunk).reverse.length = size := by
        rw [List.length_reverse, List.length_cons]
        exact Nat.le_antisymm hchunk hfull
      constructor
      · intro stretch h
        rcases List.mem_cons.1 h with rfl | h
        · exact ⟨by simp, Nat.le_of_eq hlength⟩
        · exact (ih hnil).1 stretch h
      · intro stretch h
        rcases mem_dropLast_cons h with rfl | h
        · exact hlength
        · exact (ih hnil).2 stretch h
    · next hshort => exact ih (Nat.not_le.1 hshort)

/-- No stretch is empty or longer than it may be, and none but the last is shorter. -/
theorem lengths_chunks (hsize : 0 < size) (xs : List α) :
    (∀ stretch ∈ chunks size xs, stretch ≠ [] ∧ stretch.length ≤ size) ∧
      ∀ stretch ∈ (chunks size xs).dropLast, stretch.length = size :=
  lengths_chunksFrom (by simpa using hsize)

theorem chunksFrom_map {β : Type} (f : α → β) (chunk xs : List α) :
    chunksFrom size (chunk.map f) (xs.map f) = (chunksFrom size chunk xs).map (List.map f) := by
  induction xs generalizing chunk with
  | nil => cases chunk <;> simp [chunksFrom]
  | cons x xs ih =>
    rw [List.map_cons, chunksFrom, chunksFrom, List.length_map, ← List.map_cons]
    split
    · exact congrArg₂ List.cons List.map_reverse.symm (ih [])
    · exact ih (x :: chunk)

/-- Stretches of images are images of stretches. -/
theorem chunks_map {β : Type} (f : α → β) (xs : List α) :
    chunks size (xs.map f) = (chunks size xs).map (List.map f) :=
  chunksFrom_map f [] xs

end

/-! ## Rows of a call -/

/-- The columns of the first row. -/
def columnsOf (rows : List Record) : List String :=
  (rows.head?.map OrderedMap.keys).getD []

/-- All rows have the columns of the first one. -/
def EvenRows (rows : List Record) : Prop :=
  ∀ row ∈ rows, hasColumns (columnsOf rows) row = true

/-- The rows of a call as they are queued. -/
def insertRows (style : Style) (rows : List Record) : List (List (String × String)) :=
  rows.map (insertRow style (columnsOf rows))

/-- The columns of the first row as statements list them. -/
def listedColumns (style : Style) (rows : List Record) : List String :=
  (columnsOf rows).map style.rules.quoteName

variable {style : Style} {b c : Builder} {rows : List Record} {row : Record}

/-- A row with these columns has no others. -/
theorem perm_keys_of_hasColumns {keys : List String} (hkeys : keys.Nodup)
    (h : hasColumns keys row = true) : keys.Perm row.keys := by
  obtain ⟨hsize, hall⟩ := Bool.and_eq_true_iff.1 h
  have hsubset : keys ⊆ row.keys := by
    intro key hkey
    refine OrderedMap.mem_keys_iff.2 (Option.isSome_iff_exists.1 ?_)
    exact List.all_eq_true.1 hall key hkey
  have hlength : row.keys.length = keys.length := by
    rw [OrderedMap.keys, keysOf, List.length_map]
    exact of_decide_eq_true hsize
  -- all columns are among the keys, and there are no more keys than columns
  exact (List.subperm_of_subset hkeys hsubset).perm_of_length_le (Nat.le_of_eq hlength)

theorem nodup_columnsOf (rows : List Record) : (columnsOf rows).Nodup := by
  cases rows with
  | nil => exact List.nodup_nil
  | cons first rest => exact first.nodup

/-- A row of a call whose rows are even has a value for each column of the call, and no others. -/
theorem EvenRows.perm_keys (h : EvenRows rows) (hrow : row ∈ rows) :
    (columnsOf rows).Perm row.keys :=
  perm_keys_of_hasColumns (nodup_columnsOf rows) (h row hrow)

theorem columns_insertRow (style : Style) (keys : List String) (row : Record) :
    (insertRow style keys row).map Prod.fst = keys.map style.rules.quoteName := by
  rw [insertRow, List.map_map]
  rfl

/-! ## Queueing -/

/-- A call queues its rows if they are even, and nothing else changes. -/
theorem queueInserts_eq_ok_iff :
    b.queueInserts style rows = .ok c ↔
      EvenRows rows ∧ c = { b with batch := b.batch ++ insertRows style rows } := by
  cases rows with
  | nil =>
    have hsame : { b with batch := b.batch ++ [] } = b := by rw [List.append_nil]
    show Except.ok b = Except.ok c ↔ EvenRows [] ∧ c = { b with batch := b.batch ++ [] }
    rw [hsame, Except.ok.injEq, eq_comm]
    exact (and_iff_right nofun).symm
  | cons first rest =>
    have heven : (first :: rest).all (hasColumns first.keys) = true ↔ EvenRows (first :: rest) :=
      List.all_eq_true
    unfold queueInserts
    dsimp only
    split
    · next hall =>
      rw [Except.ok.injEq, eq_comm]
      exact (and_iff_right (heven.1 hall)).symm
    · next hall => exact iff_of_false nofun fun h => hall (heven.2 h.1)

/-- Steps of which each one succeeds exactly if something holds of its input, and then does what it
does, do all of it exactly if this holds of all inputs. -/
theorem foldlM_eq_ok_iff {α β ε : Type} {step : β → α → Except ε β} {accepts : α → Prop}
    {next : β → α → β} (hstep : ∀ b x c, step b x = .ok c ↔ accepts x ∧ c = next b x)
    {xs : List α} {b c : β} :
    xs.foldlM step b = .ok c ↔ (∀ x ∈ xs, accepts x) ∧ c = xs.foldl next b := by
  induction xs generalizing b with
  | nil =>
    show Except.ok b = Except.ok c ↔ _ ∧ c = b
    rw [Except.ok.injEq, eq_comm]
    exact (and_iff_right nofun).symm
  | cons x xs ih =>
    rw [List.foldlM_cons, List.forall_mem_cons, List.foldl_cons]
    cases hfirst : step b x with
    | error r =>
      refine iff_of_false nofun fun ⟨haccepts, _⟩ => ?_
      have hok : step b x = .ok (next b x) := (hstep b x _).2 ⟨haccepts.1, rfl⟩
      rw [hfirst] at hok
      cases hok
    | ok b₁ =>
      obtain ⟨haccepts, rfl⟩ := (hstep b x b₁).1 hfirst
      rw [and_iff_right haccepts]
      exact ih

/-- Queues the rows of several calls, one call after the other. -/
def queueAll (style : Style) (b : Builder) (calls : List (List Record)) : Except Refusal Builder :=
  calls.foldlM (queueInserts style) b

/-- The queue that calls make: the rows of each in the order of its own columns. -/
def queueOf (style : Style) (calls : List (List Record)) : List (List (String × String)) :=
  calls.flatMap (insertRows style)

theorem queueAll_eq_ok_iff {calls : List (List Record)} :
    b.queueAll style calls = .ok c ↔
      (∀ rows ∈ calls, EvenRows rows) ∧ c = { b with batch := b.batch ++ queueOf style calls } := by
  have hall : calls.foldl (fun b rows => { b with batch := b.batch ++ insertRows style rows }) b =
      { b with batch := b.batch ++ queueOf style calls } := by
    induction calls generalizing b with
    | nil => rw [List.foldl_nil, show queueOf style [] = [] from rfl, List.append_nil]
    | cons rows calls ih =>
      rw [List.foldl_cons, ih]
      show { b with batch := (b.batch ++ insertRows style rows) ++ queueOf style calls } =
        { b with batch := b.batch ++ (insertRows style rows ++ queueOf style calls) }
      rw [List.append_assoc]
  have hcall (b : Builder) (rows : List Record) (c : Builder) :
      b.queueInserts style rows = .ok c ↔
        EvenRows rows ∧ c = { b with batch := b.batch ++ insertRows style rows } :=
    queueInserts_eq_ok_iff
  rw [← hall]
  exact foldlM_eq_ok_iff hcall

/-- A queued row is one that a call has brought, with all of its values and no others. -/
theorem mem_queueOf {calls : List (List Record)} (heven : ∀ rows ∈ calls, EvenRows rows)
    {row : List (String × String)} (h : row ∈ queueOf style calls) :
    ∃ rows ∈ calls, ∃ record ∈ rows,
      row = insertRow style (columnsOf rows) record ∧ (columnsOf rows).Perm record.keys := by
  obtain ⟨rows, hrows, hrow⟩ := List.mem_flatMap.1 h
  obtain ⟨record, hrecord, rfl⟩ := List.mem_map.1 hrow
  exact ⟨rows, hrows, record, hrecord, rfl, (heven rows hrows).perm_keys hrecord⟩

/-- The columns of the first row of the queue. -/
theorem columns_headD_queueOf (style : Style) (calls : List (List Record)) :
    ((queueOf style calls).headD []).map Prod.fst = listedColumns style calls.flatten := by
  induction calls with
  | nil => rfl
  | cons rows calls ih =>
    cases rows with
    | nil => exact ih
    | cons first rest => exact columns_insertRow style first.keys first

/-! ## Sending -/

/-- The statements that a queue is sent as. All list the columns of the first row of the queue. -/
def batchTexts (style : Style) (table : String) (queue : List (List (String × String))) :
    List String :=
  (chunks chunkSize queue).map fun rows =>
    style.dialect.insertText (batchInsert table ((queue.headD []).map Prod.fst) rows)

/-- A batch insert of even rows sends the queue with these rows, unless there are none in all or
there is no table. -/
theorem insertBatch_eq (style : Style) (b : Builder) (table? : Option String)
    {rows? : Option (List Record)} (heven : EvenRows (rows?.getD [])) :
    let queue := b.batch ++ insertRows style (rows?.getD [])
    b.insertBatch style table? rows? =
      if queue = [] then .refused .noAssignments { b with batch := queue }
      else .orRefused (b.target style table?) { b with batch := queue } fun table =>
        .sending (batchTexts style table queue) b.afterWrite := by
  intro queue
  have hqueued : b.queueInserts style (rows?.getD []) = .ok { b with batch := queue } :=
    queueInserts_eq_ok_iff.2 ⟨heven, rfl⟩
  unfold insertBatch
  rw [hqueued]
  unfold Plan.orRefused needBatch
  dsimp only
  by_cases hnil : queue = []
  · rw [if_pos (List.isEmpty_iff.2 hnil), if_pos hnil]
  · rw [if_neg fun hempty => hnil (List.isEmpty_iff.1 hempty), if_neg hnil]
    rfl

/-- A statement that is sent is one of those for all of the queue. -/
theorem mem_statements_insertBatch {table? : Option String} {rows? : Option (List Record)}
    {sql : String} (h : sql ∈ (b.insertBatch style table? rows?).statements) :
    EvenRows (rows?.getD []) ∧ ∃ table, b.target style table? = .ok table ∧
      sql ∈ batchTexts style table (b.batch ++ insertRows style (rows?.getD [])) := by
  cases hqueued : b.queueInserts style (rows?.getD []) with
  | error r =>
    unfold insertBatch at h
    rw [hqueued] at h
    cases h
  | ok c =>
    obtain ⟨heven, -⟩ := queueInserts_eq_ok_iff.1 hqueued
    rw [show b.insertBatch style table? rows? = _ from insertBatch_eq style b table? heven] at h
    split at h
    · cases h
    · cases htable : b.target style table? with
      | error r =>
        rw [htable] at h
        cases h
      | ok table =>
        rw [htable] at h
        exact ⟨heven, table, rfl, h⟩

/-! ## Alignment -/

/-- The row has one value for each listed column, and it is its own value for it. -/
structure Aligned (columns : List String) (row : List (String × String)) : Prop where
  length : row.length = columns.length
  own : ∀ pair ∈ columns.zip (row.map Prod.snd), pair ∈ row

theorem aligned_of_columns {columns : List String} {row : List (String × String)}
    (h : row.map Prod.fst = columns) : Aligned columns row := by
  subst h
  refine ⟨(List.length_map _).symm, fun pair hpair => ?_⟩
  rwa [List.zip_map', show (fun p : String × String => (p.1, p.2)) = id from rfl, List.map_id]
    at hpair

/-- A row whose values are all different is aligned in no other order than its own. -/
theorem columns_of_aligned {columns : List String} {row : List (String × String)}
    (hvalues : (row.map Prod.snd).Nodup) (h : Aligned columns row) :
    row.map Prod.fst = columns := by
  refine List.ext_getElem (by rw [List.length_map, h.length]) fun i hi hi' => ?_
  have hrow : i < row.length := by simpa using hi
  have hvalues_i : i < (row.map Prod.snd).length := by simpa using hrow
  have hzip : i < (columns.zip (row.map Prod.snd)).length := by
    rw [List.length_zip]
    exact Nat.lt_min.2 ⟨hi', hvalues_i⟩
  have hpair : (columns[i], row[i].2) ∈ row :=
    h.own _ (List.mem_iff_getElem.2 ⟨i, hzip, by simp⟩)
  obtain ⟨j, hj, hfound⟩ := List.mem_iff_getElem.1 hpair
  have hvalues_j : j < (row.map Prod.snd).length := by simpa using hj
  -- the pair is found in its own place, since its value occurs nowhere else
  have hvalue : (row.map Prod.snd)[j] = (row.map Prod.snd)[i] := by
    rw [List.getElem_map, List.getElem_map, hfound]
  obtain rfl : j = i := (List.Nodup.getElem_inj_iff hvalues).1 hvalue
  rw [List.getElem_map, hfound]

/-- A queued row is aligned with the columns of its call and, where its values are all different,
with no others. -/
theorem aligned_insertRow (style : Style) (rows : List Record) (record : Record)
    {columns : List String} :
    let row := insertRow style (columnsOf rows) record
    (listedColumns style rows = columns → Aligned columns row) ∧
      ((row.map Prod.snd).Nodup → Aligned columns row → listedColumns style rows = columns) := by
  intro row
  have hcolumns : row.map Prod.fst = listedColumns style rows :=
    columns_insertRow style (columnsOf rows) record
  exact ⟨fun h => aligned_of_columns (hcolumns.trans h),
    fun hvalues h => hcolumns.symm.trans (columns_of_aligned hvalues h)⟩

/-- A statement for the rows of some calls holds a stretch of them, under the columns of the first
row of all. -/
theorem exists_chunk_of_mem_batchTexts {calls : List (List Record)} {table sql : String}
    (h : sql ∈ batchTexts style table (queueOf style calls)) :
    ∃ chunk, chunk ≠ [] ∧ (∀ row ∈ chunk, row ∈ queueOf style calls) ∧
      sql = style.dialect.insertText
        ⟨table, listedColumns style calls.flatten, chunk.map fun row => row.map Prod.snd⟩ := by
  obtain ⟨chunk, hchunk, rfl⟩ := List.mem_map.1 h
  refine ⟨chunk, ((lengths_chunks (by decide) _).1 chunk hchunk).1, fun row hrow => ?_, ?_⟩
  · rw [← flatten_chunks chunkSize (queueOf style calls)]
    exact List.mem_flatten.2 ⟨chunk, hchunk, hrow⟩
  · rw [batchInsert, columns_headD_queueOf]

/-- **Which tuples are aligned.** Every statement that is sent for the rows of several calls lists
the columns of the first row of all. The tuples have the values of the rows, each in the order of
the columns of its own call. So a row is aligned with what is listed if its call has the same
columns in the same order, and, where its values are all different, only then. -/
theorem batches_aligned {C E : Type} [Connection C] [Backend C E] (calls : List (List Record))
    (table? : Option String) (rows? : Option (List Record)) (s : Session (Traced C)) (b c : Builder)
    (w : World E) (hempty : b.batch = [])
    (hqueued : b.queueAll ⟨s.dialect, s.rules⟩ calls = .ok c) :
    let style : Style := ⟨s.dialect, s.rules⟩
    let all := calls ++ [rows?.getD []]
    let columns := listedColumns style all.flatten
    let r := (Database.write fun style b => b.insertBatch style table? rows? :
      Action (Database (Traced C)) E Nat).run (⟨s, some c⟩, w)
    ∃ added, r.2.1.session.conn.events = s.conn.events ++ added ∧
      ∀ e ∈ added, ∀ sql, e.statement? = some sql →
        ∃ table chunk, b.target style table? = .ok table ∧ chunk ≠ [] ∧
          sql = PrefixSwap.apply s.config.tablePrefix s.config.swapPrefix
            (style.dialect.insertText ⟨table, columns, chunk.map fun row => row.map Prod.snd⟩) ∧
          ∀ row ∈ chunk, ∃ rows ∈ all, ∃ record ∈ rows,
            row = insertRow style (columnsOf rows) record ∧
            (columnsOf rows).Perm record.keys ∧
            (listedColumns style rows = columns → Aligned columns row) ∧
            ((row.map Prod.snd).Nodup → Aligned columns row →
              listedColumns style rows = columns) := by
  intro style all columns r
  obtain ⟨heven, rfl⟩ := queueAll_eq_ok_iff.1 hqueued
  obtain ⟨added, hevents, hsent⟩ := Database.sent_of_write
    (fun style b => b.insertBatch style table? rows?) s
    { b with batch := b.batch ++ queueOf style calls } w
  refine ⟨added, hevents, fun e he sent hstatement => ?_⟩
  obtain ⟨sql, hsql, rfl⟩ := hsent e he sent hstatement
  obtain ⟨hlast, table, htable, hsql⟩ := mem_statements_insertBatch hsql
  -- the rows of the call come after those that were queued
  have hqueue : b.batch ++ queueOf style calls ++ insertRows style (rows?.getD []) =
      queueOf style all := by
    rw [hempty, List.nil_append, queueOf, queueOf, List.flatMap_append, List.flatMap_singleton]
  have hall : ∀ rows ∈ all, EvenRows rows := by
    intro rows hrows
    rcases List.mem_append.1 hrows with hrows | hrows
    · exact heven rows hrows
    · rw [List.mem_singleton.1 hrows]
      exact hlast
  rw [show b.batch ++ queueOf style calls ++ _ = _ from hqueue] at hsql
  obtain ⟨chunk, hsome, hchunk, rfl⟩ := exists_chunk_of_mem_batchTexts hsql
  refine ⟨table, chunk, htable, hsome, rfl, fun row hrow => ?_⟩
  obtain ⟨rows, hrows, record, hrecord, rfl, hkeys⟩ := mem_queueOf hall (hchunk row hrow)
  exact ⟨rows, hrows, record, hrecord, rfl, hkeys, aligned_insertRow style rows record⟩

open WriteCall (mysqlSession)

def firstRow : Record :=
  .ofList [("a", .int 1), ("b", .int 2)]

def secondRow : Record :=
  .ofList [("a", .int 3), ("b", .int 4)]

/-- A second call has the same columns in the same order, and so has what the insert brings. -/
theorem batches_aligned_evenly :
    let style : Style := ⟨mysqlSession.dialect, mysqlSession.rules⟩
    let queued : Builder :=
      { Builder.empty with batch := insertRows style [firstRow] ++ insertRows style [secondRow] }
    let events :=
      ((Database.write fun style b => b.insertBatch style (some "t") (some [firstRow]) :
          Action (Database (Traced Scripted)) Script Nat).run
        (⟨mysqlSession, some queued⟩, ⟨.empty, default⟩)).2.1.session.conn.events
    Builder.empty.queueAll style [[firstRow], [secondRow]] = .ok queued ∧
      events.filterMap BackendEvent.statement? =
        ["INSERT INTO `t` (`a`, `b`) VALUES (1, 2), (3, 4), (1, 2)"] ∧
      ∀ e ∈ events, ∀ sql, e.statement? = some sql →
        ∃ (table : String) (chunk : List (List (String × String))),
          sql = style.dialect.insertText
            ⟨table, ["`a`", "`b`"], chunk.map fun row => row.map Prod.snd⟩ ∧
          ∀ row ∈ chunk, Aligned ["`a`", "`b`"] row := by
  intro style queued events
  have hqueued : Builder.empty.queueAll style [[firstRow], [secondRow]] = .ok queued := by
    decide +kernel
  refine ⟨hqueued, by decide +kernel, fun e he sql hsql => ?_⟩
  obtain ⟨added, hadded, hsent⟩ := batches_aligned [[firstRow], [secondRow]] (some "t")
    (some [firstRow]) mysqlSession .empty queued (⟨.empty, default⟩ : World Script) rfl hqueued
  have hsame : events = added := hadded
  rw [hsame] at he
  obtain ⟨table, chunk, -, -, hform, hrows⟩ := hsent e he sql hsql
  have hlisted : ∀ rows ∈ [[firstRow], [secondRow], [firstRow]],
      listedColumns style rows = ["`a`", "`b`"] := by
    decide +kernel
  have hcolumns : listedColumns style [firstRow, secondRow, firstRow] = ["`a`", "`b`"] := by
    decide +kernel
  refine ⟨table, chunk, ?_, fun row hrow => ?_⟩
  · rw [← hcolumns]
    exact hform.trans (PrefixSwap.apply_eq_self (.inl rfl))
  · obtain ⟨rows, hmem, -, -, -, -, haligned, -⟩ := hrows row hrow
    exact haligned (hlisted rows hmem)

/-- The second call has the same columns in another order. -/
theorem batches_misaligned :
    let style : Style := ⟨mysqlSession.dialect, mysqlSession.rules⟩
    let turned : Record := .ofList [("b", .int 3), ("a", .int 4)]
    let sent :=
      (Builder.empty.queueAll style [[firstRow], [turned]]).map fun c =>
        ((Database.write fun style b => b.insertBatch style (some "t") none :
            Action (Database (Traced Scripted)) Script Nat).run
          (⟨mysqlSession, some c⟩, ⟨.empty, default⟩)).2.1.session.conn.events.filterMap
            BackendEvent.statement?
    sent = .ok ["INSERT INTO `t` (`a`, `b`) VALUES (1, 2), (3, 4)"] ∧
      insertRow style (columnsOf [turned]) turned = [("`b`", "3"), ("`a`", "4")] ∧
      ¬Aligned ["`a`", "`b`"] [("`b`", "3"), ("`a`", "4")] :=
  ⟨by decide +kernel, by decide +kernel, fun h => absurd (h.own ("`a`", "3") (by decide))
    (by decide)⟩

end SqlGateway.Builder
