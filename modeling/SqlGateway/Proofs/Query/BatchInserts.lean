import SqlGateway.Proofs.Query.Batches
import SqlGateway.Proofs.Query.Terminals
import SqlGateway.Proofs.Session.Counting

/-!
# What a batch insert sends

The rows of one call are sent a hundred to a statement, in their order, each with its own values in
the order of the columns of the first row. The statements go out until one is rejected; that one
ends the call, and its error is the answer. Otherwise all rows are sent, and the answer is the
number of rows that were changed. The queue is empty afterwards in any case.

Main definitions:

* `Builder.tupleOf`: the values of a row in the order of some columns.
* `Builder.QueuedOnce`: rows that are queued by one call, made before the insert or by it.

Main results:

* `Builder.batchTexts_insertRows`: the statements for the rows of a call.
* `Builder.allAsked_chunkTexts`: which sessions answer none of them by a kept result.
* `Builder.insertBatch_ends`: what is sent, and how it ends.
-/

namespace SqlGateway.Builder

open Reading (statements EndRefused)

/-! ## Rows of one call -/

/-- The values of a row in the order of some columns, as literals. -/
def tupleOf (style : Style) (keys : List String) (row : Record) : List String :=
  keys.map fun key => style.dialect.literal ((row.get? key).getD .null)

/-- The insert of some rows of a call. -/
def chunkText (style : Style) (table : String) (rows chunk : List Record) : String :=
  style.dialect.insertText
    ⟨table, listedColumns style rows, chunk.map (tupleOf style (columnsOf rows))⟩

variable {style : Style} {b : Builder} {rows : List Record} {rows? : Option (List Record)}

theorem values_insertRow (style : Style) (keys : List String) (row : Record) :
    (insertRow style keys row).map Prod.snd = tupleOf style keys row := by
  rw [insertRow, List.map_map]
  rfl

/-- The rows of a call are cut, and each stretch is a statement. -/
theorem batchTexts_insertRows (style : Style) (table : String) (rows : List Record) :
    batchTexts style table (insertRows style rows) =
      (chunks chunkSize rows).map (chunkText style table rows) := by
  have hcolumns : ((insertRows style rows).headD []).map Prod.fst = listedColumns style rows := by
    have hqueue := columns_headD_queueOf style [rows]
    rwa [queueOf, List.flatMap_singleton, List.flatten_singleton] at hqueue
  rw [batchTexts, hcolumns, insertRows, chunks_map, List.map_map]
  refine List.map_congr_left fun chunk _ => ?_
  show style.dialect.insertText ⟨table, listedColumns style rows, _⟩ = _
  rw [List.map_map, chunkText]
  congr 2
  exact List.map_congr_left fun row _ => values_insertRow style (columnsOf rows) row

/-- The queue of an insert is made of these rows by one call that succeeds on an empty queue. The
call is made before the insert, which brings no rows then, or it is the insert itself. -/
inductive QueuedOnce (style : Style) (rows : List Record) : Builder → Option (List Record) → Prop
  | before {b c d : Builder} {rows? : Option (List Record)} (hempty : b.batch = [])
      (hqueued : b.queueInserts style rows = .ok c) (hbatch : d.batch = c.batch)
      (hnone : rows?.getD [] = []) : QueuedOnce style rows d rows?
  | along {b c : Builder} (hempty : b.batch = []) (hqueued : b.queueInserts style rows = .ok c) :
    QueuedOnce style rows b (some rows)

theorem QueuedOnce.even (h : QueuedOnce style rows b rows?) : EvenRows rows := by
  cases h with
  | before hempty hqueued hbatch hnone => exact (queueInserts_eq_ok_iff.1 hqueued).1
  | along hempty hqueued => exact (queueInserts_eq_ok_iff.1 hqueued).1

/-- The rows are the queue of the insert, and all of them are sent. -/
theorem QueuedOnce.insertBatch_eq {table? : Option String} {table : String}
    (h : QueuedOnce style rows b rows?) (hrows : rows ≠ [])
    (htable : b.target style table? = .ok table) :
    b.insertBatch style table? rows? =
      .sending ((chunks chunkSize rows).map (chunkText style table rows)) b.afterWrite := by
  have hrowsEven := h.even
  have heven : EvenRows (rows?.getD []) := by
    cases h with
    | before hempty hqueued hbatch hnone =>
      rw [hnone]
      exact nofun
    | along => exact hrowsEven
  have hqueue : b.batch ++ insertRows style (rows?.getD []) = insertRows style rows := by
    cases h with
    | before hempty hqueued hbatch hnone =>
      obtain ⟨-, rfl⟩ := queueInserts_eq_ok_iff.1 hqueued
      rw [hbatch, hnone, hempty]
      exact List.append_nil _
    | along hempty hqueued =>
      rw [hempty]
      rfl
  have hsome : insertRows style rows ≠ [] := fun hnil => hrows (List.map_eq_nil_iff.1 hnil)
  have hplan := Builder.insertBatch_eq style b table? heven
  dsimp only at hplan
  rw [hplan, hqueue, if_neg hsome, htable, ← batchTexts_insertRows]
  rfl

/-- The first of the statements for some rows hold the first of the rows. -/
theorem exists_sent {α : Type} {size : Nat} (hsize : 0 < size) {xs : List α}
    {text : List α → String} {sqls : List String} (h : sqls <+: (chunks size xs).map text) :
    ∃ sent : List (List α), sqls = sent.map text ∧ sent.flatten <+: xs ∧
      (∀ chunk ∈ sent, chunk ≠ [] ∧ chunk.length ≤ size) ∧
      (∀ chunk ∈ sent.dropLast, chunk.length = size) ∧
      (sqls = (chunks size xs).map text → sent.flatten = xs) := by
  obtain ⟨rest, hrest⟩ := h
  obtain ⟨sent, unsent, hchunks, hsent, hunsent⟩ := List.map_eq_append_iff.1 hrest.symm
  have hflatten : sent.flatten ++ unsent.flatten = xs := by
    rw [← List.flatten_append, ← hchunks, flatten_chunks]
  obtain ⟨hlengths, hfull⟩ := lengths_chunks hsize xs
  rw [hchunks] at hlengths hfull
  refine ⟨sent, hsent.symm, ⟨_, hflatten⟩,
    fun chunk hchunk => hlengths chunk (List.mem_append_left _ hchunk), fun chunk hchunk => ?_,
    fun hall => ?_⟩
  -- the last one that was sent is a short one only if it is the last one of all
  · refine hfull chunk ?_
    by_cases hnil : unsent = []
    · rwa [hnil, List.append_nil]
    · rw [List.dropLast_append_of_ne_nil hnil]
      exact List.mem_append_left _ ((List.dropLast_sublist sent).subset hchunk)
  · rw [hall] at hrest
    obtain rfl : rest = [] := List.append_right_eq_self.1 hrest
    rw [List.map_eq_nil_iff.1 hunsent] at hflatten
    exact (List.append_nil _).symm.trans hflatten

/-! ## Runs -/

variable {C E : Type} [Connection C] [Backend C E]

open Session (AllAsked Ending)

theorem isWrite_chunkText (style : Style) (table : String) (rows chunk : List Record) :
    Statement.isWrite (chunkText style table rows chunk) = true := by
  refine Statement.isWrite_of_keyword "INSERT" (by decide) ?_
  unfold chunkText Dialect.insertText Statement.insertText
  simp only [String.toList_append, List.append_assoc]
  exact ⟨_, rfl⟩

/-- The statements of a batch insert are sent by any session that keeps no results, or keeps them in
memory as a run leaves them. -/
theorem allAsked_chunkTexts {table : String} {s : Session C} {w : World E}
    (hkept : s.cacheOn = false ∨ s.KeepsReads) (hswap : s.config.swapPrefix = "")
    (stretches : List (List Record)) :
    AllAsked (stretches.map (chunkText style table rows)) (s, w) := by
  refine Session.allAsked_of_kept hkept hswap fun sql hsql => ?_
  obtain ⟨chunk, -, rfl⟩ := List.mem_map.1 hsql
  exact isWrite_chunkText style table rows chunk

/-- **Batch inserts.** The statements that are sent hold the first rows of the queue in their order,
a hundred each but for the last one; each row has a value for each of the columns that are listed,
and no others. If none is rejected and the connection is open, all rows are sent, and the answer is
the sum of what they have changed. One that is rejected is the last one sent, and the answer is its
error. Nothing stays queued. What is assumed of kept results holds in every session that keeps none
or keeps them in memory, by `allAsked_chunkTexts`. -/
theorem insertBatch_ends {table? : Option String} {table : String} {s : Session (Metered C)}
    {w : World E} (hrows : rows ≠ []) (hqueued : QueuedOnce ⟨s.dialect, s.rules⟩ rows b rows?)
    (htable : b.target ⟨s.dialect, s.rules⟩ table? = .ok table) (hswap : s.config.swapPrefix = "")
    (hasked : AllAsked
      ((chunks 100 rows).map (chunkText ⟨s.dialect, s.rules⟩ table rows)) (s, w)) :
    let text := chunkText ⟨s.dialect, s.rules⟩ table rows
    let r := (Database.write fun style b => b.insertBatch style table? rows? :
      Action (Database (Metered C)) E Nat).run (⟨s, some b⟩, w)
    (∀ row ∈ rows, (columnsOf rows).Perm row.keys) ∧
      ∃ left added, ∃ sent : List (List Record),
        r.2.1.builder = some left ∧ left.batch = [] ∧
        r.2.1.session.conn.readings = s.conn.readings ++ added ∧
        (statements added).map Prod.fst = sent.map text ∧ sent.flatten <+: rows ∧
        (∀ chunk ∈ sent, chunk ≠ [] ∧ chunk.length ≤ 100) ∧
        (∀ chunk ∈ sent.dropLast, chunk.length = 100) ∧
        (r.1.isOk = true → sent.flatten = rows) ∧
        Ending s ((chunks 100 rows).map text) added r.1 := by
  intro text r
  refine ⟨fun row hrow => hqueued.even.perm_keys hrow, ?_⟩
  let texts := (chunks 100 rows).map text
  have hplan : b.insertBatch ⟨s.dialect, s.rules⟩ table? rows? = .sending texts b.afterWrite :=
    hqueued.insertBatch_eq hrows htable
  let q := (Database.sendAll texts : Action (Session (Metered C)) E Nat).run (s, w)
  have hr : r = (q.1, ⟨q.2.1, some b.afterWrite⟩, q.2.2) := by
    show (Database.write _ : Action (Database (Metered C)) E Nat).run (⟨s, some b⟩, w) = _
    rw [Database.run_write, hplan]
    show (q.1.bind fun n => .ok n, _) = _
    cases q.1 <;> rfl
  have hblank : ∀ sql ∈ texts, Text.isBlank sql = false := by
    intro sql hsql
    obtain ⟨chunk, -, rfl⟩ := List.mem_map.1 hsql
    exact Statement.isBlank_insertText (by decide) _
  obtain ⟨-, added, hadded, hending⟩ := Session.ending_sendAll hblank hasked
  -- without a stand-in the statements go out as they were made
  have hsame : texts.map (PrefixSwap.apply s.config.tablePrefix s.config.swapPrefix) = texts := by
    rw [hswap]
    exact List.map_id'' (fun sql => PrefixSwap.apply_eq_self (.inr (.inl rfl))) texts
  rw [hsame] at hending
  obtain ⟨sent, hsent, hfirst, hlengths, hfull, hall⟩ :=
    exists_sent (by decide : 0 < 100) hending.sent_prefix
  rw [hr]
  exact ⟨b.afterWrite, added, sent, rfl, rfl, hadded, hsent, hfirst, hlengths, hfull,
    fun hok => hall (hending.sent_of_isOk hok), hending⟩

/-- A session that keeps results in memory. -/
def keepingSession : Session (Metered Scripted) :=
  .create { ConnectionConfig.ofKind "mock" with cacheOn := true }
    (Metered.untouched (Scripted.ofDialect .mysql))

/-- A row with the columns of `firstRow` in the other order, and a value that looks like a read. -/
def turnedRow : Record :=
  .ofList [("b", .int 3), ("a", .text "select")]

/-- Both rows are sent, the second one in the order of the first, and no kept result answers. -/
theorem insertBatch_ends_turned :
    let rows := [firstRow, turnedRow]
    let style : Style := ⟨keepingSession.dialect, keepingSession.rules⟩
    let r := (Database.write fun style b => b.insertBatch style (some "t") (some rows) :
      Action (Database (Metered Scripted)) Script Nat).run
        (⟨keepingSession, some .empty⟩, ⟨.empty, default⟩)
    QueuedOnce style rows .empty (some rows) ∧
      AllAsked ((chunks 100 rows).map (chunkText style "`t`" rows))
        (keepingSession, (⟨.empty, default⟩ : World Script)) ∧
      (statements r.2.1.session.conn.readings).map Prod.fst =
        ["INSERT INTO `t` (`a`, `b`) VALUES (1, 2), ('select', 3)"] ∧
      ∃ added, r.2.1.session.conn.readings = added ∧
        Ending keepingSession ((chunks 100 rows).map (chunkText style "`t`" rows)) added r.1 := by
  intro rows style r
  have hqueued : QueuedOnce style rows .empty (some rows) := by
    have hqueue : Builder.empty.queueInserts style rows =
        .ok { Builder.empty with batch := insertRows style rows } := by
      decide +kernel
    exact .along rfl hqueue
  have hkeeps : keepingSession.KeepsReads := ⟨.empty, rfl, fun _ _ => rfl⟩
  have hasked : AllAsked ((chunks 100 rows).map (chunkText style "`t`" rows))
      (keepingSession, (⟨.empty, default⟩ : World Script)) :=
    allAsked_chunkTexts (.inr hkeeps) rfl _
  have htable : Builder.empty.target style (some "t") = .ok "`t`" := by decide +kernel
  obtain ⟨-, left, added, sent, -, -, hadded, -, -, -, -, -, hending⟩ :=
    insertBatch_ends (List.cons_ne_nil _ _) hqueued htable rfl hasked
  exact ⟨hqueued, hasked, by decide +kernel, added, hadded, hending⟩

end SqlGateway.Builder
