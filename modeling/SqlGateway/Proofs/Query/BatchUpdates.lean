import SqlGateway.Proofs.Query.Conditions
import SqlGateway.Proofs.Query.UpdateQueue

/-!
# Batch updates do what updates of single rows do

A batch update of rows that differ in the index column changes the tables as updates of one row each
would do, one after the other: each assigns the other columns of its row where the index column has
the literal of the row. Neither the columns of the rows nor the cut into stretches make a
difference, and no other row of the table is changed.

Main definitions:

* `Builder.RowsApart`: rows that differ in the index, and have another column.
* `Builder.rowUpdate`, `Builder.batchesOf`: the update of one row, and the batch updates of all.

Main results:

* `Builder.keyedRows_updateRow`: what queued rows assign, and where.
* `Builder.RowsApart.runAll_batchesOf`: what the batch updates do to the tables.
* `Builder.updateBatch_eachRow`: a batch update does what the updates of its rows do.
-/

namespace SqlGateway.Builder

open Reading (statements)
open Session (AllAsked)
open Statement (keyedRows)

variable {style : Style} {b : Builder} {index : String} {row : Record} {rows : List Record}

/-! ## Rows -/

/-- The literal that a row has in the index column. -/
def indexLiteral (style : Style) (index : String) (row : Record) : String :=
  style.dialect.literal ((row.get? index).getD .null)

/-- The fields of a row in other columns. -/
def otherFields (style : Style) (b : Builder) (index : String) (row : Record) :
    List (String × String) :=
  (b.updateRow style row).filter fun field => field.1 ≠ b.column style index

/-- The update of one row: it assigns the other columns where the index has the literal of the
row. -/
def rowUpdate (style : Style) (b : Builder) (table index : String) (row : Record) : Update :=
  .ofRow table (b.column style index) (indexLiteral style index row, b.otherFields style index row)

/-- The columns of a row are different ones, also with their quotes and prefixes, and not all of
them are the index; and the rows differ in the index. -/
structure RowsApart (style : Style) (b : Builder) (index : String) (rows : List Record) : Prop where
  columns : ∀ row ∈ rows, (row.keys.map (b.column style)).Nodup
  others : ∀ row ∈ rows, ∃ key ∈ row.keys, b.column style key ≠ b.column style index
  ids : (rows.map (indexLiteral style index)).Nodup

theorem keysOf_updateRow (style : Style) (b : Builder) (row : Record) :
    keysOf (b.updateRow style row) = row.keys.map (b.column style) := by
  rw [updateRow, keysOf, OrderedMap.keys, keysOf, List.map_map, List.map_map]
  rfl

/-- A row that has the index column is told apart by its literal there. -/
theorem lookup_updateRow (hcolumns : (row.keys.map (b.column style)).Nodup)
    (hindex : row.contains index = true) :
    (b.updateRow style row).lookup (b.column style index) =
      some (indexLiteral style index row) := by
  obtain ⟨value, hvalue⟩ := Option.isSome_iff_exists.1 hindex
  rw [← keysOf_updateRow] at hcolumns
  refine (lookup_eq_some_iff_mem hcolumns).2 (List.mem_map.2 ⟨(index, value), ?_, ?_⟩)
  · exact OrderedMap.get?_eq_some_iff.1 hvalue
  · rw [indexLiteral, hvalue]
    rfl

theorem keyedRows_updateRow
    (hrows : ∀ row ∈ rows, (row.keys.map (b.column style)).Nodup)
    (hindex : ∀ row ∈ rows, row.contains index = true) :
    keyedRows (b.column style index) (rows.map (b.updateRow style)) =
      rows.map fun row => (indexLiteral style index row, b.otherFields style index row) := by
  rw [keyedRows, List.filterMap_map, ← List.filterMap_eq_map]
  refine List.filterMap_congr fun row hrow => ?_
  rw [Function.comp_apply, lookup_updateRow (hrows row hrow) (hindex row hrow)]
  rfl

theorem RowsApart.tellsApart (h : RowsApart style b index rows)
    (hindex : ∀ row ∈ rows, row.contains index = true) :
    Update.TellsApart (keyedRows (b.column style index) (rows.map (b.updateRow style))) := by
  rw [keyedRows_updateRow h.columns hindex]
  constructor
  · rw [List.map_map]
    exact h.ids
  · intro keyed hkeyed
    obtain ⟨row, hrow, rfl⟩ := List.mem_map.1 hkeyed
    have hcolumns := h.columns row hrow
    rw [← keysOf_updateRow] at hcolumns
    exact hcolumns.sublist (List.filter_sublist.map _)

/-- A row has something to assign. -/
theorem RowsApart.otherFields_ne_nil (h : RowsApart style b index rows) (hrow : row ∈ rows) :
    b.otherFields style index row ≠ [] := by
  obtain ⟨key, hkey, hother⟩ := h.others row hrow
  have hmem : b.column style key ∈ keysOf (b.updateRow style row) := by
    rw [keysOf_updateRow]
    exact List.mem_map_of_mem hkey
  obtain ⟨field, hfield, hsame⟩ := List.mem_map.1 hmem
  refine List.ne_nil_of_mem (List.mem_filter.2 ⟨hfield, decide_eq_true ?_⟩)
  rwa [hsame]

/-- So has a batch update of some of the rows. -/
theorem RowsApart.assigned_ne_nil (h : RowsApart style b index rows)
    (hindex : ∀ row ∈ rows, row.contains index = true) {table : String}
    {chunk : List (List (String × String))} (hsome : chunk ≠ [])
    (hchunk : ∀ queued ∈ chunk, queued ∈ rows.map (b.updateRow style)) :
    (Update.ofBatch ⟨table, chunk, b.column style index, []⟩).assigned ≠ [] := by
  obtain ⟨queued, hqueued⟩ := List.exists_mem_of_ne_nil chunk hsome
  obtain ⟨row, hrow, rfl⟩ := List.mem_map.1 (hchunk queued hqueued)
  have hkeyed : (indexLiteral style index row, b.otherFields style index row) ∈
      keyedRows (b.column style index) chunk := by
    refine List.mem_filterMap.2 ⟨_, hqueued, ?_⟩
    rw [lookup_updateRow (h.columns row hrow) (hindex row hrow)]
    rfl
  exact Update.assigned_ofBatch_ne_nil hkeyed (h.otherFields_ne_nil hrow)

/-! ## Stretches of rows -/

/-- The batch updates that some rows are sent as. -/
def batchesOf (style : Style) (b : Builder) (table index : String) (rows : List Record) :
    List Update :=
  (chunks 100 (rows.map (b.updateRow style))).map fun rows =>
    .ofBatch ⟨table, rows, b.column style index, []⟩

section
variable {table : String} (h : RowsApart style b index rows)
  (hindex : ∀ row ∈ rows, row.contains index = true)
include h hindex

/-- The batch updates do what the updates of the rows do. -/
theorem RowsApart.runAll_batchesOf (tables : Tables) :
    Update.runAll (b.batchesOf style table index rows) tables =
      Update.runAll (rows.map (b.rowUpdate style table index)) tables := by
  -- the stretches are the rows again
  have hflatten := flatten_chunks 100 (rows.map (b.updateRow style))
  have hkeyed := h.tellsApart hindex
  rw [← hflatten] at hkeyed
  rw [batchesOf, Update.runAll_ofBatch hkeyed, hflatten, keyedRows_updateRow h.columns hindex,
    List.map_map]
  rfl

/-- A row of the table that has the index of none of the rows stays as it is. -/
theorem RowsApart.getElem?_runAll_batchesOf {tables : Tables} {i : Nat} {cells : Cells}
    (hcells : (tables table)[i]? = some cells)
    (hnone : ∀ row ∈ rows, ¬cells.Has (b.column style index) (indexLiteral style index row)) :
    (Update.runAll (b.batchesOf style table index rows) tables table)[i]? = some cells := by
  have hsingles : rows.map (b.rowUpdate style table index) =
      (rows.map fun row => (indexLiteral style index row, b.otherFields style index row)).map
        (Update.ofRow table (b.column style index)) := by
    rw [List.map_map]
    rfl
  rw [h.runAll_batchesOf hindex, hsingles]
  refine Update.getElem?_runAll_ofRow hcells fun keyed hmem => ?_
  obtain ⟨row, hrow, rfl⟩ := List.mem_map.1 hmem
  exact hnone row hrow

theorem RowsApart.assigned_batchesOf {u : Update} (hu : u ∈ b.batchesOf style table index rows) :
    u.assigned ≠ [] := by
  obtain ⟨chunk, hchunk, rfl⟩ := List.mem_map.1 hu
  refine h.assigned_ne_nil hindex ((lengths_chunks (by decide) _).1 chunk hchunk).1
    fun queued hqueued => ?_
  rw [← flatten_chunks 100 (rows.map (b.updateRow style))]
  exact List.mem_flatten.2 ⟨chunk, hchunk, hqueued⟩

end

/-! ## Conditions -/

/-- Where no condition was gathered, a batch update has none but its own. -/
theorem wheres_merge_of_gathered (h : b.gathered none = []) : b.merge.live.wheres = [] := by
  obtain ⟨hlive, hsnapshot⟩ := List.append_eq_nil_iff.1 (List.append_eq_nil_iff.1 h).1
  have hnone : b.merge.live.conditionTexts = [] := by
    refine List.eq_nil_iff_forall_not_mem.2 fun text htext => ?_
    rw [mem_conditionTexts_merge, hlive, hsnapshot] at htext
    exact htext.elim List.not_mem_nil List.not_mem_nil
  have hempty := (Clauses.conditionTexts_eq_nil_iff _).1 hnone
  exact List.isEmpty_iff.1 (Bool.and_eq_true_iff.1 hempty).1

/-! ## Runs -/

variable {C E : Type} [Connection C] [Backend C E]

/-- **Batch updates, row by row.** A batch update that succeeds sends updates by cases, a hundred
rows each. One after the other they do to all tables what the updates of the single rows do, and a
row of the table that has the index of none of them stays as it is. What is assumed of kept results
holds in every session that keeps none or keeps them in memory, by `allAsked_updateBatch`. -/
theorem updateBatch_eachRow {table? : Option String} {s : Session (Metered C)} {w : World E}
    (hempty : b.batch = []) (hconditions : b.gathered none = []) (hswap : s.config.swapPrefix = "")
    (hrows : RowsApart ⟨s.dialect, s.rules⟩ b index rows)
    (hok : ((Database.write fun style b => b.updateBatch style table? (some rows) (some index) :
      Action (Database (Metered C)) E Nat).run (⟨s, some b⟩, w)).1.isOk = true) :
    let style : Style := ⟨s.dialect, s.rules⟩
    let plan := b.updateBatch style table? (some rows) (some index)
    let r := (Database.write fun style b => b.updateBatch style table? (some rows) (some index) :
      Action (Database (Metered C)) E Nat).run (⟨s, some b⟩, w)
    ∃ table, b.merge.target style table? = .ok table ∧
      let batches := b.batchesOf style table index rows
      let singles := rows.map (b.rowUpdate style table index)
      plan.statements = batches.map Update.text ∧
      (AllAsked plan.statements (s, w) →
        ∃ added, r.2.1.session.conn.readings = s.conn.readings ++ added ∧
          (statements added).map Prod.fst = batches.map Update.text) ∧
      (∀ row ∈ rows, (b.rowUpdate style table index row).text = style.dialect.updateText {
        table
        assignments := b.otherFields style index row
        conditions := [b.column style index ++ " = " ++ indexLiteral style index row]
        order := []
        limit := none }) ∧
      (∀ u ∈ batches ++ singles, u.assigned ≠ []) ∧
      ∀ tables : Tables, Update.runAll batches tables = Update.runAll singles tables ∧
        ∀ (i : Nat) (cells : Cells), (tables table)[i]? = some cells →
          (∀ row ∈ rows, ¬cells.Has (b.column style index) (indexLiteral style index row)) →
          (Update.runAll batches tables table)[i]? = some cells := by
  intro style plan r
  obtain ⟨hrefusal, hsent⟩ := sent_updateBatch hok
  have hqueued : b.queueUpdatesOf ⟨s.dialect, s.rules⟩ [] = .ok b := rfl
  obtain ⟨haccepted, table, last, htable, hlast, hstatements⟩ :=
    statements_updateBatch hempty hqueued hrefusal
  obtain rfl : (⟨rows, index⟩ : UpdateCall) = last := Option.some.inj hlast
  obtain ⟨-, hindex⟩ := haccepted ⟨rows, index⟩ (List.mem_singleton_self _)
  replace hindex : ∀ row ∈ rows, row.contains index = true := hindex
  refine ⟨table, htable, ?_⟩
  intro batches singles
  have hqueue : b.updateRowsOf style (UpdateCall.ofArguments (some rows) (some index)) =
      rows.map (b.updateRow style) :=
    List.flatMap_singleton _ _
  have htexts : plan.statements = batches.map Update.text := by
    rw [show plan.statements = _ from hstatements, wheres_merge_of_gathered hconditions,
      List.nil_append, hqueue, updatesOf, List.map_map,
      show batches = b.batchesOf style table index rows from rfl, batchesOf, List.map_map]
    exact List.map_congr_left fun chunk _ => (Update.text_ofBatch rfl).symm
  refine ⟨htexts, fun hasked => ?_, fun row hrow => Update.text_ofRow _ _ _ _ _, fun u hu => ?_,
    fun tables => ⟨hrows.runAll_batchesOf hindex tables, fun i cells hcells hnone =>
      hrows.getElem?_runAll_batchesOf hindex hcells hnone⟩⟩
  · obtain ⟨added, hadded, hswapped⟩ := hsent hasked
    refine ⟨added, hadded, hswapped.trans ?_⟩
    rw [hswap, List.map_id'' fun sql => PrefixSwap.apply_eq_self (.inr (.inl rfl))]
    exact htexts
  · rcases List.mem_append.1 hu with hu | hu
    · exact hrows.assigned_batchesOf hindex hu
    · obtain ⟨row, hrow, rfl⟩ := List.mem_map.1 hu
      exact fun hnil => hrows.otherFields_ne_nil hrow (List.map_eq_nil_iff.1 hnil)

/-- Two rows with different columns beside the index. -/
def unlikeRows : List Record :=
  [.ofList [("a", .int 1), ("v", .int 2)], .ofList [("w", .int 4), ("a", .int 3)]]

/-- One statement does what two would. -/
theorem updateBatch_eachRow_unlike :
    let style : Style := ⟨plainSession.dialect, plainSession.rules⟩
    let r := (Database.write fun style b =>
        b.updateBatch style (some "t") (some unlikeRows) (some "a") :
      Action (Database (Metered Scripted)) Script Nat).run
        (⟨plainSession, some .empty⟩, ⟨.empty, default⟩)
    let batches := Builder.empty.batchesOf style "`t`" "a" unlikeRows
    let singles := unlikeRows.map (Builder.empty.rowUpdate style "`t`" "a")
    RowsApart style .empty "a" unlikeRows ∧ r.1.isOk = true ∧
      batches.map Update.text =
        ["UPDATE `t` SET `v` = CASE WHEN `a` = 1 THEN 2 ELSE `v` END, " ++
          "`w` = CASE WHEN `a` = 3 THEN 4 ELSE `w` END WHERE `a` IN (1,3)"] ∧
      singles.map Update.text =
        ["UPDATE `t` SET `v` = 2 WHERE `a` = 1", "UPDATE `t` SET `w` = 4 WHERE `a` = 3"] ∧
      (∃ added, r.2.1.session.conn.readings = added ∧
        (statements added).map Prod.fst = batches.map Update.text) ∧
      ∀ tables, Update.runAll batches tables = Update.runAll singles tables := by
  have hrows : RowsApart ⟨plainSession.dialect, plainSession.rules⟩ .empty "a" unlikeRows :=
    ⟨by decide +kernel, by decide +kernel, by decide +kernel⟩
  have hok : ((Database.write fun style b =>
        b.updateBatch style (some "t") (some unlikeRows) (some "a") :
      Action (Database (Metered Scripted)) Script Nat).run
        (⟨plainSession, some .empty⟩, ⟨.empty, default⟩)).1.isOk = true := by
    decide +kernel
  have hnamed : Builder.empty.merge.target ⟨plainSession.dialect, plainSession.rules⟩ (some "t") =
      .ok "`t`" := by
    decide +kernel
  obtain ⟨table, htable, -, hsent, -, -, hsame⟩ :=
    updateBatch_eachRow (b := .empty) rfl rfl rfl hrows hok
  obtain rfl : "`t`" = table := Except.ok.inj (hnamed.symm.trans htable)
  exact ⟨hrows, hok, by decide +kernel, by decide +kernel,
    hsent (Session.allAsked_of_unkept rfl), fun tables => (hsame tables).1⟩

end SqlGateway.Builder
