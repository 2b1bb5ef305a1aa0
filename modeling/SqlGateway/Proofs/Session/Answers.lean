import SqlGateway.Proofs.Session.KeptReads

/-!
# Reads that are answered

A read is answered by a kept result, or by the backend over a connection that is open or can be
opened. Either way the caller is given a cursor that presents what was found: as many rows as there
are, under the names of the columns, and the first row by name.

Main definitions:

* `Found`: what a statement finds.
* `Session.Answers`: a statement is answered from a state, by what was found.
* `Cursor.Presents`: a new cursor on what was found.

Main results:

* `Cursor.Presents.value?`: the first row by name.
* `Session.read_answers`: an answered read gives a cursor that presents the answer.
-/

namespace SqlGateway

/-- The names of columns and the rows under them. -/
structure Found where
  names : List String
  rows : List (List Value)
  deriving DecidableEq, Repr

/-! ## Cursors -/

namespace Cursor

/-- The cursor is on what was found, and has not been asked for its first row. -/
structure Presents (c : Cursor) (found : Found) : Prop where
  numRows : c.numRows = found.rows.length
  columns : c.columns = found.names
  rows : c.valueRows.1 = found.rows
  unread : c.mapped = none ∧ c.lead = none

theorem presents_ofHandle (columns : List Column) (rows : List (List Value)) :
    (ofHandle (.buffered (.ofRows columns rows))).Presents ⟨columns.map Column.name, rows⟩ :=
  ⟨rfl, rfl, rfl, rfl, rfl⟩

theorem presents_ofSnapshot (names : List String) (rows : List (List Value)) :
    (ofSnapshot ⟨names, rows, rows.length⟩).Presents ⟨names, rows⟩ :=
  ⟨rfl, rfl, rfl, rfl, rfl⟩

variable {c : Cursor} {found : Found}

/-- A cursor whose rows have been taken still presents them. -/
theorem Presents.valueRows (h : c.Presents found) : c.valueRows.2.Presents found := by
  obtain ⟨hnum, hcolumns, hrows, hmapped, hlead⟩ := h
  have htaken : c.valueRows.2.numRows = c.numRows ∧ c.valueRows.2.mapped = c.mapped ∧
      c.valueRows.2.lead = c.lead := by
    unfold Cursor.valueRows takeValues
    cases hrows : c.taken with
    | some rows => exact ⟨rfl, rfl, rfl⟩
    | none =>
      rw [hmapped]
      exact ⟨rfl, rfl, rfl⟩
  refine ⟨htaken.1.trans hnum, (columns_valueRows c).trans hcolumns, ?_,
    htaken.2.1.trans hmapped, htaken.2.2.trans hlead⟩
  rw [valueRows_valueRows, hrows]

/-- A column of the first row is looked up in the row as a map. -/
theorem Presents.value? (h : c.Presents found) (column : String) :
    (c.value? column).1 =
      found.rows.head?.bind fun values => (Row.toRecord ⟨found.names, values⟩).get? column := by
  obtain ⟨-, hcolumns, hrows, hmapped, hlead⟩ := h
  have hrecords : c.records.1 =
      found.rows.map fun values => Row.toRecord ⟨found.names, values⟩ := by
    unfold Cursor.records
    rw [hmapped, ← hcolumns, ← hrows]
    dsimp only
    unfold Cursor.rows
    dsimp only
    rw [columns_valueRows]
    exact List.map_map
  unfold Cursor.value? keepLead record?
  rw [hlead]
  dsimp only
  rw [hrecords, List.getElem?_map, ← List.head?_eq_getElem?, Option.bind_map]
  rfl

end Cursor

/-! ## Answers -/

namespace Session

variable {C E : Type} [Connection C] [Backend C E]

/-- The state in which a statement is sent that no kept result answers. -/
def looked (sql : String) (s : Session C × World E) : Session C × World E :=
  if (s.1.cacheOn && mayBeKept sql) = true then ((kept? sql : Effect (Session C) E _) s).2 else s

/-- The connection opened for the statement, unless it is open already. -/
def opened (sql : String) (s : Session C × World E) : Except DbError Unit × Session C × World E :=
  (connect : Action (Session C) E Unit).run (looked sql s)

/-- A statement is answered by what was found: that was kept, or the connection is open or can be
opened, and the backend finds it then. -/
inductive Answers (s : Session C) (w : World E) (sql : String) (found : Found) : Prop
  | kept (hread : (s.cacheOn && mayBeKept sql) = true)
      (hkept : ((kept? sql : Effect (Session C) E _) (s, w)).1 =
        some ⟨found.names, found.rows, found.rows.length⟩)
  | asked {columns : List Column} (hasked : Asked sql (s, w))
      (hopen : (opened sql (s, w)).1 = .ok ())
      (hrun : ((Backend.execute sql : Action C E _).run
        ((opened sql (s, w)).2.1.conn, (opened sql (s, w)).2.2)).1 =
          .ok (some (.buffered (.ofRows columns found.rows))))
      (hnames : columns.map Column.name = found.names)

variable {s : Session C} {w : World E} {sql : String} {found : Found}

/-- A statement that is sent and accepted gives its handle. -/
theorem send_of_open {t : Session C} {v : World E} {handle? : Option Handle}
    (hopen : (connect : Action (Session C) E Unit).run (s, w) = (.ok (), t, v))
    (hrun : ((Backend.execute sql : Action C E _).run (t.conn, v)).1 = .ok handle?) :
    ((send sql : Action (Session C) E _).run (s, w)).1 = .ok handle? := by
  rw [send_eq, run_unless_connect_bind, Action.run_bind_apply, hopen]
  dsimp only
  unfold record
  rw [Action.run_bind_apply, Action.run_modifySubject_apply]
  dsimp only
  rw [run_dispatch]
  -- a statement that is noted leaves the connection as it is
  have hconn : (if t.config.saveQueries then { t with queries := t.queries ++ [sql] } else t).conn =
      t.conn := by
    split <;> rfl
  rw [hconn]
  generalize (Backend.execute sql : Action C E _).run (t.conn, v) = q at hrun
  obtain ⟨outcome, conn, v'⟩ := q
  obtain rfl : outcome = .ok handle? := hrun
  rfl

omit [Connection C] [Backend C E] in
/-- What follows a read that was accepted is a cursor on its rows. -/
theorem settle_presents (hread : Statement.isWrite sql = false) (columns : List Column)
    (rows : List (List Value)) (s : Session C) (w : World E) :
    ∃ c, ((settle sql (some (.buffered (.ofRows columns rows))) :
        Effect (Session C) E QueryOutcome) (s, w)).1 = .rows c ∧
      c.Presents ⟨columns.map Column.name, rows⟩ := by
  have hpresents := Cursor.presents_ofHandle columns rows
  rw [settle_eq, Effect.bind_apply, Effect.subject_apply]
  dsimp only
  rw [if_neg (Bool.eq_false_iff.1 hread)]
  split
  · exact ⟨_, rfl, hpresents.valueRows⟩
  · exact ⟨_, rfl, hpresents⟩

theorem askBackend_answers (hread : Statement.isWrite sql = false) {t : Session C} {v : World E}
    {columns : List Column} {rows : List (List Value)}
    (hopen : (connect : Action (Session C) E Unit).run (s, w) = (.ok (), t, v))
    (hrun : ((Backend.execute sql : Action C E _).run (t.conn, v)).1 =
      .ok (some (.buffered (.ofRows columns rows)))) :
    ∃ c, ((askBackend sql : Action (Session C) E _).run (s, w)).1 = .ok (.rows c) ∧
      c.Presents ⟨columns.map Column.name, rows⟩ := by
  have hsend := send_of_open hopen hrun
  unfold askBackend
  rw [Action.run_bind_apply]
  generalize (send sql : Action (Session C) E _).run (s, w) = sent at hsend ⊢
  obtain ⟨outcome, u, v'⟩ := sent
  obtain rfl : outcome = .ok _ := hsend
  obtain ⟨c, hc, hpresents⟩ := settle_presents hread columns rows u v'
  refine ⟨c, ?_, hpresents⟩
  dsimp only
  rw [Action.run_act_apply, hc]

/-- **Answered reads.** A read that is answered gives a cursor that presents the answer. -/
theorem read_answers (hblank : Text.isBlank sql = false)
    (hread : Statement.isWrite (s.finalText sql []) = false)
    (h : Answers s w (s.finalText sql []) found) :
    ∃ c, ((read sql : Action (Session C) E Cursor).run (s, w)).1 = .ok c ∧ c.Presents found := by
  have hquery : ∃ c, ((query sql [] : Action (Session C) E _).run (s, w)).1 = .ok (.rows c) ∧
      c.Presents found := by
    rw [run_query, if_neg (Bool.eq_false_iff.1 hblank)]
    generalize s.finalText sql [] = text at hread h ⊢
    unfold resolve
    rw [Action.run_bind_apply, Action.run_subject_apply]
    dsimp only
    cases h with
    | kept hon hkept =>
      rw [if_pos hon, Action.run_bind_apply, Action.run_act_apply, hkept]
      exact ⟨_, rfl, Cursor.presents_ofSnapshot found.names found.rows⟩
    | asked hasked hopen hrun hnames =>
      rename_i columns
      have hshown : (⟨columns.map Column.name, found.rows⟩ : Found) = found := by rw [hnames]
      rw [← hshown]
      unfold opened looked at hopen hrun
      dsimp only at hopen hrun
      split
      · next hon =>
        rw [if_pos hon] at hopen hrun
        rw [Action.run_bind_apply, Action.run_act_apply, hasked hon]
        exact askBackend_answers hread (Prod.ext hopen rfl) hrun
      · next hoff =>
        rw [if_neg hoff] at hopen hrun
        exact askBackend_answers hread (Prod.ext hopen rfl) hrun
  obtain ⟨c, hc, hpresents⟩ := hquery
  refine ⟨c, ?_, hpresents⟩
  have hrun : (read sql : Action (Session C) E Cursor).run (s, w) = _ :=
    Action.run_bind_pure_apply (query sql []) QueryOutcome.cursor (s, w)
  rw [hrun, hc]
  rfl

end Session

end SqlGateway
