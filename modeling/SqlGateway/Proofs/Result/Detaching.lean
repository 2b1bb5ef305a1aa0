import SqlGateway.Proofs.Result.CursorPage

/-!
# Detached cursors

A snapshot that is taken of a cursor holds the rows of its source, whatever was asked of the cursor
before, unless the source was released before they were needed. So a cursor on the snapshot cannot
be told from one that has just been opened on the same rows, and its own snapshot is the same
again.

Main definition:

* `Cursor.heldUntilTaken`: the source was not released before the rows were taken from it.

Main results:

* `Cursor.snapshot_run_ofSource`: the snapshot of a cursor that has been used.
* `Cursor.detached_replies`: the cursor on that snapshot.
-/

namespace SqlGateway.Cursor

/-! ## Releasing the source -/

/-- The call releases the source. -/
def Call.releases : Call → Bool
  | .free => true
  | _ => false

/-- None of the calls that come before the rows are taken releases the source. -/
def heldUntilTaken (calls : List Call) : Bool :=
  (calls.takeWhile fun call => !call.takesRows).all fun call => !call.releases

/-- A source that was held until its rows were taken shows all of them. -/
theorem rowsSeen_of_heldUntilTaken (rows : List (List Value)) {calls : List Call}
    (h : heldUntilTaken calls = true) : rowsSeen rows calls = rows := by
  induction calls with
  | nil => rfl
  | cons call calls ih =>
    cases call with
    | free => cases h
    | current => exact ih h
    | _ => rfl

/-- What is asked for afterwards does not matter. -/
theorem heldUntilTaken_concat {calls : List Call} (h : heldUntilTaken calls = true) {call : Call}
    (hcall : call.releases = false) : heldUntilTaken (calls ++ [call]) = true := by
  induction calls with
  | nil => cases call <;> first | rfl | cases hcall
  | cons one calls ih =>
    cases one with
    | free => cases h
    | current => exact ih h
    | _ => rfl

/-! ## The number of rows -/

section
variable (c : Cursor)

theorem numRows_takeValues : c.takeValues.2.numRows = c.numRows := by
  unfold takeValues
  split <;> rfl

theorem numRows_valueRows : c.valueRows.2.numRows = c.numRows := by
  unfold valueRows
  split
  · rfl
  · exact numRows_takeValues c

theorem numRows_records : c.records.2.numRows = c.numRows := by
  unfold records
  split
  · rfl
  · exact numRows_valueRows c

theorem numRows_keepLead : c.keepLead.numRows = c.numRows := by
  unfold keepLead
  split
  · rfl
  · exact numRows_records c

theorem numRows_decodeAll {α : Type} [RowType α] (read : Json → Option α) :
    (c.decodeAll read).2.numRows = c.numRows := by
  unfold decodeAll
  dsimp only
  split
  · rfl
  · split <;> exact numRows_records c

theorem numRows_decodeRow {α : Type} (read : Json → Option α) (n : Nat) :
    (c.decodeRow read n).2.numRows = c.numRows := by
  unfold decodeRow
  dsimp only
  split <;> exact numRows_records c

theorem numRows_move (place : Nat → Nat → Nat) : (c.move place).2.numRows = c.numRows := by
  unfold move
  dsimp only
  split
  · exact numRows_valueRows c
  · exact (numRows_valueRows _).trans (numRows_valueRows c)

/-- The number of rows that was told when a cursor was made does not change. -/
theorem numRows_perform (call : Call) : (c.perform call).2.numRows = c.numRows := by
  cases call with
  | rows => exact numRows_valueRows c
  | records => exact numRows_records c
  | row n => exact numRows_valueRows c
  | record n => exact numRows_records c
  | value column => exact numRows_keepLead c
  | typedRows kind => exact numRows_decodeAll c kind.read
  | typedRow kind n => exact numRows_decodeRow c kind.read n
  | snapshot => exact numRows_valueRows c
  | first => exact numRows_move c _
  | last => exact numRows_move c _
  | next => exact numRows_move c _
  | previous => exact numRows_move c _
  | current => rfl
  | free => rfl

theorem numRows_run (calls : List Call) : (c.run calls).2.numRows = c.numRows := by
  induction calls generalizing c with
  | nil => rfl
  | cons call calls ih => exact (ih _).trans (numRows_perform c call)

end

/-! ## Snapshots -/

/-- One more call at the end of a run. -/
theorem run_concat (c : Cursor) (calls : List Call) (call : Call) :
    c.run (calls ++ [call]) =
      ((c.run calls).1 ++ [((c.run calls).2.perform call).1],
        ((c.run calls).2.perform call).2) := by
  induction calls generalizing c with
  | nil => rfl
  | cons one calls ih => simp only [List.cons_append, run, ih]

theorem Page.run_concat (p : Page) (calls : List Call) (call : Call) :
    (p.run (calls ++ [call])).1 =
      (p.run calls).1 ++ [((p.run calls).2.after call).reply call] := by
  induction calls generalizing p with
  | nil => rfl
  | cons one calls ih => simp only [List.cons_append, Page.run, ih]

@[simp]
theorem Page.columns_run (p : Page) (calls : List Call) : (p.run calls).2.columns = p.columns := by
  induction calls generalizing p with
  | nil => rfl
  | cons call calls ih => simp [Page.run, ih]

/-- A snapshot of a cursor has the rows that its calls see. -/
theorem snapshot_run_ofSource (source : Source) (columns : List String) (numRows : Nat)
    (calls : List Call) :
    let rows := rowsSeen source.takeRows.1 (calls ++ [.snapshot])
    ((ofSource source columns numRows).run calls).2.toSnapshot.1 =
      ⟨columns, rows, rows.length⟩ := by
  intro rows
  -- the snapshot is the last reply of a run in which it is asked for at the end
  have hreplies := (run_ofSource source columns numRows (calls ++ [.snapshot]) []).1
  rw [List.append_nil, run_concat, Page.run_concat] at hreplies
  have hlast := (List.append_inj' hreplies rfl).2
  have hsnapshot := Reply.snapshot.inj (List.cons.inj hlast).1
  rw [Page.columns_after, Page.rows_after, Page.columns_run, Page.rows_run] at hsnapshot
  exact hsnapshot

/-- The snapshot of a cursor whose source was held until its rows were taken. -/
theorem snapshot_run_of_heldUntilTaken (o : Origin) {calls : List Call}
    (h : heldUntilTaken calls = true) :
    (o.cursor.run calls).2.toSnapshot.1 = ⟨o.columns, o.rows, o.rows.length⟩ := by
  obtain ⟨source, numRows, hcursor, hrows⟩ := o.exists_ofSource
  rw [hcursor, snapshot_run_ofSource,
    rowsSeen_of_heldUntilTaken _ (heldUntilTaken_concat h rfl), hrows]

/-! ## Cursors on snapshots -/

/-- Cursors on the same rows under the same columns reply alike. -/
theorem replies_congr (o o' : Origin) (hcolumns : o.columns = o'.columns) (hrows : o.rows = o'.rows)
    (calls : List Call) : (o.cursor.run calls).1 = (o'.cursor.run calls).1 := by
  obtain ⟨source, numRows, hcursor, hsource⟩ := o.exists_ofSource
  obtain ⟨source', numRows', hcursor', hsource'⟩ := o'.exists_ofSource
  have hreplies := (run_ofSource source o.columns numRows calls []).1
  have hreplies' := (run_ofSource source' o'.columns numRows' calls []).1
  rw [hcursor, hcursor', hreplies, hreplies', hcolumns, hsource, hsource', hrows]

/-- **Detaching.** A cursor on buffered rows is used in any way, but not released before it needed
the rows. Then the cursor on its snapshot gives the same replies and the same number of rows as one
that is opened on the rows anew, over every run of calls, and its own snapshot is the same. -/
theorem detached_replies (b : BufferedRows) {calls : List Call}
    (hheld : heldUntilTaken calls = true) :
    let used := ((ofHandle (.buffered b)).run calls).2
    let fresh := ofHandle (.buffered (.ofRows b.columns b.rows))
    ∀ more, (used.detach.run more).1 = (fresh.run more).1 ∧
      (used.detach.run more).2.numRows = (fresh.run more).2.numRows ∧
      (heldUntilTaken more = true →
        (used.detach.run more).2.toSnapshot.1 = used.toSnapshot.1) := by
  intro used fresh more
  have hsnapshot : used.toSnapshot.1 = ⟨b.columns.map Column.name, b.rows, b.rows.length⟩ :=
    snapshot_run_of_heldUntilTaken (.buffered b) hheld
  -- the detached cursor has another origin than the fresh one, with the same rows
  have hdetach : used.detach = (Origin.detached used.toSnapshot.1).cursor := rfl
  rw [hdetach, hsnapshot]
  refine ⟨?_, ?_, fun hmore => snapshot_run_of_heldUntilTaken _ hmore⟩
  · exact replies_congr (.detached ⟨b.columns.map Column.name, b.rows, b.rows.length⟩)
      (.buffered (.ofRows b.columns b.rows)) rfl rfl more
  · rw [numRows_run, numRows_run]
    rfl

/-- Rows of which the second was read already, under a name that stands twice. The cursor has moved
and was released after that. -/
theorem detached_replies_released :
    let b : BufferedRows := ⟨[.named "x", .named "x"], [[.bool true, .null], [.null]], 1⟩
    let used := ((ofHandle (.buffered b)).run [.current, .next, .free, .records]).2
    heldUntilTaken [.current, .next, .free, .records] = true ∧
      (used.detach.run [.next, .value "x", .previous]).1 =
        [.row (some ⟨["x", "x"], [.null]⟩), .value (some .null),
          .row (some ⟨["x", "x"], [.bool true, .null]⟩)] ∧
      used.detach.toSnapshot.1 = used.toSnapshot.1 := by
  intro b used
  have hheld : heldUntilTaken [.current, .next, .free, .records] = true := rfl
  have hdetached := detached_replies b hheld
  exact ⟨hheld, (hdetached [.next, .value "x", .previous]).1, (hdetached []).2.2 rfl⟩

end SqlGateway.Cursor
