import SqlGateway.Proofs.OrderedMap
import SqlGateway.Proofs.Result.CursorPage

/-!
# Values under a name

The columns of a join may share a name. A row keeps all of their values, and is asked for the first
one; the same row as a map has room for one value only, and that is the last. So the two agree on a
name exactly if its first and its last value are the same, as they are where the name stands once.

Main definitions:

* `Row.valuesUnder`: the values under a name, in the order of their columns.
* `Cursor.Replied`: what was replied to a call in a run.

Main results:

* `Row.get?_eq_head?`, `Row.get?_toRecord`: which of these values a row and its map give.
* `Cursor.views_agree_iff`: rows, maps and the map of the first row, over every run of calls.
-/

namespace SqlGateway

/-! ## Rows and their maps -/

namespace Row

/-- The values under the columns of a name. A column without a value is passed over. -/
def valuesUnder (r : Row) (column : String) : List Value :=
  (r.columns.zip r.values).filterMap fun (name, value) => if name = column then some value else none

/-- A row gives the first of the values. -/
theorem get?_eq_head? (r : Row) (column : String) :
    r.get? column = (r.valuesUnder column).head? := by
  obtain ⟨columns, values⟩ := r
  unfold get? valuesUnder value?
  dsimp only
  -- over the columns, which lose their values one by one
  induction columns generalizing values with
  | nil => rfl
  | cons name columns ih =>
    cases values with
    -- a place that is found has no value any more
    | nil => cases (name :: columns).idxOf? column <;> rfl
    | cons value values =>
      rw [List.zip_cons_cons, List.idxOf?_cons]
      by_cases hname : name = column
      · simp [hname]
      · rw [List.filterMap_cons_none (by simp [hname]), ← ih]
        simp only [beq_iff_eq, hname, if_false]
        cases columns.idxOf? column <;> rfl

theorem lookup_eq_head? (pairs : List (String × Value)) (column : String) :
    pairs.lookup column = (pairs.filterMap fun (name, value) =>
      if name = column then some value else none).head? := by
  induction pairs with
  | nil => rfl
  | cons pair pairs ih =>
    rw [lookup_cons_eq_ite]
    by_cases hname : pair.1 = column
    · simp [hname]
    · rw [if_neg (Ne.symm hname), List.filterMap_cons_none (by simp [hname]), ih]

/-- A map is asked for the last of them, which has replaced all others. -/
theorem get?_toRecord (r : Row) (column : String) :
    r.toRecord.get? column = (r.valuesUnder column).getLast? := by
  have hrecord : r.toRecord = OrderedMap.empty.insertAll (r.columns.zip r.values) := rfl
  rw [hrecord, OrderedMap.get?_insertAll, OrderedMap.get?_empty, lookup_eq_head?,
    List.filterMap_reverse, List.head?_reverse]
  simp [valuesUnder]

/-- A map has a value under a name if the row has. -/
theorem isSome_get?_toRecord (r : Row) (column : String) :
    (r.toRecord.get? column).isSome = (r.get? column).isSome := by
  rw [get?_toRecord, get?_eq_head?]
  cases r.valuesUnder column <;> simp

end Row

namespace Cursor

/-! ## Replies -/

/-- Somewhere in a run of calls, the call was made and this was the reply. -/
def Replied (c : Cursor) (calls : List Call) (call : Call) (reply : Reply) : Prop :=
  (call, reply) ∈ calls.zip (c.run calls).1

/-- A page replies with the same rows throughout a run. -/
theorem Page.exists_of_mem_zip_run {p : Page} {calls : List Call} {call : Call} {reply : Reply}
    (h : (call, reply) ∈ calls.zip (p.run calls).1) :
    ∃ q : Page, q.objects = p.objects ∧ reply = q.reply call := by
  induction calls generalizing p with
  | nil => cases h
  | cons one calls ih =>
    rcases List.mem_cons.1 h with heq | h
    · cases heq
      exact ⟨p.after call, p.objects_after call, rfl⟩
    · obtain ⟨q, hobjects, hreply⟩ := ih h
      exact ⟨q, hobjects.trans (p.objects_after one), hreply⟩

/-- **Views of a row.** In a run of calls of a new cursor, in whatever order, a row and the same row
as a map are both there or both missing, and so are their values under a name. The values are the
same exactly if the first and the last value under the name are. A column of the first row is looked
up in its map. -/
theorem views_agree_iff (source : Source) (columns : List String) (numRows : Nat)
    {calls : List Call} {n : Nat} {row? : Option Row} {record? : Option Record} (column : String)
    (hrow : Replied (ofSource source columns numRows) calls (.row n) (.row row?))
    (hrecord : Replied (ofSource source columns numRows) calls (.record n) (.record record?)) :
    row?.isSome = record?.isSome ∧
      (row?.bind fun r => r.get? column).isSome = (record?.bind fun r => r.get? column).isSome ∧
      ((row?.bind fun r => r.get? column) = (record?.bind fun r => r.get? column) ↔
        ∀ r ∈ row?, (r.valuesUnder column).head? = (r.valuesUnder column).getLast?) ∧
      (n = 0 → ∀ value?, Replied (ofSource source columns numRows) calls (.value column)
        (.value value?) → value? = record?.bind fun r => r.get? column) := by
  -- all replies are about the rows of one page
  let p : Page := ⟨columns, rowsSeen source.takeRows.1 calls, 0⟩
  have hreplies : ((ofSource source columns numRows).run calls).1 = (p.run calls).1 := by
    have hrun := (run_ofSource source columns numRows calls []).1
    rwa [List.append_nil] at hrun
  have hpage {call : Call} {reply : Reply}
      (h : Replied (ofSource source columns numRows) calls call reply) :
      ∃ q : Page, q.objects = p.objects ∧ reply = q.reply call := by
    rw [Replied, hreplies] at h
    exact Page.exists_of_mem_zip_run h
  -- the two replies may have been given at different positions, which makes no difference to them
  obtain ⟨q, hq, hrow⟩ := hpage hrow
  obtain ⟨q', hq', hrecord⟩ := hpage hrecord
  obtain rfl : row? = p.objects[n]? := hq ▸ Reply.row.inj hrow
  have hmap : record? = p.objects[n]?.map Row.toRecord := by
    rw [← hq', ← List.getElem?_map]
    exact Reply.record.inj hrecord
  rw [hmap]
  refine ⟨by simp, ?_, ?_, ?_⟩
  · cases p.objects[n]? with
    | none => rfl
    | some r => exact (r.isSome_get?_toRecord column).symm
  · cases p.objects[n]? with
    | none => simp
    | some r => simp [Row.get?_eq_head?, Row.get?_toRecord]
  · rintro rfl value? hvalue
    obtain ⟨q'', hq'', hvalue⟩ := hpage hvalue
    rw [Reply.value.inj hvalue, Page.maps, hq'', List.head?_map, List.head?_eq_getElem?]

/-- Under a name that stands twice, values that are the same are found by both. -/
theorem views_agree_iff_alike :
    let source : Source := .live (.buffered (.ofRows [.named "x", .named "y", .named "x"]
      [[.bool true, .null, .bool true]]))
    let calls : List Call := [.value "x", .record 0, .row 0]
    let row : Row := ⟨["x", "y", "x"], [.bool true, .null, .bool true]⟩
    Replied (ofSource source ["x", "y", "x"] 1) calls (.row 0) (.row (some row)) ∧
      Replied (ofSource source ["x", "y", "x"] 1) calls (.record 0) (.record (some row.toRecord)) ∧
      row.get? "x" = row.toRecord.get? "x" := by
  intro source calls row
  have hrow : Replied (ofSource source ["x", "y", "x"] 1) calls (.row 0) (.row (some row)) :=
    .tail _ (.tail _ (.head _))
  have hrecord : Replied (ofSource source ["x", "y", "x"] 1) calls (.record 0)
      (.record (some row.toRecord)) :=
    .tail _ (.head _)
  obtain ⟨-, -, hagree, -⟩ := views_agree_iff source ["x", "y", "x"] 1 "x" hrow hrecord
  exact ⟨hrow, hrecord, hagree.2 fun r hr => by cases hr; rfl⟩

/-- Values that differ are not: a row has the first of them, and its map and the look-up of a column
of the first row the last. -/
theorem views_disagree :
    let c := ofHandle (.buffered (.ofRows [.named "x", .named "x"] [[.bool true, .bool false]]))
    ((c.row? 0).1.bind fun r => r.get? "x") = some (.bool true) ∧
      ((c.record? 0).1.bind fun r => r.get? "x") = some (.bool false) ∧
      (c.value? "x").1 = some (.bool false) :=
  ⟨rfl, rfl, rfl⟩

end Cursor

end SqlGateway
