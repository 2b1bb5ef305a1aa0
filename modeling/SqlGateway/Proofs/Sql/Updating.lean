import Mathlib.Data.List.Nodup
import Mathlib.Logic.Function.Basic
import SqlGateway.Proofs.OrderedMap
import SqlGateway.Sql.Statement

/-!
# What updates do to tables

An update assigns to columns of those rows of a table that meet its condition. All that it assigns
is taken from the row as it was. A batch update tells rows apart by an index column: it assigns by
cases, one arm for each of its own rows that lists the column, and keeps the cell of any other. So
where its rows differ in the index, it does what updates of one row each do one after the other.

Main definitions:

* `Update`: an update as data, with its text and with what it does to a row.
* `Update.runAll`: what several updates do to the tables, one after the other.
* `Statement.keyedRows`: the rows of a batch, each by its index.
* `Update.ofBatch`, `Update.ofRow`: a batch update, and the update of one of its rows.

Main results:

* `Update.text_ofBatch`, `Update.text_ofRow`: these are the statements that are sent.
* `Statement.mem_batchArms_iff`: where the fields of a row are in a batch update.
* `Update.onRow_ofBatch`: one batch update does what those of its rows do.
* `Update.runAll_ofBatch`: so do several.
-/

namespace SqlGateway

/-! ## Rows of a table -/

/-- A row of a table: the literal in each column. -/
abbrev Cells := String → String

/-- The column has this literal. A comparison with NULL is never true, and other literals are equal
exactly if their texts are. -/
def Cells.Has (cells : Cells) (column literal : String) : Prop :=
  cells column = literal ∧ literal ≠ "NULL"

instance (cells : Cells) (column literal : String) : Decidable (cells.Has column literal) :=
  inferInstanceAs (Decidable (_ ∧ _))

/-- A column has one literal at most. -/
theorem Cells.Has.unique {cells : Cells} {column literal literal' : String}
    (h : cells.Has column literal) (h' : cells.Has column literal') : literal = literal' :=
  h.1.symm.trans h'.1

/-- The row with some of its cells written over. -/
def Cells.over (fields : List (String × String)) (cells : Cells) : Cells :=
  fun column => (fields.lookup column).getD (cells column)

/-! ## Updates -/

/-- What an update assigns to a column. -/
inductive Assigned where
  | literal (text : String)
  /-- The value of the first arm whose literal the index has, or else the cell of the column. -/
  | byCase (index : String) (arms : List (String × String)) (column : String)

namespace Assigned

def text : Assigned → String
  | literal text => text
  | byCase index arms column =>
    let whens := arms.map fun (id, value) => "WHEN " ++ index ++ " = " ++ id ++ " THEN " ++ value
    "CASE " ++ Text.join " " whens ++ " ELSE " ++ column ++ " END"

def value (cells : Cells) : Assigned → String
  | literal text => text
  | byCase index arms column =>
    ((arms.find? fun arm => cells.Has index arm.1).map Prod.snd).getD (cells column)

end Assigned

/-- The condition of an update. -/
inductive RowCondition where
  | equals (column literal : String)
  | among (column : String) (literals : List String)

namespace RowCondition

def text : RowCondition → String
  | equals column literal => column ++ " = " ++ literal
  | among column literals => column ++ " IN (" ++ Text.join "," literals ++ ")"

def Holds (cells : Cells) : RowCondition → Prop
  | equals column literal => cells.Has column literal
  | among column literals => ∃ literal ∈ literals, cells.Has column literal

instance (cells : Cells) : DecidablePred (Holds cells)
  | equals column literal => inferInstanceAs (Decidable (cells.Has column literal))
  | among column literals =>
    inferInstanceAs (Decidable (∃ literal ∈ literals, cells.Has column literal))

end RowCondition

/-- The rows of each table. -/
abbrev Tables := String → List Cells

structure Update where
  table : String
  assigned : List (String × Assigned)
  condition : RowCondition

namespace Update

def text (u : Update) : String :=
  "UPDATE " ++ u.table ++ " SET " ++
    Text.join ", " (u.assigned.map fun (column, value) => column ++ " = " ++ value.text) ++
    " WHERE " ++ u.condition.text

/-- What becomes of a row. All values are taken from the row as it was. -/
def onRow (u : Update) (cells : Cells) : Cells :=
  if u.condition.Holds cells then
    cells.over (u.assigned.map fun (column, value) => (column, value.value cells))
  else cells

def run (tables : Tables) (u : Update) : Tables :=
  Function.update tables u.table ((tables u.table).map u.onRow)

/-- One update after the other. -/
def runAll (updates : List Update) (tables : Tables) : Tables :=
  updates.foldl run tables

/-- What becomes of a row by one update after the other. -/
def onRowAll (updates : List Update) (cells : Cells) : Cells :=
  updates.foldl (fun cells u => u.onRow cells) cells

theorem onRowAll_append (us vs : List Update) (cells : Cells) :
    onRowAll (us ++ vs) cells = onRowAll vs (onRowAll us cells) :=
  List.foldl_append

/-- Updates of one table change its rows, each by itself. -/
theorem runAll_eq {table : String} {updates : List Update} (h : ∀ u ∈ updates, u.table = table)
    (tables : Tables) :
    runAll updates tables = Function.update tables table ((tables table).map (onRowAll updates)) := by
  induction updates generalizing tables with
  | nil =>
    have hsame : (tables table).map (onRowAll []) = tables table := List.map_id _
    rw [hsame, Function.update_eq_self]
    rfl
  | cons u updates ih =>
    obtain ⟨rfl, hrest⟩ := List.forall_mem_cons.1 h
    show runAll updates (u.run tables) = _
    rw [ih hrest, run, Function.update_self, Function.update_idem, List.map_map]
    rfl

/-- What the updates do to each row is all that they do. -/
theorem runAll_congr (table : String) {us vs : List Update} (hus : ∀ u ∈ us, u.table = table)
    (hvs : ∀ v ∈ vs, v.table = table) (h : ∀ cells, onRowAll us cells = onRowAll vs cells)
    (tables : Tables) : runAll us tables = runAll vs tables := by
  rw [runAll_eq hus, runAll_eq hvs, funext h]

end Update

/-! ## Batch updates -/

namespace Statement

/-- The rows of a batch that list the index column, each by its literal there, with its other
fields. -/
def keyedRows (index : String) (rows : List (List (String × String))) :
    List (String × List (String × String)) :=
  rows.filterMap fun row => (row.lookup index).map fun id => (id, row.filter fun f => f.1 ≠ index)

/-- The fields of keyed rows, each with the literal of its row: the column, the literal, and the
value. -/
def keyedFields (keyed : List (String × List (String × String))) :
    List (String × String × String) :=
  keyed.flatMap fun (id, fields) => fields.map fun (column, value) => (column, id, value)

/-- The arms of a column in the case expression for it. -/
def armsOf (s : BatchUpdate) (column : String) : List (String × String) :=
  ((keyedFields (keyedRows s.index s.rows)).filter fun arm => arm.1 = column).map Prod.snd

/-- The columns that a batch update assigns to. -/
def armedColumns (s : BatchUpdate) : List String :=
  ((keyedFields (keyedRows s.index s.rows)).map Prod.fst).eraseDups

variable {s : BatchUpdate} {column id value : String}

theorem ids_keyedRows (index : String) (rows : List (List (String × String))) :
    (keyedRows index rows).map Prod.fst = rows.filterMap fun row => row.lookup index := by
  rw [keyedRows, List.map_filterMap]
  congr 1
  funext row
  cases row.lookup index <;> rfl

theorem keyedFields_keyedRows (index : String) (rows : List (List (String × String))) :
    keyedFields (keyedRows index rows) = rows.flatMap fun row =>
      (row.lookup index).toList.flatMap fun id =>
        (row.filter fun f => f.1 ≠ index).map fun (column, value) => (column, id, value) := by
  rw [keyedFields, keyedRows, List.filterMap_eq_flatMap_toList, List.flatMap_assoc]
  congr 1
  funext row
  cases row.lookup index <;> rfl

theorem batchArms_eq (s : BatchUpdate) :
    batchArms s = (armedColumns s).map fun column => (column, armsOf s column) := by
  refine congrArg (fun arms : List (String × String × String) =>
    (arms.map Prod.fst).eraseDups.map fun column =>
      (column, (arms.filter fun arm => arm.1 = column).map Prod.snd))
    (?_ : _ = keyedFields (keyedRows s.index s.rows))
  rw [keyedFields_keyedRows]
  congr 1
  funext row
  cases row.lookup s.index with
  | none => rfl
  | some id => exact (List.flatMap_singleton _ _).symm

theorem mem_keyedFields {keyed : List (String × List (String × String))} :
    (column, id, value) ∈ keyedFields keyed ↔
      ∃ fields, (id, fields) ∈ keyed ∧ (column, value) ∈ fields := by
  constructor
  · intro h
    obtain ⟨⟨id', fields⟩, hkeyed, harm⟩ := List.mem_flatMap.1 h
    obtain ⟨field, hfield, hsame⟩ := List.mem_map.1 harm
    cases hsame
    exact ⟨fields, hkeyed, hfield⟩
  · rintro ⟨fields, hkeyed, hfield⟩
    exact List.mem_flatMap.2 ⟨_, hkeyed, List.mem_map.2 ⟨_, hfield, rfl⟩⟩

theorem mem_armsOf :
    (id, value) ∈ armsOf s column ↔
      ∃ fields, (id, fields) ∈ keyedRows s.index s.rows ∧ (column, value) ∈ fields := by
  rw [← mem_keyedFields, armsOf, List.mem_map]
  constructor
  · rintro ⟨⟨column', arm⟩, harm, rfl⟩
    obtain ⟨hmem, hcolumn⟩ := List.mem_filter.1 harm
    obtain rfl : column' = column := of_decide_eq_true hcolumn
    exact hmem
  · exact fun h => ⟨_, List.mem_filter.2 ⟨h, decide_eq_true rfl⟩, rfl⟩

/-- The fields of the rows that list the index, and no others, are arms of a batch update. -/
theorem mem_batchArms_iff :
    (∃ arms, (column, arms) ∈ batchArms s ∧ (id, value) ∈ arms) ↔
      ∃ fields, (id, fields) ∈ keyedRows s.index s.rows ∧ (column, value) ∈ fields := by
  rw [← mem_armsOf, batchArms_eq]
  constructor
  · rintro ⟨arms, harms, harm⟩
    obtain ⟨_, -, hsame⟩ := List.mem_map.1 harms
    cases hsame
    exact harm
  · intro harm
    refine ⟨armsOf s column, List.mem_map.2 ⟨column, ?_, rfl⟩, harm⟩
    exact List.mem_eraseDups.2
      (List.mem_map.2 ⟨_, mem_keyedFields.2 (mem_armsOf.1 harm), rfl⟩)

theorem armsOf_eq_nil (h : column ∉ armedColumns s) : armsOf s column = [] := by
  refine List.eq_nil_iff_forall_not_mem.2 fun (id, value) harm => h (List.mem_eraseDups.2 ?_)
  exact List.mem_map.2 ⟨_, mem_keyedFields.2 (mem_armsOf.1 harm), rfl⟩

end Statement

namespace Update

open Statement (keyedRows armsOf armedColumns batchArms)

/-- A batch update without a condition of its own. -/
def ofBatch (s : BatchUpdate) : Update where
  table := s.table
  assigned := (batchArms s).map fun (column, arms) => (column, .byCase s.index arms column)
  condition := .among s.index (s.rows.filterMap fun row => row.lookup s.index)

/-- The update of the rows that have one literal in the index column. -/
def ofRow (table index : String) : String × List (String × String) → Update
  | (id, fields) =>
    ⟨table, fields.map fun (column, value) => (column, .literal value), .equals index id⟩

theorem text_ofBatch {s : BatchUpdate} (h : s.conditions = []) :
    (ofBatch s).text = Statement.batchText s := by
  have hcases : (ofBatch s).assigned.map (fun (column, value) => column ++ " = " ++ value.text) =
      (batchArms s).map (Statement.caseText s.index) := by
    rw [ofBatch, List.map_map]
    refine List.map_congr_left fun (column, arms) _ => ?_
    simp only [Function.comp_apply, Assigned.text, Statement.caseText, String.append_assoc]
    rfl
  have hnone : (if s.conditions.isEmpty then "" else Text.join " " s.conditions ++ " AND ") = "" := by
    rw [h]
    rfl
  unfold text Statement.batchText
  dsimp only
  rw [hcases, hnone, String.append_empty]
  simp only [ofBatch, RowCondition.text, String.append_assoc]

theorem text_ofRow (d : Dialect) (table index id : String) (fields : List (String × String)) :
    (ofRow table index (id, fields)).text =
      d.updateText ⟨table, fields, [index ++ " = " ++ id], [], none⟩ := by
  have hassigned : (ofRow table index (id, fields)).assigned.map
      (fun (column, value) => column ++ " = " ++ value.text) =
        fields.map Statement.assignment := by
    rw [ofRow, List.map_map]
    rfl
  have hplain : d.updateText ⟨table, fields, [index ++ " = " ++ id], [], none⟩ =
      "UPDATE " ++ table ++ " SET " ++ Text.join ", " (fields.map Statement.assignment) ++
        (" WHERE " ++ (index ++ " = " ++ id)) := by
    cases d with
    | sqlite => rfl
    | mysql | bare quote => exact String.append_empty.trans String.append_empty
  rw [hplain, text, hassigned, ← String.append_assoc]
  rfl

/-! ### One batch update -/

variable {s : BatchUpdate} {cells : Cells} {column id : String} {fields : List (String × String)}
  {table index : String} {keyed : List (String × List (String × String))}

theorem onRow_ofRow :
    (ofRow table index (id, fields)).onRow cells =
      if cells.Has index id then cells.over fields else cells := by
  have hvalues : (ofRow table index (id, fields)).assigned.map
      (fun (column, value) => (column, value.value cells)) = fields := by
    rw [ofRow, List.map_map]
    exact List.map_id _
  rw [onRow, hvalues]
  rfl

theorem lookup_map_self {α : Type} (f : String → α) (columns : List String) (column : String) :
    (columns.map fun column => (column, f column)).lookup column =
      if column ∈ columns then some (f column) else none := by
  induction columns with
  | nil => rfl
  | cons c columns ih =>
    rw [List.map_cons, lookup_cons_eq_ite, ih]
    by_cases hc : column = c
    · simp [hc]
    · simp [hc]

/-- A batch update writes into a row that meets its condition the values of the arms that the index
has, also where it does not assign to a column at all. -/
theorem onRow_ofBatch_of_holds (h : (ofBatch s).condition.Holds cells) :
    (ofBatch s).onRow cells = fun column =>
      (Assigned.byCase s.index (armsOf s column) column).value cells := by
  have hfields : (ofBatch s).assigned.map (fun (column, value) => (column, value.value cells)) =
      (armedColumns s).map fun column =>
        (column, (Assigned.byCase s.index (armsOf s column) column).value cells) := by
    rw [ofBatch, Statement.batchArms_eq, List.map_map, List.map_map]
    rfl
  rw [onRow, if_pos h, hfields]
  funext column
  rw [Cells.over, lookup_map_self]
  split
  · rfl
  · next hcolumn =>
    rw [Statement.armsOf_eq_nil hcolumn]
    rfl

/-- Rows that differ in the index and have no column twice. -/
structure TellsApart (keyed : List (String × List (String × String))) : Prop where
  ids : (keyed.map Prod.fst).Nodup
  fields : ∀ row ∈ keyed, (keysOf row.2).Nodup

/-- If the row has the literal of a row of the batch, the value of that one is found. -/
theorem value_of_mem (hkeyed : TellsApart (keyedRows s.index s.rows))
    (hrow : (id, fields) ∈ keyedRows s.index s.rows) (hid : cells.Has s.index id) :
    (Assigned.byCase s.index (armsOf s column) column).value cells =
      cells.over fields column := by
  -- an arm that the index has is an arm of this row, since no other has its literal
  have hown {arm : String × String} (harm : arm ∈ armsOf s column)
      (hhas : cells.Has s.index arm.1) : (column, arm.2) ∈ fields := by
    obtain ⟨fields', hrow', hfield⟩ := Statement.mem_armsOf.1 harm
    have hsame := List.inj_on_of_nodup_map hkeyed.ids hrow' hrow (hhas.unique hid)
    rwa [(Prod.mk.inj hsame).2] at hfield
  have hfields : (keysOf fields).Nodup := hkeyed.fields _ hrow
  show ((List.find? _ _).map Prod.snd).getD _ = _
  rw [Cells.over]
  cases hfound : (armsOf s column).find? fun arm => cells.Has s.index arm.1 with
  | some arm =>
    have hfield : (column, arm.2) ∈ fields :=
      hown (List.mem_of_find?_eq_some hfound) (by simpa using List.find?_some hfound)
    rw [(lookup_eq_some_iff_mem hfields).2 hfield]
    rfl
  | none =>
    have hnone : fields.lookup column = none := by
      refine Option.eq_none_iff_forall_ne_some.2 fun value hvalue => ?_
      have harm : (id, value) ∈ armsOf s column :=
        Statement.mem_armsOf.2 ⟨fields, hrow, (lookup_eq_some_iff_mem hfields).1 hvalue⟩
      exact List.find?_eq_none.1 hfound _ harm (decide_eq_true hid)
    rw [hnone]
    rfl

theorem onRowAll_of_none (h : ∀ row ∈ keyed, ¬cells.Has index row.1) :
    onRowAll (keyed.map (ofRow table index)) cells = cells := by
  induction keyed with
  | nil => rfl
  | cons row keyed ih =>
    obtain ⟨hrow, hrest⟩ := List.forall_mem_cons.1 h
    show onRowAll (keyed.map (ofRow table index)) ((ofRow table index (row.1, row.2)).onRow cells) = _
    rw [onRow_ofRow, if_neg hrow, ih hrest]

theorem onRowAll_of_mem (hids : (keyed.map Prod.fst).Nodup) (hrow : (id, fields) ∈ keyed)
    (hindex : index ∉ keysOf fields) (hid : cells.Has index id) :
    onRowAll (keyed.map (ofRow table index)) cells = cells.over fields := by
  induction keyed with
  | nil => cases hrow
  | cons row keyed ih =>
    obtain ⟨hfresh, hids⟩ := List.nodup_cons.1 hids
    show onRowAll (keyed.map (ofRow table index)) ((ofRow table index (row.1, row.2)).onRow cells) = _
    rw [onRow_ofRow]
    rcases List.mem_cons.1 hrow with rfl | hrow
    · rw [if_pos hid]
      -- the index keeps its literal, so that none of the other updates finds the row
      refine onRowAll_of_none fun row hmem hhas => hfresh ?_
      have hkept : cells.over fields index = cells index := by
        rw [Cells.over, lookup_eq_none_iff_keysOf.2 hindex]
        rfl
      have hsame : row.1 = id := hhas.1.symm.trans (hkept.trans hid.1)
      exact List.mem_map.2 ⟨row, hmem, hsame⟩
    · have hother : ¬cells.Has index row.1 := fun hhas =>
        hfresh (List.mem_map.2 ⟨_, hrow, hid.unique hhas⟩)
      rw [if_neg hother, ih hids hrow]

theorem index_not_mem_keyedRows {rows : List (List (String × String))}
    (h : (id, fields) ∈ keyedRows index rows) : index ∉ keysOf fields := by
  obtain ⟨row, -, hrow⟩ := List.mem_filterMap.1 h
  obtain ⟨_, -, hsame⟩ := Option.map_eq_some_iff.1 hrow
  cases hsame
  rintro hmem
  obtain ⟨field, hfield, rfl⟩ := List.mem_map.1 hmem
  exact of_decide_eq_true (List.mem_filter.1 hfield).2 rfl

/-- A batch update does to a row what the updates of its rows do one after the other. -/
theorem onRow_ofBatch (hkeyed : TellsApart (keyedRows s.index s.rows)) (cells : Cells) :
    (ofBatch s).onRow cells =
      onRowAll ((keyedRows s.index s.rows).map (ofRow s.table s.index)) cells := by
  by_cases hfound : ∃ row ∈ keyedRows s.index s.rows, cells.Has s.index row.1
  · obtain ⟨⟨id, fields⟩, hrow, hid⟩ := hfound
    have hholds : (ofBatch s).condition.Holds cells := by
      refine ⟨id, ?_, hid⟩
      rw [← Statement.ids_keyedRows]
      exact List.mem_map_of_mem hrow
    rw [onRow_ofBatch_of_holds hholds,
      onRowAll_of_mem hkeyed.ids hrow (index_not_mem_keyedRows hrow) hid]
    exact funext fun column => value_of_mem hkeyed hrow hid
  · have hnot : ¬(ofBatch s).condition.Holds cells := by
      rintro ⟨id, hmem, hid⟩
      rw [← Statement.ids_keyedRows] at hmem
      obtain ⟨row, hrow, rfl⟩ := List.mem_map.1 hmem
      exact hfound ⟨row, hrow, hid⟩
    rw [onRow, if_neg hnot, onRowAll_of_none fun row hrow hhas => hfound ⟨row, hrow, hhas⟩]

/-- A batch update assigns something if one of its rows that list the index has another field. -/
theorem assigned_ofBatch_ne_nil (hrow : (id, fields) ∈ keyedRows s.index s.rows)
    (hsome : fields ≠ []) : (ofBatch s).assigned ≠ [] := by
  obtain ⟨field, hfield⟩ := List.exists_mem_of_ne_nil fields hsome
  obtain ⟨arms, harms, -⟩ := Statement.mem_batchArms_iff.2 ⟨fields, hrow, hfield⟩
  exact List.ne_nil_of_mem (List.mem_map_of_mem harms)

/-! ### Several batch updates -/

theorem keyedRows_append (index : String) (rows rows' : List (List (String × String))) :
    keyedRows index (rows ++ rows') = keyedRows index rows ++ keyedRows index rows' :=
  List.filterMap_append

variable {stretches : List (List (List (String × String)))}

/-- Batch updates of stretches of rows do to a row what the updates of all rows do one after the
other. -/
theorem onRowAll_ofBatch (hkeyed : TellsApart (keyedRows index stretches.flatten))
    (cells : Cells) :
    onRowAll (stretches.map fun rows => ofBatch ⟨table, rows, index, []⟩) cells =
      onRowAll ((keyedRows index stretches.flatten).map (ofRow table index)) cells := by
  induction stretches generalizing cells with
  | nil => rfl
  | cons rows stretches ih =>
    rw [List.flatten_cons, keyedRows_append] at hkeyed ⊢
    have hids := hkeyed.ids
    rw [List.map_append] at hids
    obtain ⟨hfirst, hrest, -⟩ := List.nodup_append.1 hids
    have hhead : TellsApart (keyedRows index rows) :=
      ⟨hfirst, fun row hrow => hkeyed.fields row (List.mem_append_left _ hrow)⟩
    have htail : TellsApart (keyedRows index stretches.flatten) :=
      ⟨hrest, fun row hrow => hkeyed.fields row (List.mem_append_right _ hrow)⟩
    rw [List.map_append, onRowAll_append,
      ← onRow_ofBatch (s := ⟨table, rows, index, []⟩) hhead, ← ih htail]
    rfl

/-- So they do to the tables. -/
theorem runAll_ofBatch (hkeyed : TellsApart (keyedRows index stretches.flatten))
    (tables : Tables) :
    runAll (stretches.map fun rows => ofBatch ⟨table, rows, index, []⟩) tables =
      runAll ((keyedRows index stretches.flatten).map (ofRow table index)) tables := by
  refine runAll_congr table ?_ ?_ (onRowAll_ofBatch hkeyed) tables
  all_goals
    intro u hu
    obtain ⟨_, -, rfl⟩ := List.mem_map.1 hu
    rfl

/-- A row that has the index of none of the rows stays as it is, in its place. -/
theorem getElem?_runAll_ofRow {tables : Tables} {i : Nat} (hcells : (tables table)[i]? = some cells)
    (h : ∀ row ∈ keyed, ¬cells.Has index row.1) :
    (runAll (keyed.map (ofRow table index)) tables table)[i]? = some cells := by
  have htable : ∀ u ∈ keyed.map (ofRow table index), u.table = table := by
    intro u hu
    obtain ⟨_, -, rfl⟩ := List.mem_map.1 hu
    rfl
  rw [runAll_eq htable, Function.update_self, List.getElem?_map, hcells, Option.map_some,
    onRowAll_of_none h]

end Update

end SqlGateway
