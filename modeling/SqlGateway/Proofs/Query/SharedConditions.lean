import SqlGateway.Proofs.Query.DeleteGuard

/-!
# One condition for reads and writes

A caller looks at rows with a select and then updates or deletes them with the same clauses. The
texts of the three statements are put together in different places: a select joins conditions and
patterns as it goes, an update takes them as one list, and a delete gets two lists, which SQLite
joins in a way of its own. The rows are the same only if all of them come to the same text.

A statement is taken apart into its WHERE clause and the frame around it, which is written down
without a look at the conditions.

Main definitions:

* `Clauses.whereClause`: the WHERE clause of a set of clauses, empty without conditions.
* `Frame`: what stands around the clause in a statement.

Main result:

* `Builder.conditions_shared`: select, update and delete have the same clause in their frames.
-/

namespace SqlGateway

/-! ## The clause -/

/-- What stands before the first part stands before the whole. -/
theorem Text.join_append_head (sep lead x : String) (xs : List String) :
    join sep ((lead ++ x) :: xs) = lead ++ join sep (x :: xs) := by
  unfold join
  cases xs with
  | nil => rw [String.intercalate_singleton, String.intercalate_singleton]
  | cons y ys =>
    rw [String.intercalate_cons_cons, String.intercalate_cons_cons]
    simp only [String.append_assoc]

namespace Clauses

/-- The WHERE clause of the conditions. Without any there is none. -/
def whereClause (c : Clauses) : String :=
  if c.conditionTexts = [] then "" else " WHERE " ++ c.conditionText

theorem conditions_eq_nil_iff (c : Clauses) : c.conditions = [] ↔ c.conditionTexts = [] := by
  unfold conditions conditionTexts Fragment.texts
  cases c.wheres <;> cases c.likes <;> simp [Fragment.render]

/-- The list that an update gets, joined, is the text in a select. -/
theorem join_conditions (c : Clauses) : Text.join " " c.conditions = c.conditionText := by
  unfold conditions conditionText
  cases c.wheres with
  | nil =>
    cases c.likes with
    | nil => rfl
    | cons like likes => exact String.empty_append.symm
  | cons first wheres =>
    cases c.likes with
    | nil => exact String.append_empty.symm
    | cons like likes =>
      -- the list has the AND in front of its first pattern, the text has it between its halves
      show Text.join " " (Fragment.render (first :: wheres) ++
          ("AND " ++ like.text) :: likes.map Fragment.joined) =
        Text.join " " (Fragment.render (first :: wheres)) ++
          (" AND " ++ Text.join " " (like.text :: likes.map Fragment.joined))
      have hsplit : Text.join " " (Fragment.render (first :: wheres) ++
            ("AND " ++ like.text) :: likes.map Fragment.joined) =
          Text.join " " (Fragment.render (first :: wheres)) ++ " " ++
            Text.join " " (("AND " ++ like.text) :: likes.map Fragment.joined) :=
        String.intercalate_append_of_ne_nil (List.cons_ne_nil _ _) (List.cons_ne_nil _ _)
      have hand : " AND " = " " ++ "AND " := rfl
      rw [hsplit, Text.join_append_head, hand, String.append_assoc, String.append_assoc]

/-- The two lists that a delete gets come to the text in a select. -/
theorem deleteConditions_render (c : Clauses) (table : String) (limit : Option Nat) :
    Dialect.deleteConditions ⟨table, Fragment.render c.wheres, Fragment.render c.likes, limit⟩ =
      c.conditionText := by
  unfold Dialect.deleteConditions conditionText
  cases c.wheres with
  | nil =>
    cases c.likes with
    | nil => rfl
    | cons like likes =>
      show Text.join " AND " [Text.join " " (Fragment.render (like :: likes))] = _
      unfold Text.join
      rw [String.intercalate_singleton]
      exact String.empty_append.symm
  | cons first wheres =>
    cases c.likes with
    | nil =>
      show Text.join " AND " [Text.join " " (Fragment.render (first :: wheres))] = _
      unfold Text.join
      rw [String.intercalate_singleton]
      exact String.append_empty.symm
    | cons like likes =>
      show Text.join " AND " [Text.join " " (Fragment.render (first :: wheres)),
        Text.join " " (Fragment.render (like :: likes))] = _
      unfold Text.join
      rw [String.intercalate_cons_cons, String.intercalate_singleton, String.append_assoc]
      rfl

theorem wherePart_conditions (c : Clauses) :
    Statement.wherePart c.conditions = c.whereClause := by
  unfold Statement.wherePart whereClause
  simp only [List.isEmpty_iff, conditions_eq_nil_iff, join_conditions]

theorem whereClause_eq_empty_iff (c : Clauses) : c.whereClause = "" ↔ c.conditionTexts = [] := by
  unfold whereClause
  split
  · rename_i hnone
    exact iff_of_true rfl hnone
  · rename_i hsome
    refine iff_of_false (fun h => ?_) hsome
    have hlead : " WHERE " = "" := (String.append_eq_empty_iff.1 h).1
    exact absurd hlead (by decide)

/-- Conditions that are not blank leave something after WHERE. -/
theorem conditionText_ne_empty {c : Clauses} {text : String} (hmem : text ∈ c.conditionTexts)
    (hblank : Text.isBlank text = false) : c.conditionText ≠ "" := by
  have hwithin := Dialect.within_deleteConditions hmem "" none
  rw [deleteConditions_render] at hwithin
  exact hwithin.ne_empty hblank

end Clauses

/-! ## Frames -/

/-- What stands before and after the WHERE clause of a statement. -/
structure Frame where
  before : String
  after : String

namespace Frame

/-- The statement with a clause in its place. -/
def around (f : Frame) (clause : String) : String :=
  f.before ++ clause ++ f.after

end Frame

theorem Statement.orderPart_nil : orderPart [] = "" :=
  rfl

namespace Dialect

/-- The frame of a write that begins with `lead`. SQLite has the clause of a limited write in a
subquery with the limit, and no order. -/
def writeFrame (d : Dialect) (lead table : String) (order : List String) (limit : Option Nat) :
    Frame :=
  match d, limit with
  | sqlite, some n =>
    ⟨lead ++ " WHERE " ++ "rowid IN (SELECT rowid FROM " ++ table, " LIMIT " ++ toString n ++ ")"⟩
  | sqlite, none => ⟨lead, ""⟩
  | _, limit => ⟨lead, Statement.orderPart order ++ Statement.limitPart limit⟩

def updateFrame (d : Dialect) (table : String) (assignments : List (String × String))
    (order : List String) (limit : Option Nat) : Frame :=
  d.writeFrame ("UPDATE " ++ table ++ " SET " ++
    Text.join ", " (assignments.map Statement.assignment)) table order limit

def deleteFrame (d : Dialect) (table : String) (limit : Option Nat) : Frame :=
  d.writeFrame ("DELETE FROM " ++ table) table [] limit

theorem updateText_eq_around (d : Dialect) (s : UpdateStatement) :
    d.updateText s = (d.updateFrame s.table s.assignments s.order s.limit).around
      (Statement.wherePart s.conditions) := by
  obtain ⟨table, assignments, conditions, order, limit⟩ := s
  unfold updateText updateFrame Frame.around
  dsimp only
  generalize "UPDATE " ++ table ++ " SET " ++
    Text.join ", " (assignments.map Statement.assignment) = lead
  cases d with
  | sqlite =>
    cases limit with
    | none => simp only [writeFrame, String.append_empty]
    | some n =>
      simp only [writeFrame, Statement.wherePart_singleton]
      unfold rowLimit
      simp only [String.append_assoc]
      rfl
  | mysql => simp only [writeFrame, String.append_assoc]
  | bare quote => simp only [writeFrame, String.append_assoc]

theorem deleteText_eq_around (d : Dialect) {s : DeleteStatement} (h : deleteConditions s ≠ "") :
    d.deleteText s = (d.deleteFrame s.table s.limit).around (" WHERE " ++ deleteConditions s) := by
  rw [deleteText_eq_deletesWhere d h]
  unfold deletesWhere deleteFrame Frame.around
  cases d with
  | sqlite =>
    cases s.limit with
    | none => simp only [writeFrame, Statement.limitPart, String.append_assoc]
    | some n => simp only [writeFrame, String.append_assoc]
  | mysql =>
    simp only [writeFrame, Statement.orderPart_nil, String.empty_append, String.append_assoc]
  | bare quote =>
    simp only [writeFrame, Statement.orderPart_nil, String.empty_append, String.append_assoc]

end Dialect

namespace Builder

/-- The frame of a select. -/
def selectFrame (style : Style) (b : Builder) : Frame where
  before := b.selectHead style ++
    (if b.live.tables.isEmpty then "" else " FROM " ++ Text.join ", " b.live.tables) ++
    (if b.live.joins.isEmpty then "" else " " ++ Text.join " " b.live.joins)
  after := (if b.live.groups.isEmpty then "" else " GROUP BY " ++ Text.join ", " b.live.groups) ++
    (if b.live.havings.isEmpty then ""
      else " HAVING " ++ Text.join " " (Fragment.render b.live.havings)) ++
    Statement.orderPart b.live.orders ++
    (match b.limit with
      | none => ""
      | some limit => style.dialect.windowPart limit b.offset)

/-- The frame of a select is the same whatever its conditions are. -/
theorem selectFrame_conditions (style : Style) (b : Builder) (wheres likes : List Fragment) :
    selectFrame style { b with live := { b.live with wheres, likes } } = selectFrame style b :=
  rfl

theorem selectText_eq_around (style : Style) (b : Builder) :
    b.selectText style = (b.merge.selectFrame style).around b.merge.live.whereClause := by
  have hclause : (if b.merge.live.wheres.isEmpty && b.merge.live.likes.isEmpty then ""
      else " WHERE " ++ b.merge.live.conditionText) = b.merge.live.whereClause := by
    unfold Clauses.whereClause
    simp only [Clauses.conditionTexts_eq_nil_iff]
  have hassoc (head tables joins clause groups havings orders window : String) :
      head ++ (tables ++ joins ++ clause ++ groups ++ havings ++ orders ++ window) =
        head ++ tables ++ joins ++ clause ++ (groups ++ havings ++ orders ++ window) := by
    simp only [String.append_assoc]
  unfold selectText selectTail
  dsimp only
  rw [hclause]
  exact hassoc _ _ _ _ _ _ _ _

/-! ## Plans -/

/-- An update that is not refused has the clause in its frame. -/
theorem statements_update {style : Style} {b : Builder} {table? : Option String}
    {limit? : Option Nat} {assignments : List (String × String)} {table : String}
    (hassignments : b.merge.needAssignments = .ok assignments)
    (htable : b.merge.target style table? = .ok table) :
    (b.update style table? none limit?).statements =
      [(style.dialect.updateFrame table assignments b.merge.live.orders (limit? <|> b.limit)).around
        b.merge.live.whereClause] := by
  unfold update
  dsimp only
  rw [hassignments, htable]
  show [style.dialect.updateText ⟨table, assignments, b.merge.live.conditions, b.merge.live.orders,
    limit? <|> b.merge.limit⟩] = _
  rw [Dialect.updateText_eq_around, Clauses.wherePart_conditions, limit_merge]

/-- A delete has the clause in its frame, unless there is none. -/
theorem statements_delete {style : Style} {b : Builder} {table? : Option String} {table : String}
    (htable : b.merge.target style table? = .ok table)
    (hblank : ∀ text ∈ b.merge.live.conditionTexts, Text.isBlank text = false) :
    ((b.delete style table? none).statements, (b.delete style table? none).refusal) =
      if b.merge.live.conditionTexts = [] then ([], some .noDeleteCondition)
      else ([(style.dialect.deleteFrame table b.limit).around b.merge.live.whereClause], none) := by
  have hdelete : b.delete style table? none = .orRefused (b.merge.deleteStatement style table)
      b.merge fun text => .sending [text] b.merge.afterWrite := by
    unfold delete
    dsimp only
    rw [htable]
    rfl
  rw [hdelete, deleteStatement_eq]
  by_cases hnone : b.merge.live.conditionTexts = []
  · rw [if_pos hnone, if_pos hnone]
    rfl
  -- no condition is blank, so the joined text is not empty and the delete has it for its clause
  · rw [if_neg hnone, if_neg hnone, Clauses.whereClause, if_neg hnone]
    obtain ⟨text, hmem⟩ := List.exists_mem_of_ne_nil _ hnone
    have htext := Clauses.conditionText_ne_empty hmem (hblank text hmem)
    have hconditions := b.merge.live.deleteConditions_render table b.merge.limit
    have hsql := Dialect.deleteText_eq_around style.dialect (hconditions ▸ htext)
    rw [hconditions, limit_merge] at hsql
    show ([style.dialect.deleteText _], none) = _
    rw [limit_merge, hsql]

/-- **One condition for reads and writes.** While no condition is blank, what a builder selects,
updates and deletes has one and the same WHERE clause, in a frame that knows no condition. The
clause is left out exactly without conditions, and then a delete is refused. -/
theorem conditions_shared (style : Style) (b : Builder) (table? : Option String)
    (limit? : Option Nat)
    (hblank : ∀ text ∈ b.merge.live.conditionTexts, Text.isBlank text = false) :
    let c := b.merge.live
    b.selectText style = (b.merge.selectFrame style).around c.whereClause ∧
    (∀ table assignments, b.merge.target style table? = .ok table →
      b.merge.needAssignments = .ok assignments →
      (b.update style table? none limit?).statements =
        [(style.dialect.updateFrame table assignments c.orders (limit? <|> b.limit)).around
          c.whereClause]) ∧
    (∀ table, b.merge.target style table? = .ok table →
      ((b.delete style table? none).statements, (b.delete style table? none).refusal) =
        if c.wheres = [] ∧ c.likes = [] then ([], some .noDeleteCondition)
        else ([(style.dialect.deleteFrame table b.limit).around c.whereClause], none)) ∧
    (c.whereClause = "" ↔ c.wheres = [] ∧ c.likes = []) ∧
    (c.whereClause ≠ "" → c.whereClause = " WHERE " ++ c.conditionText ∧ c.conditionText ≠ "") := by
  intro c
  have hnone : c.conditionTexts = [] ↔ c.wheres = [] ∧ c.likes = [] := by
    rw [Clauses.conditionTexts_eq_nil_iff, Bool.and_eq_true, List.isEmpty_iff, List.isEmpty_iff]
  refine ⟨selectText_eq_around style b, fun table assignments htable hassignments =>
    statements_update hassignments htable, fun table htable => ?_, ?_, fun hsome => ?_⟩
  · rw [statements_delete htable hblank]
    simp only [c, ← hnone]
  · rw [← hnone, Clauses.whereClause_eq_empty_iff]
  · have hsome : c.conditionTexts ≠ [] := fun h => hsome (c.whereClause_eq_empty_iff.2 h)
    obtain ⟨text, hmem⟩ := List.exists_mem_of_ne_nil _ hsome
    exact ⟨if_neg hsome, Clauses.conditionText_ne_empty hmem (hblank text hmem)⟩

/-- SQLite without a prefix. -/
def sqliteStyle : Style :=
  ⟨.sqlite, ⟨"", "", some '"', true⟩⟩

/-- A condition in the snapshot, which is live as well, and then a condition and a pattern that are
live alone. -/
def partlyCached : Builder :=
  let cached := (empty.startCache.whereValue sqliteStyle .and "a" (.int 1)).stopCache
  let b := cached.whereValue sqliteStyle .or "b" (.text "x")
  ((b.like sqliteStyle .and false "c" "y" .both).set sqliteStyle "d" (.int 2)).addTable "t"

/-- The clause of that builder, also where SQLite limits an update. -/
theorem conditions_shared_partlyCached :
    let clause := " WHERE \"a\" = 1 OR \"b\" = 'x' AND \"c\" LIKE '%y%' ESCAPE '!'"
    (∀ text ∈ partlyCached.merge.live.conditionTexts, Text.isBlank text = false) ∧
    partlyCached.selectText sqliteStyle = "SELECT * FROM t" ++ clause ∧
    (partlyCached.update sqliteStyle none none (some 5)).statements =
      ["UPDATE t SET \"d\" = 2 WHERE rowid IN (SELECT rowid FROM t" ++ clause ++ " LIMIT 5)"] ∧
    (partlyCached.delete sqliteStyle none none).statements = ["DELETE FROM t" ++ clause] := by
  have hblank : ∀ text ∈ partlyCached.merge.live.conditionTexts, Text.isBlank text = false := by
    decide +kernel
  have hclause : partlyCached.merge.live.whereClause =
      " WHERE \"a\" = 1 OR \"b\" = 'x' AND \"c\" LIKE '%y%' ESCAPE '!'" := by
    decide +kernel
  have htable : partlyCached.merge.target sqliteStyle none = .ok "t" := by
    have htables : partlyCached.merge.live.tables = ["t"] := by decide +kernel
    unfold target
    rw [htables]
    rfl
  have hassignments : partlyCached.merge.needAssignments = .ok [("\"d\"", "2")] := by
    have hsome : partlyCached.merge.live.assignments.isEmpty = false := by decide +kernel
    have hentries : partlyCached.merge.live.assignments.entries = [("\"d\"", "2")] := by
      decide +kernel
    unfold needAssignments
    rw [hsome, hentries]
    rfl
  obtain ⟨hselect, hupdate, hdelete, -, -⟩ :=
    conditions_shared sqliteStyle partlyCached none (some 5) hblank
  have hupdate := hupdate "t" _ htable hassignments
  have hdelete := congrArg Prod.fst (hdelete "t" htable)
  have hsome : ¬(partlyCached.merge.live.wheres = [] ∧ partlyCached.merge.live.likes = []) := by
    decide +kernel
  rw [hclause] at hselect hupdate
  rw [if_neg hsome, hclause] at hdelete
  refine ⟨hblank, hselect.trans ?_, hupdate.trans ?_, hdelete.trans ?_⟩ <;> decide +kernel

end Builder

end SqlGateway
