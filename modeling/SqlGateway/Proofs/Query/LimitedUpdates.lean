import Mathlib.Data.List.Perm.Subperm
import Mathlib.Data.List.Sort
import SqlGateway.Proofs.Query.Assignments

/-!
# Which rows a limited update changes

An update with a limit changes the first matching rows. The common form says so by ORDER BY and
LIMIT. SQLite has neither on an update: there the rows are those whose row number is among the first
matching ones, and the order is left out.

What the statements mean is told by a `RowEngine`: which rows meet a condition and how an entry of
an order places two rows. How it sorts rows that no entry tells apart is its own affair.

Main definitions:

* `RowEngine`: what the texts within an update mean.
* `RowUpdate`: an update as an engine reads it, with its text and the rows that it changes.
* `RowUpdate.ofStatement`: what a dialect makes of an update.

Main results:

* `RowUpdate.changed_ofStatement_sqlite`, `RowUpdate.changed_ofStatement`: the rows that change.
* `RowUpdate.limited_changes`: both, for all that a builder has gathered, and when they agree.
-/

namespace List

variable {α β : Type} {rows sorted : List α} {n : Nat}

/-- A part of a list is found again by a key that tells the items apart. -/
theorem Sublist.filter_mem_map [DecidableEq β] {key : α → β} {part : List α} (h : part <+ rows)
    (hkeys : (rows.map key).Nodup) : rows.filter (fun row => key row ∈ part.map key) = part := by
  induction h with
  | slnil => rfl
  | @cons part rows row h ih =>
    rw [map_cons, nodup_cons] at hkeys
    obtain ⟨hrow, hkeys⟩ := hkeys
    have hout : key row ∉ part.map key := fun hmem => hrow ((h.map key).subset hmem)
    rw [filter_cons_of_neg (by simpa using hout), ih hkeys]
  | @cons_cons part rows row h ih =>
    rw [map_cons, nodup_cons] at hkeys
    obtain ⟨hrow, hkeys⟩ := hkeys
    have hrest : rows.filter (fun r => key r ∈ (row :: part).map key) =
        rows.filter fun r => key r ∈ part.map key := by
      refine filter_congr fun r hr => ?_
      have hne : key r ≠ key row := fun heq => hrow (heq ▸ mem_map_of_mem hr)
      simp only [map_cons, mem_cons, hne, false_or]
    rw [filter_cons_of_pos (by simp), hrest, ih hkeys]

theorem Nodup.notMem_drop (h : rows.Nodup) {x : α} (hx : x ∈ rows.take n) : x ∉ rows.drop n :=
  fun hdrop => disjoint_take_drop h (Nat.le_refl n) hx hdrop

/-- What sorting puts first is what came first, if it never puts a later one of the list before one
of these. -/
theorem Pairwise.mem_take_iff {R : α → α → Prop} (hsorted : sorted.Pairwise R)
    (hperm : sorted.Perm rows) (hnodup : rows.Nodup)
    (hfirst : ∀ x ∈ rows.take n, ∀ y ∈ rows.drop n, ¬ R y x) (x : α) :
    x ∈ rows.take n ↔ x ∈ sorted.take n := by
  have hlength : (sorted.take n).length = (rows.take n).length := by
    rw [length_take, length_take, hperm.length_eq]
  have hsplit : ∀ x ∈ sorted.take n, ∀ y ∈ sorted.drop n, R x y := by
    rw [← take_append_drop n sorted, pairwise_append] at hsorted
    exact hsorted.2.2
  have hcases (l : List α) {y : α} (hy : y ∈ l) : y ∈ l.take n ∨ y ∈ l.drop n := by
    rwa [← take_append_drop n l, mem_append] at hy
  suffices hsubset : sorted.take n ⊆ rows.take n by
    have hsubperm := subperm_of_subset
      ((hperm.nodup_iff.2 hnodup).sublist (take_sublist n sorted)) hsubset
    exact (hsubperm.perm_of_length_le (Nat.le_of_eq hlength.symm)).mem_iff.symm
  intro y hy
  refine (hcases rows (hperm.mem_iff.1 (mem_of_mem_take hy))).resolve_right fun hlater => ?_
  -- otherwise all that came first stays first, and leaves no room for `y`
  have hkept : rows.take n ⊆ sorted.take n := fun x hx =>
    (hcases sorted (hperm.mem_iff.2 (mem_of_mem_take hx))).resolve_right fun hout =>
      hfirst x hx y hlater (hsplit y hy x hout)
  have hsubperm := subperm_of_subset (hnodup.sublist (take_sublist n rows)) hkept
  have hsame := hsubperm.perm_of_length_le (Nat.le_of_eq hlength)
  exact hnodup.notMem_drop (hsame.mem_iff.2 hy) hlater

/-- If the same come first, sorting puts each of these before every other. -/
theorem Pairwise.of_mem_take_iff {R : α → α → Prop} (hsorted : sorted.Pairwise R)
    (hperm : sorted.Perm rows) (hnodup : rows.Nodup)
    (hsame : ∀ x, x ∈ rows.take n ↔ x ∈ sorted.take n) {x y : α} (hx : x ∈ rows.take n)
    (hy : y ∈ rows.drop n) : R x y := by
  rw [← take_append_drop n sorted, pairwise_append] at hsorted
  refine hsorted.2.2 x ((hsame x).1 hx) y ?_
  have hmem : y ∈ sorted := hperm.mem_iff.2 (mem_of_mem_drop hy)
  rw [← take_append_drop n sorted, mem_append] at hmem
  exact hmem.resolve_left fun hfirst => hnodup.notMem_drop ((hsame y).2 hfirst) hy

end List

namespace SqlGateway

/-! ## Engines -/

/-- How the entries of an order place two rows: the first one that tells them apart decides. -/
def placing {α : Type} (compares : String → α → α → Ordering) : List String → α → α → Ordering
  | [] => fun _ _ => .eq
  | entry :: entries => compareLex (compares entry) (placing compares entries)

/-- The entries of an order do not place `x` after `y`. -/
def MayPrecede {α : Type} (compares : String → α → α → Ordering) (order : List String)
    (x y : α) : Prop :=
  (placing compares order x y).isLE

/-- What the texts within an update mean, for rows of the type `α`. -/
structure RowEngine (α : Type) where
  /-- The row number, which no other row of the table has. -/
  rowid : α → Int
  /-- Whether a condition is met, in a table with these rows, by one of them. -/
  meets : String → List α → α → Bool
  /-- How an entry of an order places two rows. -/
  compares : String → α → α → Ordering
  sort : List String → List α → List α
  sort_perm : ∀ order rows, (sort order rows).Perm rows
  sort_pairwise : ∀ order rows, (sort order rows).Pairwise (MayPrecede compares order)
  /-- Without an order the rows stay in row order. -/
  sort_nil : ∀ rows, sort [] rows = rows

section

variable {α : Type} {compares : String → α → α → Ordering}

instance decidableMayPrecede (order : List String) : DecidableRel (MayPrecede compares order) :=
  fun x y => inferInstanceAs (Decidable ((placing compares order x y).isLE = true))

variable [h : ∀ entry, Std.TransCmp (compares entry)] (order : List String)

instance transCmp_placing : Std.TransCmp (placing compares order) := by
  induction order with
  | nil => exact { eq_swap := rfl, isLE_trans := fun _ _ => rfl }
  | cons entry entries ih =>
    have hentry := h entry
    exact inferInstanceAs (Std.TransCmp (compareLex (compares entry) (placing compares entries)))

instance total_mayPrecede : Std.Total (MayPrecede compares order) where
  total x y := by
    have hswap : placing compares order x y = (placing compares order y x).swap :=
      Std.OrientedCmp.eq_swap
    unfold MayPrecede
    rw [hswap]
    cases placing compares order y x <;> simp

instance isTrans_mayPrecede : IsTrans α (MayPrecede compares order) where
  trans _ _ _ := Std.TransCmp.isLE_trans

end

namespace RowEngine

variable {α : Type}

/-- The engine that leaves rows in row order where the entries do not tell them apart. -/
def stable (rowid : α → Int) (meets : String → List α → α → Bool)
    (compares : String → α → α → Ordering) [∀ entry, Std.TransCmp (compares entry)] :
    RowEngine α where
  rowid
  meets
  compares
  sort order := List.insertionSort (MayPrecede compares order)
  sort_perm _ rows := List.perm_insertionSort _ rows
  sort_pairwise _ rows := List.pairwise_insertionSort _ rows
  sort_nil _ := List.Pairwise.insertionSort_eq (List.pairwise_of_forall fun _ _ => rfl)

/-- The rows of a table, in row order. -/
structure Table (e : RowEngine α) where
  rows : List α
  nodup_rowid : (rows.map e.rowid).Nodup

variable {e : RowEngine α}

theorem Table.nodup_rows (t : e.Table) : t.rows.Nodup :=
  t.nodup_rowid.of_map e.rowid

variable (e)

/-- The row is one that the conditions keep; all rows are, if there are no conditions. -/
def keeps (conditions : List String) (rows : List α) (row : α) : Bool :=
  conditions.isEmpty || e.meets (Text.join " " conditions) rows row

/-- The rows of a table that meet the conditions, in row order. -/
def matching (contents : String → e.Table) (table : String) (conditions : List String) : List α :=
  (contents table).rows.filter (e.keeps conditions (contents table).rows)

variable {e} {contents : String → e.Table} {table : String} {conditions : List String}

theorem matching_sublist : (e.matching contents table conditions).Sublist (contents table).rows :=
  List.filter_sublist

theorem nodup_matching : (e.matching contents table conditions).Nodup :=
  (contents table).nodup_rows.sublist matching_sublist

end RowEngine

/-! ## Updates as they are read -/

/-- Which rows the WHERE part of an update picks. -/
inductive RowTest where
  | meeting (conditions : List String)
  /-- The row number is among those of the first matching rows of a table. -/
  | among (table : String) (conditions : List String) (limit : Nat)

namespace RowTest

def text : RowTest → String
  | meeting conditions => Statement.wherePart conditions
  | among table conditions limit =>
    " WHERE rowid IN (SELECT rowid FROM " ++ table ++ Statement.wherePart conditions ++ " LIMIT " ++
      toString limit ++ ")"

theorem text_among (table : String) (conditions : List String) (limit : Nat) :
    (among table conditions limit).text =
      Statement.wherePart [Dialect.rowLimit table conditions limit] := by
  rw [Statement.wherePart_singleton]
  unfold text Dialect.rowLimit Statement.limitPart
  simp only [String.append_assoc]
  rfl

variable {α : Type}

/-- Whether the test picks, from a table with these rows, one of them. -/
def holds (e : RowEngine α) (contents : String → e.Table) (rows : List α) (row : α) :
    RowTest → Bool
  | meeting conditions => e.keeps conditions rows row
  | among table conditions limit =>
    e.rowid row ∈ ((e.matching contents table conditions).take limit).map e.rowid

end RowTest

structure RowUpdate where
  table : String
  assignments : List (String × String)
  test : RowTest
  order : List String
  limit : Option Nat

namespace RowUpdate

def text (u : RowUpdate) : String :=
  "UPDATE " ++ u.table ++ " SET " ++ Text.join ", " (u.assignments.map Statement.assignment) ++
    u.test.text ++ Statement.orderPart u.order ++ Statement.limitPart u.limit

variable {α : Type}

/-- The rows that the update changes: those that the test picks, or the first of them in the given
order. -/
def changed (e : RowEngine α) (contents : String → e.Table) (u : RowUpdate) : List α :=
  let rows := (contents u.table).rows
  let picked := e.sort u.order (rows.filter fun row => u.test.holds e contents rows row)
  match u.limit with
  | none => picked
  | some n => picked.take n

/-- What a dialect makes of an update. -/
def ofStatement (d : Dialect) (s : UpdateStatement) : RowUpdate :=
  match d, s.limit with
  | .sqlite, some n =>
    ⟨s.table, s.assignments, .among s.table s.conditions n, [], none⟩
  | .sqlite, none => ⟨s.table, s.assignments, .meeting s.conditions, [], none⟩
  | _, limit => ⟨s.table, s.assignments, .meeting s.conditions, s.order, limit⟩

theorem text_ofStatement (d : Dialect) (s : UpdateStatement) :
    (ofStatement d s).text = d.updateText s := by
  obtain ⟨table, assignments, conditions, order, limit⟩ := s
  unfold text Dialect.updateText
  cases d with
  | sqlite =>
    cases limit with
    | none =>
      dsimp only [ofStatement, RowTest.text, Statement.orderPart_nil, Statement.limitPart]
      rw [String.append_empty, String.append_empty]
    | some n =>
      dsimp only [ofStatement, Statement.orderPart_nil, Statement.limitPart]
      rw [String.append_empty, String.append_empty, RowTest.text_among]
  | mysql | bare => rfl

variable {e : RowEngine α} {contents : String → e.Table} {s : UpdateStatement} {n : Nat}

/-- SQLite changes the first matching rows in row order, whatever the order of the update is. -/
theorem changed_ofStatement_sqlite (hlimit : s.limit = some n) :
    (ofStatement .sqlite s).changed e contents =
      (e.matching contents s.table s.conditions).take n := by
  unfold ofStatement changed
  rw [hlimit]
  dsimp only
  rw [e.sort_nil]
  -- the rows of the subquery are a part of the table, and row numbers tell its rows apart
  exact ((List.take_sublist _ _).trans RowEngine.matching_sublist).filter_mem_map
    (contents s.table).nodup_rowid

/-- The other dialects change the first matching rows in the order of the update. -/
theorem changed_ofStatement {d : Dialect} (hd : d ≠ .sqlite) (hlimit : s.limit = some n) :
    (ofStatement d s).changed e contents =
      (e.sort s.order (e.matching contents s.table s.conditions)).take n := by
  unfold ofStatement changed
  cases d with
  | sqlite => exact absurd rfl hd
  | mysql | bare =>
    dsimp only
    rw [hlimit]
    rfl

end RowUpdate

/-! ## Updates of a builder -/

namespace Builder

/-- The update that a call makes of what was gathered. -/
def updateStatement (b : Builder) (table : String) (condition? : Option String)
    (limit? : Option Nat) : UpdateStatement :=
  let restricted := (b.merge.whereArgument condition?).limitArgument limit?
  { table
    assignments := b.gatheredAssignments.entries
    conditions := restricted.live.conditions
    order := restricted.live.orders
    limit := restricted.limit }

variable {b : Builder} {table? condition? : Option String} {limit? : Option Nat} {table : String}

theorem statements_update_of_target {style : Style} (hset : b.gatheredAssignments ≠ .empty)
    (htable : b.merge.target style table? = .ok table) :
    (b.update style table? condition? limit?).statements =
      [style.dialect.updateText (b.updateStatement table condition? limit?)] := by
  have hassignments : b.merge.live.assignments ≠ .empty := by rwa [assignments_merge]
  rw [Terminal.update_eq]
  unfold Terminal.compiled
  dsimp only
  rw [assigning_of_nonempty hassignments, htable]
  unfold updateStatement
  rw [← assignments_merge]
  rfl

theorem limit_updateStatement :
    (b.updateStatement table condition? limit?).limit = (limit? <|> b.limit) := by
  unfold updateStatement whereArgument
  dsimp only
  split <;> exact congrArg (limit? <|> ·) b.limit_merge

/-- The dialect has no part in which table a call names. -/
theorem target_dialect {rules : Identifier.Rules} {d d' : Dialect} :
    b.target ⟨d, rules⟩ table? = b.target ⟨d', rules⟩ table? :=
  rfl

end Builder

namespace RowUpdate

variable {α : Type}

/-- **Limited updates.** What a builder has gathered is sent in the form of its dialect. With a
limit, SQLite changes the first matching rows in row order and the other dialects the first ones in
the given order, which are as many. They are the same rows without an order, and if the order puts
the first rows before all others, as it does if there are no others; they are the same rows only if
the order puts none of the others before one of these. -/
theorem limited_changes (e : RowEngine α) (contents : String → e.Table) {rules : Identifier.Rules}
    {d : Dialect} {table : String} {n : Nat} (b : Builder) (table? condition? : Option String)
    (limit? : Option Nat) (hd : d ≠ .sqlite) (hset : b.gatheredAssignments ≠ .empty)
    (htable : b.merge.target ⟨d, rules⟩ table? = .ok table)
    (hlimit : (limit? <|> b.limit) = some n) :
    let s := b.updateStatement table condition? limit?
    let inRowOrder := ofStatement .sqlite s
    let inOrder := ofStatement d s
    let matching := e.matching contents table s.conditions
    let SameRows : Prop :=
      ∀ row, row ∈ inRowOrder.changed e contents ↔ row ∈ inOrder.changed e contents
    (b.update ⟨.sqlite, rules⟩ table? condition? limit?).statements = [inRowOrder.text] ∧
      (b.update ⟨d, rules⟩ table? condition? limit?).statements = [inOrder.text] ∧
      inRowOrder.changed e contents = matching.take n ∧
      inOrder.changed e contents = (e.sort s.order matching).take n ∧
      (inRowOrder.changed e contents).length = (inOrder.changed e contents).length ∧
      (s.order = [] → SameRows) ∧
      ((∀ x ∈ matching.take n, ∀ y ∈ matching.drop n, ¬ MayPrecede e.compares s.order y x) →
        SameRows) ∧
      (SameRows →
        ∀ x ∈ matching.take n, ∀ y ∈ matching.drop n, MayPrecede e.compares s.order x y) := by
  intro s inRowOrder inOrder matching SameRows
  have hrowOrder : inRowOrder.changed e contents = matching.take n :=
    changed_ofStatement_sqlite (Builder.limit_updateStatement.trans hlimit)
  have hinOrder : inOrder.changed e contents = (e.sort s.order matching).take n :=
    changed_ofStatement hd (Builder.limit_updateStatement.trans hlimit)
  have hperm := e.sort_perm s.order matching
  have hsorted := e.sort_pairwise s.order matching
  have hnodup : matching.Nodup := RowEngine.nodup_matching
  refine ⟨?_, ?_, hrowOrder, hinOrder, ?_, fun horder => ?_, fun hfirst => ?_, fun hsame => ?_⟩
  · rw [text_ofStatement]
    exact Builder.statements_update_of_target hset (Builder.target_dialect.trans htable)
  · rw [text_ofStatement]
    exact Builder.statements_update_of_target hset htable
  · rw [hrowOrder, hinOrder, List.length_take, List.length_take, hperm.length_eq]
  · intro row
    rw [hrowOrder, hinOrder, horder, e.sort_nil]
  · intro row
    rw [hrowOrder, hinOrder]
    exact hsorted.mem_take_iff hperm hnodup hfirst row
  · intro x hx y hy
    refine hsorted.of_mem_take_iff hperm hnodup (fun row => ?_) hx hy
    rw [← hrowOrder, ← hinOrder]
    exact hsame row

/-! ### Rows with one column -/

/-- A row is its number with the value of the column `a`. -/
def compareColumn (entry : String) : Int × Int → Int × Int → Ordering :=
  if entry = "\"a\" DESC" then fun x y => compareOn Prod.snd y x else fun _ _ => .eq

instance transCmp_compareColumn (entry : String) : Std.TransCmp (compareColumn entry) := by
  unfold compareColumn
  split
  · exact Std.TransCmp.opposite
  · exact { eq_swap := rfl, isLE_trans := fun _ _ => rfl }

def columnEngine : RowEngine (Int × Int) :=
  .stable Prod.fst (fun condition _ row => condition ≠ "\"a\" > 5" || row.2 > 5) compareColumn

/-- The same rows in every table. -/
def columnContents (rows : List (Int × Int)) (h : (rows.map Prod.fst).Nodup) :
    String → columnEngine.Table :=
  fun _ => ⟨rows, h⟩

def quotedRules : Identifier.Rules :=
  ⟨"", "", some '"', true⟩

/-- A builder with an assignment and an order. -/
def orderedAssignment : Builder :=
  let style : Style := ⟨.sqlite, quotedRules⟩
  (Builder.empty.set style "v" (.int 2)).orderBy style "a" "DESC"

/-- The first matching row is the first one in the order as well. -/
theorem limited_changes_alike :
    let call (d : Dialect) :=
      orderedAssignment.update ⟨d, quotedRules⟩ (some "t") (some "\"a\" > 5") (some 1)
    let s := orderedAssignment.updateStatement "\"t\"" (some "\"a\" > 5") (some 1)
    let contents := columnContents [(1, 3), (2, 9), (3, 7)] (by decide)
    let changed (d : Dialect) := (ofStatement d s).changed columnEngine contents
    (call .sqlite).statements = ["UPDATE \"t\" SET \"v\" = 2 " ++
        "WHERE rowid IN (SELECT rowid FROM \"t\" WHERE \"a\" > 5 LIMIT 1)"] ∧
      (call (.bare (some '"'))).statements =
        ["UPDATE \"t\" SET \"v\" = 2 WHERE \"a\" > 5 ORDER BY \"a\" DESC LIMIT 1"] ∧
      changed .sqlite = [(2, 9)] ∧
      ∀ row, row ∈ changed .sqlite ↔ row ∈ changed (.bare (some '"')) := by
  intro call s contents changed
  have htable : orderedAssignment.merge.target ⟨.bare (some '"'), quotedRules⟩ (some "t") =
      .ok "\"t\"" := by decide +kernel
  have hd : Dialect.bare (some '"') ≠ .sqlite := nofun
  have hset : orderedAssignment.gatheredAssignments ≠ .empty := by decide +kernel
  have hlimit : (some 1 <|> orderedAssignment.limit) = some 1 := rfl
  obtain ⟨hsqlite, hbare, hfirst, -, -, -, hsame, -⟩ := limited_changes columnEngine contents
    orderedAssignment (some "t") (some "\"a\" > 5") (some 1) hd hset htable hlimit
  refine ⟨hsqlite.trans (by decide +kernel), hbare.trans (by decide +kernel),
    hfirst.trans (by decide +kernel), hsame (by decide +kernel)⟩

/-- With both rows matching, the first one is changed in one dialect and the last one in the other
dialects. -/
theorem limited_changes_differ :
    let call (d : Dialect) := orderedAssignment.update ⟨d, quotedRules⟩ (some "t") none (some 1)
    let s := orderedAssignment.updateStatement "\"t\"" none (some 1)
    let contents := columnContents [(1, 3), (2, 9)] (by decide)
    let changed (d : Dialect) := (ofStatement d s).changed columnEngine contents
    orderedAssignment.gatheredAssignments ≠ .empty ∧
      (∀ d ∈ [.sqlite, .bare (some '"')],
        (call d).statements = [(ofStatement d s).text]) ∧
      (call .sqlite).statements = ["UPDATE \"t\" SET \"v\" = 2 " ++
        "WHERE rowid IN (SELECT rowid FROM \"t\" LIMIT 1)"] ∧
      (call (.bare (some '"'))).statements =
        ["UPDATE \"t\" SET \"v\" = 2 ORDER BY \"a\" DESC LIMIT 1"] ∧
      changed .sqlite = [(1, 3)] ∧ changed (.bare (some '"')) = [(2, 9)] :=
  ⟨by decide +kernel, by decide +kernel, by decide +kernel, by decide +kernel, by decide +kernel,
    by decide +kernel⟩

end RowUpdate

end SqlGateway
