import SqlGateway.Proofs.Query.Forgetting

/-!
# What clause calls add

A clause call adds to the end of the lists of clauses and leaves what comes before as it is; only a
reset takes it away. So what one call adds to a list stays together, unless the snapshot is merged,
which puts its own clauses in and drops what occurs twice; but no clause is lost for good.

Main definitions:

* `Builder.Keeps`: a builder has every live clause of another one.
* `Builder.Extends`: a builder whose lists begin with those of another one.

Main results:

* `ClauseCall.extends_run`: clause calls only add to the end, but for a reset.
* `Builder.keeps_merge`: merging the snapshot keeps every clause.
* `Builder.live_select`, `Builder.live_groupBy`: what a list of columns adds.
-/

namespace SqlGateway

/-! ## Longer lists -/

/-- Every clause that reads show is in the other set as well, and every alias. -/
structure Clauses.Included (c d : Clauses) : Prop where
  select : c.select ⊆ d.select
  joins : c.joins ⊆ d.joins
  wheres : c.wheres ⊆ d.wheres
  likes : c.likes ⊆ d.likes
  groups : c.groups ⊆ d.groups
  havings : c.havings ⊆ d.havings
  orders : c.orders ⊆ d.orders
  aliases : c.aliases ⊆ d.aliases

namespace Clauses

theorem Included.refl (c : Clauses) : c.Included c := by
  constructor <;> exact List.Subset.refl _

theorem Included.trans {c d e : Clauses} (hcd : c.Included d) (hde : d.Included e) :
    c.Included e where
  select := List.Subset.trans hcd.select hde.select
  joins := List.Subset.trans hcd.joins hde.joins
  wheres := List.Subset.trans hcd.wheres hde.wheres
  likes := List.Subset.trans hcd.likes hde.likes
  groups := List.Subset.trans hcd.groups hde.groups
  havings := List.Subset.trans hcd.havings hde.havings
  orders := List.Subset.trans hcd.orders hde.orders
  aliases := List.Subset.trans hcd.aliases hde.aliases

/-- Every list that reads show begins with that of the other set, and so does that of aliases. -/
structure Extended (c d : Clauses) : Prop where
  select : c.select <+: d.select
  joins : c.joins <+: d.joins
  wheres : c.wheres <+: d.wheres
  likes : c.likes <+: d.likes
  groups : c.groups <+: d.groups
  havings : c.havings <+: d.havings
  orders : c.orders <+: d.orders
  aliases : c.aliases <+: d.aliases

theorem Extended.refl (c : Clauses) : c.Extended c := by
  constructor <;> exact List.prefix_rfl

theorem Extended.trans {c d e : Clauses} (hcd : c.Extended d) (hde : d.Extended e) :
    c.Extended e where
  select := hcd.select.trans hde.select
  joins := hcd.joins.trans hde.joins
  wheres := hcd.wheres.trans hde.wheres
  likes := hcd.likes.trans hde.likes
  groups := hcd.groups.trans hde.groups
  havings := hcd.havings.trans hde.havings
  orders := hcd.orders.trans hde.orders
  aliases := hcd.aliases.trans hde.aliases

theorem Extended.included {c d : Clauses} (h : c.Extended d) : c.Included d where
  select := h.select.subset
  joins := h.joins.subset
  wheres := h.wheres.subset
  likes := h.likes.subset
  groups := h.groups.subset
  havings := h.havings.subset
  orders := h.orders.subset
  aliases := h.aliases.subset

end Clauses

namespace Builder

/-- The builder has every live clause of another one. -/
def Keeps (b c : Builder) : Prop :=
  b.live.Included c.live

theorem Keeps.refl (b : Builder) : b.Keeps b :=
  Clauses.Included.refl _

theorem Keeps.trans {b c d : Builder} (hbc : b.Keeps c) (hcd : c.Keeps d) : b.Keeps d :=
  Clauses.Included.trans hbc hcd

/-- Merging adds the snapshot and drops nothing but what occurs twice. -/
theorem keeps_merge (b : Builder) : b.Keeps b.merge := by
  unfold merge
  split
  · exact .refl b
  · constructor <;> intro x hx <;> simp [Clauses.mergedOver, Clauses.mergedLists, hx]

/-- The lists begin with those of the other builder. -/
def Extends (b c : Builder) : Prop :=
  b.live.Extended c.live

theorem Extends.refl (b : Builder) : b.Extends b :=
  Clauses.Extended.refl _

theorem Extends.trans {b c d : Builder} (hbc : b.Extends c) (hcd : c.Extends d) : b.Extends d :=
  Clauses.Extended.trans hbc hcd

theorem Extends.keeps {b c : Builder} (h : b.Extends c) : b.Keeps c :=
  Clauses.Extended.included h

/-! ## Single additions -/

theorem extends_foldl {α : Type} {f : Builder → α → Builder} (h : ∀ b x, Extends b (f b x))
    (xs : List α) (b : Builder) : b.Extends (xs.foldl f b) := by
  induction xs generalizing b with
  | nil => exact .refl b
  | cons x xs ih => exact (h b x).trans (ih (f b x))

/-- Each addition of a list is made to some builder on the way. -/
theorem exists_extends_of_mem {α : Type} {f : Builder → α → Builder} (h : ∀ b x, Extends b (f b x))
    {xs : List α} {x : α} (hx : x ∈ xs) (b : Builder) :
    ∃ c, b.Extends c ∧ (f c x).Extends (xs.foldl f b) := by
  induction xs generalizing b with
  | nil => cases hx
  | cons y ys ih =>
    rcases List.mem_cons.1 hx with rfl | hx
    · exact ⟨b, .refl b, extends_foldl h ys (f b x)⟩
    · obtain ⟨c, hc, hlater⟩ := ih hx (f b y)
      exact ⟨c, (h b y).trans hc, hlater⟩

theorem extends_addSelect (b : Builder) (item : SelectItem) : b.Extends (b.addSelect item) := by
  constructor <;> simp [addSelect, add]

theorem extends_addTable (b : Builder) (table : String) : b.Extends (b.addTable table) := by
  constructor <;> simp [addTable, add]

theorem extends_addJoin (b : Builder) (text : String) : b.Extends (b.addJoin text) := by
  constructor <;> simp [addJoin, add]

theorem extends_addWhere (b : Builder) (connector : Connector) (text : String) :
    b.Extends (b.addWhere connector text) := by
  constructor <;> simp [addWhere, add]

theorem extends_addLike (b : Builder) (connector : Connector) (text : String) :
    b.Extends (b.addLike connector text) := by
  constructor <;> simp [addLike, add]

theorem extends_addGroup (b : Builder) (column : String) : b.Extends (b.addGroup column) := by
  constructor <;> simp [addGroup, add]

theorem extends_addHaving (b : Builder) (connector : Connector) (text : String) :
    b.Extends (b.addHaving connector text) := by
  constructor <;> simp [addHaving, add]

theorem extends_addOrder (b : Builder) (text : String) : b.Extends (b.addOrder text) := by
  constructor <;> simp [addOrder, add]

theorem extends_addAssignment (b : Builder) (column literal : String) :
    b.Extends (b.addAssignment column literal) := by
  constructor <;> simp [addAssignment, add]

theorem extends_trackAlias (b : Builder) (table : String) : b.Extends (b.trackAlias table) := by
  unfold trackAlias addAlias add
  split
  · dsimp only
    split
    · exact .refl b
    · constructor <;> simp
  · exact .refl b

theorem extends_fromTable (style : Style) (b : Builder) (table : String) :
    b.Extends (b.fromTable style table) :=
  (b.extends_trackAlias table).trans (extends_addTable _ _)

theorem extends_fromTables (style : Style) (b : Builder) (tables : String) :
    b.Extends (b.fromTables style tables) :=
  extends_foldl (fun b table => b.extends_fromTable style table) _ b

theorem extends_fromArgument (style : Style) (b : Builder) (table? : Option String) :
    b.Extends (b.fromArgument style table?) := by
  unfold fromArgument
  split
  · exact extends_fromTables style b _
  · exact .refl b

theorem extends_selectAggregate {style : Style} {b c : Builder} {kind : Aggregate} {column : String}
    {alias? : Option String} (h : b.selectAggregate style kind column alias? = .ok c) :
    b.Extends c := by
  unfold selectAggregate at h
  dsimp only at h
  split at h
  · cases h
  · cases h
    exact extends_addSelect b _

theorem extends_selectAggregateNamed {style : Style} {b c : Builder} {kind column : String}
    {alias? : Option String} (h : b.selectAggregateNamed style kind column alias? = .ok c) :
    b.Extends c := by
  unfold selectAggregateNamed at h
  split at h
  · exact extends_selectAggregate h
  · cases h

theorem extends_orderBy (style : Style) (b : Builder) (columns direction : String) :
    b.Extends (b.orderBy style columns direction) := by
  unfold orderBy
  dsimp only
  split
  · exact b.extends_addOrder _
  split
  · exact .refl b
  split
  · exact b.extends_addOrder _
  · exact b.extends_addOrder _

/-- Rows that are queued are no clauses. -/
theorem extends_queueInserts {style : Style} {b c : Builder} {rows : List Record}
    (h : b.queueInserts style rows = .ok c) : b.Extends c := by
  unfold queueInserts at h
  split at h
  · cases h
    exact .refl b
  · dsimp only at h
    split at h
    · cases h
      exact .refl b
    · cases h

theorem extends_queueUpdates {style : Style} {b c : Builder} {rows : List Record} {index : String}
    (h : b.queueUpdates style rows index = .ok c) : b.Extends c := by
  unfold queueUpdates at h
  split at h
  · cases h
  · split at h
    · cases h
      exact .refl b
    · cases h

/-! ## Lists of columns -/

/-- The select list with what a call adds to it. -/
theorem live_select (b : Builder) (columns : String) (quoting : Option Bool) :
    (b.select columns quoting).live.select =
      b.live.select ++ (Text.listItems columns).map fun text => ⟨text, quoting⟩ := by
  unfold Builder.select
  induction Text.listItems columns generalizing b with
  | nil => exact (List.append_nil _).symm
  | cons item items ih =>
    rw [List.foldl_cons, ih, List.map_cons]
    exact List.append_assoc ..

/-- The list of groups with what a call adds to it. -/
theorem live_groupBy (style : Style) (b : Builder) (columns : String) :
    (b.groupBy style columns).live.groups =
      b.live.groups ++ (Text.listItems columns).map (b.column style) := by
  have hcolumn (b : Builder) (column : String) :
      (b.addGroup column).column style = b.column style := by
    unfold Builder.addGroup Builder.add
    cases b.caching <;> rfl
  unfold Builder.groupBy
  induction Text.listItems columns generalizing b with
  | nil => exact (List.append_nil _).symm
  | cons item items ih =>
    rw [List.foldl_cons, ih, hcolumn, List.map_cons]
    exact List.append_assoc ..

end Builder

/-! ## Clause calls -/

namespace ClauseCall

/-- The builder after the call. A refused call leaves it as it is. -/
def step (style : Style) (b : Builder) (call : ClauseCall) : Builder :=
  match call.apply style b with
  | .ok c => c
  | .error _ => b

theorem step_of_apply {style : Style} {b c : Builder} {call : ClauseCall}
    (h : call.apply style b = .ok c) : call.step style b = c := by
  rw [step, h]

/-- The builder after some calls. -/
def run (style : Style) (b : Builder) (calls : List ClauseCall) : Builder :=
  calls.foldl (step style) b

theorem extends_apply {style : Style} {b c : Builder} {call : ClauseCall} (hreset : call ≠ .reset)
    (h : call.apply style b = .ok c) : b.Extends c := by
  -- the calls that may be refused come first
  cases call with
  | selectAggregate kind column alias? =>
    have hadd : b.selectAggregate style kind column alias? = .ok c := h
    exact Builder.extends_selectAggregate hadd
  | selectAggregateNamed kind column alias? => exact Builder.extends_selectAggregateNamed h
  | queueInserts rows => exact Builder.extends_queueInserts h
  | queueUpdates rows index => exact Builder.extends_queueUpdates h
  | reset => exact absurd rfl hreset
  | select columns quoting =>
    obtain rfl := Except.ok.inj h
    exact Builder.extends_foldl (fun b _ => b.extends_addSelect _) _ b
  | fromTables tables =>
    obtain rfl := Except.ok.inj h
    exact b.extends_fromTables style tables
  | join table condition kind =>
    obtain rfl := Except.ok.inj h
    exact (b.extends_trackAlias table).trans (Builder.extends_addJoin _ _)
  | whereAll pairs =>
    obtain rfl := Except.ok.inj h
    exact Builder.extends_foldl (fun b _ => b.extends_addWhere _ _) _ b
  | whereIn connector negated key values =>
    obtain rfl := Except.ok.inj h
    unfold Builder.whereIn
    split
    · exact .refl b
    · exact b.extends_addWhere _ _
  | whereValue | whereRaw =>
    obtain rfl := Except.ok.inj h
    exact b.extends_addWhere _ _
  | havingValue | havingRaw =>
    obtain rfl := Except.ok.inj h
    exact b.extends_addHaving _ _
  | like =>
    obtain rfl := Except.ok.inj h
    exact b.extends_addLike _ _
  | groupBy columns =>
    obtain rfl := Except.ok.inj h
    exact Builder.extends_foldl (fun b _ => b.extends_addGroup _) _ b
  | orderBy columns direction =>
    obtain rfl := Except.ok.inj h
    exact b.extends_orderBy style columns direction
  | setRecord record =>
    obtain rfl := Except.ok.inj h
    exact Builder.extends_foldl (fun b _ => b.extends_addAssignment _ _) _ b
  | set | setRaw =>
    obtain rfl := Except.ok.inj h
    exact b.extends_addAssignment _ _
  | setDistinct | setLimit | setOffset | startCache | stopCache | flushCache =>
    obtain rfl := Except.ok.inj h
    exact .refl b

theorem extends_step (style : Style) (b : Builder) {call : ClauseCall} (hreset : call ≠ .reset) :
    b.Extends (call.step style b) := by
  unfold step
  split
  · next h => exact extends_apply hreset h
  · exact .refl b

/-- **Clause calls add to the end**, but for a reset. -/
theorem extends_run (style : Style) (b : Builder) {calls : List ClauseCall} (h : .reset ∉ calls) :
    b.Extends (run style b calls) := by
  induction calls generalizing b with
  | nil => exact .refl b
  | cons call calls ih =>
    have hcall : call ≠ .reset := Ne.symm (List.ne_of_not_mem_cons h)
    have hcalls : .reset ∉ calls := List.not_mem_of_not_mem_cons h
    exact (extends_step style b hcall).trans (ih _ hcalls)

end ClauseCall

end SqlGateway
