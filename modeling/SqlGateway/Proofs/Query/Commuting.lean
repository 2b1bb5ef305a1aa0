import SqlGateway.Proofs.Query.TrackedAliases

/-!
# Clause calls in either order

A clause call writes one part of a builder: a list of clauses, or one of the settings besides them.
What it reads is that part, the aliases that are known, and whether the builder is caching. So two
calls on different parts can be made in either order, unless one of them makes an alias known.

Main definitions:

* `ClauseKind`: the parts of a builder that clause calls write.
* `Builder.graft`: a builder with one part of another one.
* `ActsOn`: a change of one part that does not depend on the other parts.
* `Builder.Knows`: tracking an alias would change nothing.

Main results:

* `ActsOn.commute`: changes of different parts can be made in either order.
* `ClauseCall.settled_untracked`: what a call does but for the aliases is such a change.
* `ClauseCall.commute_of_kinds`: clause calls of different kinds can be made in either order.
-/

namespace SqlGateway

/-! ## Parts -/

/-- The parts of a builder that clause calls write. -/
inductive ClauseKind where
  | select
  | distinct
  | tables
  | joins
  | wheres
  | likes
  | groups
  | havings
  | orders
  | limit
  | offset
  | assignments
  deriving DecidableEq

/-- Clauses with one part of others. -/
def Clauses.graft (src dst : Clauses) : ClauseKind → Clauses
  | .select => { dst with select := src.select }
  | .tables => { dst with tables := src.tables }
  | .joins => { dst with joins := src.joins }
  | .wheres => { dst with wheres := src.wheres }
  | .likes => { dst with likes := src.likes }
  | .groups => { dst with groups := src.groups }
  | .havings => { dst with havings := src.havings }
  | .orders => { dst with orders := src.orders }
  | .assignments => { dst with assignments := src.assignments }
  | .distinct | .limit | .offset => dst

theorem Clauses.graft_self (c : Clauses) (kind : ClauseKind) : c.graft c kind = c := by
  cases kind <;> rfl

namespace Builder

/-- A builder with one part of another one. Queued rows belong to the assignments. -/
def graft (kind : ClauseKind) (src dst : Builder) : Builder :=
  { dst with
    live := src.live.graft dst.live kind
    snapshot := src.snapshot.graft dst.snapshot kind
    distinct := if kind = .distinct then src.distinct else dst.distinct
    limit := if kind = .limit then src.limit else dst.limit
    offset := if kind = .offset then src.offset else dst.offset
    batch := if kind = .assignments then src.batch else dst.batch
    batchIndex := if kind = .assignments then src.batchIndex else dst.batchIndex }

theorem graft_self (kind : ClauseKind) (b : Builder) : graft kind b b = b := by
  cases kind <;> rfl

/-- The later graft of a part counts. -/
theorem graft_graft (kind : ClauseKind) (c d b : Builder) :
    graft kind c (graft kind d b) = graft kind c b := by
  cases kind <;> rfl

theorem graft_comm {kind kind' : ClauseKind} (h : kind ≠ kind') (c d b : Builder) :
    graft kind c (graft kind' d b) = graft kind' d (graft kind c b) := by
  cases kind <;> cases kind' <;> first | exact absurd rfl h | rfl

section

variable (kind : ClauseKind) (c b : Builder)

/-- The aliases are in no part. -/
theorem aliases_graft : (graft kind c b).aliases = b.aliases := by
  cases kind <;> rfl

theorem protect_graft (style : Style) : (graft kind c b).protect style = b.protect style := by
  unfold protect
  rw [aliases_graft]

theorem column_graft (style : Style) : (graft kind c b).column style = b.column style := by
  unfold column
  rw [protect_graft]

theorem table_graft (style : Style) : (graft kind c b).table style = b.table style := by
  unfold table
  rw [protect_graft]

end

end Builder

/-! ## Changes of one part -/

/-- The change leaves the other parts alone, and does not depend on them. -/
structure ActsOn (kind : ClauseKind) (f : Builder → Builder) : Prop where
  frame : ∀ b, Builder.graft kind (f b) b = f b
  apart : ∀ kind', kind' ≠ kind → ∀ c b,
    f (Builder.graft kind' c b) = Builder.graft kind' c (f b)

namespace ActsOn

open Builder (graft graft_self graft_graft graft_comm)

variable {kind kind' : ClauseKind} {f g : Builder → Builder}

protected theorem id : ActsOn kind id where
  frame := graft_self kind
  apart _ _ _ _ := rfl

theorem comp (hf : ActsOn kind f) (hg : ActsOn kind g) : ActsOn kind fun b => g (f b) where
  frame b := by
    calc graft kind (g (f b)) b
        = graft kind (g (f b)) (graft kind (f b) b) := (graft_graft kind _ _ b).symm
      _ = graft kind (g (f b)) (f b) := by rw [hf.frame]
      _ = g (f b) := hg.frame (f b)
  apart kind' hne c b := by
    rw [hf.apart kind' hne, hg.apart kind' hne]

/-- A list of changes. -/
theorem foldl {α : Type} {f : Builder → α → Builder} (h : ∀ x, ActsOn kind fun b => f b x)
    (xs : List α) : ActsOn kind fun b => xs.foldl f b := by
  induction xs with
  | nil => exact .id
  | cons x xs ih => exact (h x).comp ih

/-- A change by something that does not depend on the other parts. -/
theorem by_text {α : Type} {f : Builder → α → Builder} {text : Builder → α}
    (h : ∀ x, ActsOn kind fun b => f b x)
    (htext : ∀ kind', kind' ≠ kind → ∀ c b, text (graft kind' c b) = text b) :
    ActsOn kind fun b => f b (text b) where
  frame b := (h (text b)).frame b
  apart kind' hne c b := by
    rw [htext kind' hne]
    exact (h (text b)).apart kind' hne c b

/-- **Changes of different parts can be made in either order.** -/
theorem commute (hf : ActsOn kind f) (hg : ActsOn kind' g) (hne : kind ≠ kind') (b : Builder) :
    g (f b) = f (g b) := by
  calc g (f b)
      = g (graft kind (f b) b) := by rw [hf.frame]
    _ = graft kind (f b) (g b) := hg.apart kind hne (f b) b
    _ = graft kind (f b) (graft kind' (g b) b) := by rw [hg.frame]
    _ = graft kind' (g b) (graft kind (f b) b) := graft_comm hne (f b) (g b) b
    _ = graft kind' (g b) (f b) := by rw [hf.frame]
    _ = f (graft kind' (g b) b) := (hf.apart kind' hne.symm (g b) b).symm
    _ = f (g b) := by rw [hg.frame]

end ActsOn

/-! ## Additions -/

/-- The change leaves the other lists alone, and does not depend on them. -/
structure Clauses.ActsOn (kind : ClauseKind) (f : Clauses → Clauses) : Prop where
  frame : ∀ c, (f c).graft c kind = f c
  apart : ∀ kind', kind' ≠ kind → ∀ c d, f (Clauses.graft c d kind') = c.graft (f d) kind'

namespace Builder

/-- What changes one list of clauses does so in the snapshot as well. -/
theorem actsOn_add {kind : ClauseKind} {f : Clauses → Clauses} (h : Clauses.ActsOn kind f) :
    SqlGateway.ActsOn kind fun b => b.add f where
  frame b := by
    have hsnapshot : (if b.caching then f b.snapshot else b.snapshot).graft b.snapshot kind =
        if b.caching then f b.snapshot else b.snapshot := by
      split
      · exact h.frame _
      · exact Clauses.graft_self _ kind
    unfold add graft
    dsimp only
    rw [h.frame, hsnapshot]
    simp only [ite_self]
  apart kind' hne c b := by
    unfold add graft
    dsimp only
    rw [h.apart kind' hne]
    split
    · rw [h.apart kind' hne]
    · rfl

/-- So does what adds a fragment, as its connector is read from the list that it is added to. -/
theorem actsOn_addFragment {kind : ClauseKind} (list : Clauses → List Fragment)
    {f : Fragment → Clauses → Clauses} (hf : ∀ x, Clauses.ActsOn kind (f x))
    (hlist : ∀ kind', kind' ≠ kind → ∀ c d, list (Clauses.graft c d kind') = list d)
    (connector : Connector) (text : String) :
    ActsOn kind fun b => b.add (f (b.fragment list connector text)) := by
  have hfragment (kind' : ClauseKind) (hne : kind' ≠ kind) (c b : Builder) :
      (graft kind' c b).fragment list connector text = b.fragment list connector text := by
    unfold fragment graft
    dsimp only
    rw [hlist kind' hne, hlist kind' hne]
  have hadd (x : Fragment) : ActsOn kind fun b => b.add (f x) := actsOn_add (hf x)
  exact ActsOn.by_text (f := fun b x => b.add (f x)) hadd hfragment

theorem actsOn_addSelect (item : SelectItem) : ActsOn .select fun b => b.addSelect item := by
  refine actsOn_add ⟨fun _ => rfl, fun kind' hne c d => ?_⟩
  cases kind' <;> first | exact absurd rfl hne | rfl

theorem actsOn_addTable (table : String) : ActsOn .tables fun b => b.addTable table := by
  refine actsOn_add ⟨fun _ => rfl, fun kind' hne c d => ?_⟩
  cases kind' <;> first | exact absurd rfl hne | rfl

theorem actsOn_addJoin (text : String) : ActsOn .joins fun b => b.addJoin text := by
  refine actsOn_add ⟨fun _ => rfl, fun kind' hne c d => ?_⟩
  cases kind' <;> first | exact absurd rfl hne | rfl

theorem actsOn_addWhere (connector : Connector) (text : String) :
    ActsOn .wheres fun b => b.addWhere connector text := by
  refine actsOn_addFragment Clauses.wheres (f := fun x c => { c with wheres := c.wheres ++ [x] })
    (fun x => ⟨fun _ => rfl, fun kind' hne c d => ?_⟩) (fun kind' hne c d => ?_) connector text
  all_goals cases kind' <;> first | exact absurd rfl hne | rfl

theorem actsOn_addLike (connector : Connector) (text : String) :
    ActsOn .likes fun b => b.addLike connector text := by
  refine actsOn_addFragment Clauses.likes (f := fun x c => { c with likes := c.likes ++ [x] })
    (fun x => ⟨fun _ => rfl, fun kind' hne c d => ?_⟩) (fun kind' hne c d => ?_) connector text
  all_goals cases kind' <;> first | exact absurd rfl hne | rfl

theorem actsOn_addHaving (connector : Connector) (text : String) :
    ActsOn .havings fun b => b.addHaving connector text := by
  refine actsOn_addFragment Clauses.havings (f := fun x c => { c with havings := c.havings ++ [x] })
    (fun x => ⟨fun _ => rfl, fun kind' hne c d => ?_⟩) (fun kind' hne c d => ?_) connector text
  all_goals cases kind' <;> first | exact absurd rfl hne | rfl

theorem actsOn_addGroup (column : String) : ActsOn .groups fun b => b.addGroup column := by
  refine actsOn_add ⟨fun _ => rfl, fun kind' hne c d => ?_⟩
  cases kind' <;> first | exact absurd rfl hne | rfl

theorem actsOn_addOrder (text : String) : ActsOn .orders fun b => b.addOrder text := by
  refine actsOn_add ⟨fun _ => rfl, fun kind' hne c d => ?_⟩
  cases kind' <;> first | exact absurd rfl hne | rfl

theorem actsOn_addAssignment (column literal : String) :
    ActsOn .assignments fun b => b.addAssignment column literal := by
  refine actsOn_add ⟨fun _ => rfl, fun kind' hne c d => ?_⟩
  cases kind' <;> first | exact absurd rfl hne | rfl

theorem actsOn_setDistinct (distinct : Bool) :
    ActsOn .distinct fun b => b.setDistinct distinct where
  frame b := graft_self .distinct _
  apart kind' hne c b := by
    cases kind' <;> first | exact absurd rfl hne | rfl

theorem actsOn_setLimit (n : Nat) : ActsOn .limit fun b => b.setLimit n where
  frame b := graft_self .limit _
  apart kind' hne c b := by
    cases kind' <;> first | exact absurd rfl hne | rfl

theorem actsOn_setOffset (n : Nat) : ActsOn .offset fun b => b.setOffset n where
  frame b := graft_self .offset _
  apart kind' hne c b := by
    cases kind' <;> first | exact absurd rfl hne | rfl

/-- Queuing rows. -/
theorem actsOn_queue (rows : List (List (String × String))) (index? : Option String) :
    ActsOn .assignments fun b =>
      { b with batch := b.batch ++ rows, batchIndex := index? <|> b.batchIndex } where
  frame b := graft_self .assignments _
  apart kind' hne c b := by
    cases kind' <;> first | exact absurd rfl hne | rfl

/-! ### What depends on the aliases -/

section

variable (style : Style) (kind : ClauseKind) (c b : Builder)

theorem condition_graft (key : String) (value : Value) :
    (graft kind c b).condition style key value = b.condition style key value := by
  unfold condition
  rw [column_graft]

theorem membership_graft (negated : Bool) (key : String) (values : List Value) :
    (graft kind c b).membership style negated key values =
      b.membership style negated key values := by
  unfold membership
  rw [column_graft]

theorem likeness_graft (negated : Bool) (key text : String) (side : LikeSide) :
    (graft kind c b).likeness style negated key text side =
      b.likeness style negated key text side := by
  unfold likeness
  rw [column_graft]

theorem joinLead_graft (table kind' : String) :
    (graft kind c b).joinLead style table kind' = b.joinLead style table kind' := by
  unfold joinLead
  rw [table_graft]

theorem render_graft (text : String) :
    JoinCondition.render style (graft kind c b) text = JoinCondition.render style b text := by
  unfold JoinCondition.render
  rw [column_graft]

theorem orderColumn_graft : (graft kind c b).orderColumn style = b.orderColumn style := by
  funext column
  unfold orderColumn
  rw [aliases_graft, column_graft]

theorem updateRow_graft : (graft kind c b).updateRow style = b.updateRow style := by
  funext row
  unfold updateRow
  rw [column_graft]

end

end Builder

/-! ## Clause calls -/

/-- Every builder refuses, for the same reason, or one part is changed. -/
def Settled (kind : ClauseKind) (f : Builder → Except Refusal Builder) : Prop :=
  (∃ r, ∀ b, f b = .error r) ∨ ∃ g, ActsOn kind g ∧ ∀ b, f b = .ok (g b)

/-- What is changed in either order is the same, and nothing is refused in one order alone. -/
theorem Settled.commute {kind kind' : ClauseKind} {f g : Builder → Except Refusal Builder}
    (hf : Settled kind f) (hg : Settled kind' g) (hne : kind ≠ kind') {b c d : Builder}
    (hc : f b = .ok c) (hd : g b = .ok d) :
    ∃ e, g c = .ok e ∧ f d = .ok e := by
  rcases hf with ⟨r, hf⟩ | ⟨f', hf', hf⟩
  · rw [hf] at hc
    cases hc
  rcases hg with ⟨r, hg⟩ | ⟨g', hg', hg⟩
  · rw [hg] at hd
    cases hd
  rw [hf] at hc
  rw [hg] at hd
  obtain rfl := Except.ok.inj hc
  obtain rfl := Except.ok.inj hd
  exact ⟨g' (f' b), hg _, (hf _).trans (congrArg Except.ok (hf'.commute hg' hne b).symm)⟩

theorem Settled.caching_eq {kind : ClauseKind} {f : Builder → Except Refusal Builder}
    (hf : Settled kind f) {b c : Builder} (hc : f b = .ok c) : c.caching = b.caching := by
  rcases hf with ⟨r, hf⟩ | ⟨f', hf', hf⟩
  · rw [hf] at hc
    cases hc
  · rw [hf] at hc
    rw [← Except.ok.inj hc, ← hf'.frame b]
    rfl

namespace ClauseCall

open Builder

/-- The part of a builder that the call writes. A call for the snapshot as a whole and a reset write
more than one. -/
def kind? : ClauseCall → Option ClauseKind
  | select .. | selectAggregate .. | selectAggregateNamed .. => some .select
  | setDistinct _ => some .distinct
  | fromTables _ => some .tables
  | join .. => some .joins
  | whereValue .. | whereAll _ | whereRaw .. | whereIn .. => some .wheres
  | like .. => some .likes
  | groupBy _ => some .groups
  | havingValue .. | havingRaw _ => some .havings
  | orderBy .. => some .orders
  | setLimit _ => some .limit
  | setOffset _ => some .offset
  | set .. | setRaw .. | setRecord _ | queueInserts _ | queueUpdates .. => some .assignments
  | startCache | stopCache | flushCache | reset => none

/-- What the call makes of a builder that knows its aliases. -/
def untracked (style : Style) (call : ClauseCall) (b : Builder) : Except Refusal Builder :=
  match call with
  | fromTables tables =>
    .ok ((Text.listItems tables).foldl (fun b table => b.addTable (b.table style table)) b)
  | join table condition kind =>
    .ok (b.addJoin (b.joinLead style table kind ++ JoinCondition.render style b condition))
  | call => call.apply style b

theorem settled_of_actsOn {kind : ClauseKind} {f : Builder → Builder} (h : ActsOn kind f) :
    Settled kind fun b => .ok (f b) :=
  .inr ⟨f, h, fun _ => rfl⟩

variable (style : Style)

theorem settled_selectAggregate (kind : Aggregate) (column : String) (alias? : Option String) :
    Settled .select fun b => b.selectAggregate style kind column alias? := by
  by_cases hcolumn : Text.trim column = ""
  · exact .inl ⟨_, fun b => if_pos hcolumn⟩
  · let name := ((Text.nonBlank? alias?).map Text.trim).getD (lastSegment (Text.trim column))
    have hadd : ActsOn .select fun b =>
        b.addSelect
          ⟨kind.word ++ "(" ++ b.column style (Text.trim column) ++ ") AS " ++ name, none⟩ :=
      ActsOn.by_text actsOn_addSelect fun kind' _ c b => by rw [column_graft]
    exact .inr ⟨_, hadd, fun b => if_neg hcolumn⟩

theorem settled_selectAggregateNamed (kind column : String) (alias? : Option String) :
    Settled .select fun b => b.selectAggregateNamed style kind column alias? := by
  unfold Builder.selectAggregateNamed
  cases Aggregate.parse? kind with
  | some kind => exact settled_selectAggregate style kind column alias?
  | none => exact .inl ⟨_, fun b => rfl⟩

theorem actsOn_tables (tables : List String) : ActsOn .tables fun b : Builder =>
    tables.foldl (fun b table => b.addTable (b.table style table)) b :=
  ActsOn.foldl (fun table => ActsOn.by_text (f := fun b t => b.addTable t) actsOn_addTable
    fun kind' _ c b => by rw [table_graft]) tables

theorem actsOn_join (table condition kind : String) : ActsOn .joins fun b : Builder =>
    b.addJoin (b.joinLead style table kind ++ JoinCondition.render style b condition) :=
  ActsOn.by_text (f := fun b t => b.addJoin t) actsOn_addJoin fun kind' _ c b => by
    rw [joinLead_graft, render_graft]

theorem actsOn_whereValue (connector : Connector) (key : String) (value : Value) :
    ActsOn .wheres fun b => b.whereValue style connector key value :=
  ActsOn.by_text (f := fun b t => b.addWhere connector t) (actsOn_addWhere connector)
    fun kind' _ c b => condition_graft style kind' c b key value

theorem actsOn_whereAll (pairs : List (String × Value)) :
    ActsOn .wheres fun b => b.whereAll style pairs :=
  ActsOn.foldl (f := fun b (p : String × Value) => b.whereValue style .and p.1 p.2)
    (fun p => actsOn_whereValue style .and p.1 p.2) pairs

theorem actsOn_whereIn (connector : Connector) (negated : Bool) (key : String)
    (values : List Value) :
    ActsOn .wheres fun b => b.whereIn style connector negated key values := by
  unfold Builder.whereIn
  by_cases hnone : Text.isBlank key ∨ values.isEmpty
  · simp only [if_pos hnone]
    exact ActsOn.id
  · simp only [if_neg hnone]
    exact ActsOn.by_text (f := fun b t => b.addWhere connector t) (actsOn_addWhere connector)
      fun kind' _ c b => membership_graft style kind' c b negated key values

theorem actsOn_havingValue (connector : Connector) (key : String) (value : Value) :
    ActsOn .havings fun b => b.havingValue style connector key value :=
  ActsOn.by_text (f := fun b t => b.addHaving connector t) (actsOn_addHaving connector)
    fun kind' _ c b => condition_graft style kind' c b key value

theorem actsOn_like (connector : Connector) (negated : Bool) (key text : String) (side : LikeSide) :
    ActsOn .likes fun b => b.like style connector negated key text side :=
  ActsOn.by_text (f := fun b t => b.addLike connector t) (actsOn_addLike connector)
    fun kind' _ c b => likeness_graft style kind' c b negated key text side

theorem actsOn_groupBy (columns : String) : ActsOn .groups fun b => b.groupBy style columns :=
  ActsOn.foldl (fun column => ActsOn.by_text actsOn_addGroup fun kind' _ c b => by
    rw [column_graft]) _

theorem actsOn_orderBy (columns direction : String) :
    ActsOn .orders fun b => b.orderBy style columns direction := by
  let text (b : Builder) := Text.join ", " ((Text.listItems columns).map (b.orderColumn style))
  -- the text is the same for all builders with these aliases, and so is whether it is empty
  have hadd (written : String → String) : ActsOn .orders fun b =>
      if text b = "" then b else b.addOrder (written (text b)) := by
    refine ActsOn.by_text (f := fun b t => if t = "" then b else b.addOrder (written t))
      (fun t => ?_) fun kind' _ c b => ?_
    · by_cases htext : t = ""
      · simp only [if_pos htext]
        exact ActsOn.id
      · simp only [if_neg htext]
        exact actsOn_addOrder (written t)
    · unfold text
      rw [orderColumn_graft]
  unfold Builder.orderBy
  cases OrderDirection.parse? direction with
  | none => exact hadd id
  | some direction =>
    by_cases hrandom : direction = .random
    · simp only [hrandom]
      exact actsOn_addOrder style.dialect.random
    · have hother : ¬some direction = some .random := fun heq => hrandom (Option.some_inj.1 heq)
      simp only [if_neg hother]
      exact hadd fun t => t ++ " " ++ direction.word

theorem actsOn_setRaw (key expression : String) :
    ActsOn .assignments fun b => b.setRaw style key expression := by
  refine ActsOn.by_text (f := fun b t => b.addAssignment t expression)
    (fun column => actsOn_addAssignment column expression) fun kind' _ c b => ?_
  rw [protect_graft]

theorem actsOn_setRecord (record : Record) :
    ActsOn .assignments fun b => b.setRecord style record :=
  ActsOn.foldl (f := fun b (p : String × Value) => b.set style p.1 p.2)
    (fun p => actsOn_setRaw style p.1 (style.dialect.literal p.2)) record.entries

theorem settled_queueInserts (rows : List Record) :
    Settled .assignments fun b => b.queueInserts style rows := by
  cases rows with
  | nil => exact settled_of_actsOn ActsOn.id
  | cons first rest =>
    by_cases heven : (first :: rest).all (hasColumns first.keys) = true
    · have hqueue := actsOn_queue ((first :: rest).map (insertRow style first.keys)) none
      exact .inr ⟨_, hqueue, fun b => if_pos heven⟩
    · exact .inl ⟨_, fun b => if_neg heven⟩

theorem settled_queueUpdates (rows : List Record) (index : String) :
    Settled .assignments fun b => b.queueUpdates style rows index := by
  by_cases hblank : Text.isBlank index = true
  · exact .inl ⟨_, fun b => if_pos hblank⟩
  by_cases hindex : (rows.all fun row => row.contains index) = true
  · have hqueue : ActsOn .assignments fun b =>
        { b with
          batch := b.batch ++ rows.map (b.updateRow style)
          batchIndex := some (b.column style index) } := by
      let queued (b : Builder) : List (List (String × String)) × String :=
        (rows.map (b.updateRow style), b.column style index)
      have hqueued (kind' : ClauseKind) (_ : kind' ≠ .assignments) (c b : Builder) :
          queued (graft kind' c b) = queued b := by
        unfold queued
        rw [updateRow_graft, column_graft]
      exact ActsOn.by_text (f := fun b (q : List (List (String × String)) × String) =>
        { b with batch := b.batch ++ q.1, batchIndex := some q.2 })
        (fun q => actsOn_queue q.1 (some q.2)) hqueued
    exact .inr ⟨_, hqueue, fun b => (if_neg hblank).trans (if_pos hindex)⟩
  · exact .inl ⟨_, fun b => (if_neg hblank).trans (if_neg hindex)⟩

/-- **A call changes its part**, or is refused by every builder. -/
theorem settled_untracked {call : ClauseCall} {kind : ClauseKind}
    (hkind : call.kind? = some kind) : Settled kind (call.untracked style) := by
  cases call with
  | startCache | stopCache | flushCache | reset => cases hkind
  | selectAggregate aggregate column alias? =>
    cases hkind
    exact settled_selectAggregate style aggregate column alias?
  | selectAggregateNamed aggregate column alias? =>
    cases hkind
    exact settled_selectAggregateNamed style aggregate column alias?
  | queueInserts rows =>
    cases hkind
    exact settled_queueInserts style rows
  | queueUpdates rows index =>
    cases hkind
    exact settled_queueUpdates style rows index
  | select columns quoting =>
    cases hkind
    exact settled_of_actsOn (ActsOn.foldl (fun text => actsOn_addSelect ⟨text, quoting⟩) _)
  | setDistinct distinct =>
    cases hkind
    exact settled_of_actsOn (actsOn_setDistinct distinct)
  | fromTables tables =>
    cases hkind
    exact settled_of_actsOn (actsOn_tables style _)
  | join table condition joinKind =>
    cases hkind
    exact settled_of_actsOn (actsOn_join style table condition joinKind)
  | whereValue connector key value =>
    cases hkind
    exact settled_of_actsOn (actsOn_whereValue style connector key value)
  | whereAll pairs =>
    cases hkind
    exact settled_of_actsOn (actsOn_whereAll style pairs)
  | whereRaw connector text =>
    cases hkind
    exact settled_of_actsOn (actsOn_addWhere connector (Text.trim text))
  | whereIn connector negated key values =>
    cases hkind
    exact settled_of_actsOn (actsOn_whereIn style connector negated key values)
  | like connector negated key text side =>
    cases hkind
    exact settled_of_actsOn (actsOn_like style connector negated key text side)
  | groupBy columns =>
    cases hkind
    exact settled_of_actsOn (actsOn_groupBy style columns)
  | havingValue connector key value =>
    cases hkind
    exact settled_of_actsOn (actsOn_havingValue style connector key value)
  | havingRaw text =>
    cases hkind
    exact settled_of_actsOn (actsOn_addHaving .and (Text.trim text))
  | orderBy columns direction =>
    cases hkind
    exact settled_of_actsOn (actsOn_orderBy style columns direction)
  | setLimit n =>
    cases hkind
    exact settled_of_actsOn (actsOn_setLimit n)
  | setOffset n =>
    cases hkind
    exact settled_of_actsOn (actsOn_setOffset n)
  | set key value =>
    cases hkind
    exact settled_of_actsOn (actsOn_setRaw style key _)
  | setRaw key expression =>
    cases hkind
    exact settled_of_actsOn (actsOn_setRaw style key expression)
  | setRecord record =>
    cases hkind
    exact settled_of_actsOn (actsOn_setRecord style record)

end ClauseCall

/-! ## Aliases -/

namespace Builder

/-- The alias is known wherever it would be tracked. -/
def Knows (b : Builder) (name : String) : Prop :=
  name ∈ b.live.aliases ∧ (b.caching = true → name ∈ b.snapshot.aliases)

/-- Neither list of aliases has changed. -/
structure SameAliases (b c : Builder) : Prop where
  live : c.live.aliases = b.live.aliases
  snapshot : c.snapshot.aliases = b.snapshot.aliases

variable {b c : Builder} {name other table : String}

theorem SameAliases.knows (h : SameAliases b c) (hcaching : c.caching = b.caching) :
    c.Knows name ↔ b.Knows name := by
  unfold Knows
  rw [h.live, h.snapshot, hcaching]

/-- Tracking what is known changes nothing. -/
theorem addAlias_of_knows (h : b.Knows name) : b.addAlias name = b := by
  have hlive : b.live.aliases.contains name = true := List.contains_iff_mem.2 h.1
  have hsnapshot : (if b.caching then
      (if b.snapshot.aliases.contains name then b.snapshot
        else { b.snapshot with aliases := b.snapshot.aliases ++ [name] })
      else b.snapshot) = b.snapshot := by
    split
    · next hcaching => exact if_pos (List.contains_iff_mem.2 (h.2 hcaching))
    · rfl
  unfold addAlias add
  dsimp only
  rw [if_pos hlive, hsnapshot]

theorem knows_addAlias (b : Builder) (name : String) : (b.addAlias name).Knows name := by
  have hadded (cs : Clauses) : name ∈ (if cs.aliases.contains name then cs
      else { cs with aliases := cs.aliases ++ [name] }).aliases := by
    split
    · next hknown => exact List.contains_iff_mem.1 hknown
    · exact List.mem_concat_self
  refine ⟨hadded b.live, fun hcaching => ?_⟩
  have hcaching : b.caching = true := hcaching
  unfold addAlias add
  dsimp only
  rw [if_pos hcaching]
  exact hadded b.snapshot

theorem Knows.addAlias (h : b.Knows name) (other : String) : (b.addAlias other).Knows name := by
  have hkept (cs : Clauses) (hmem : name ∈ cs.aliases) :
      name ∈ (if cs.aliases.contains other then cs
        else { cs with aliases := cs.aliases ++ [other] }).aliases := by
    split
    · exact hmem
    · exact List.mem_append_left _ hmem
  refine ⟨hkept b.live h.1, fun hcaching => ?_⟩
  have hcaching : b.caching = true := hcaching
  unfold Builder.addAlias add
  dsimp only
  rw [if_pos hcaching]
  exact hkept b.snapshot (h.2 hcaching)

/-- Other clauses change no aliases. -/
theorem sameAliases_add {f : Clauses → Clauses} (h : ∀ c, (f c).aliases = c.aliases) (b : Builder) :
    SameAliases b (b.add f) where
  live := h b.live
  snapshot := by
    unfold add
    dsimp only
    split
    · exact h b.snapshot
    · rfl

theorem knows_addTable (b : Builder) (table : String) :
    (b.addTable table).Knows name ↔ b.Knows name :=
  (sameAliases_add (f := fun c => { c with tables := c.tables ++ [table] }) (fun _ => rfl) b).knows
    rfl

theorem knows_addJoin (b : Builder) (text : String) :
    (b.addJoin text).Knows name ↔ b.Knows name :=
  (sameAliases_add (f := fun c => { c with joins := c.joins ++ [text] }) (fun _ => rfl) b).knows rfl

theorem trackAlias_of_knows (h : ∀ name, Identifier.alias? table = some name → b.Knows name) :
    b.trackAlias table = b := by
  unfold trackAlias
  cases halias : Identifier.alias? table with
  | none => rfl
  | some name => exact addAlias_of_knows (h name halias)

theorem knows_trackAlias (b : Builder) (h : Identifier.alias? table = some name) :
    (b.trackAlias table).Knows name := by
  unfold trackAlias
  rw [h]
  exact knows_addAlias b name

theorem Knows.trackAlias (h : b.Knows name) (table : String) :
    (b.trackAlias table).Knows name := by
  unfold Builder.trackAlias
  split
  · exact h.addAlias _
  · exact h

/-- After the tables of a list their aliases are known, and those that were known before. -/
theorem knows_foldl_fromTable (style : Style) {tables : List String}
    (h : name ∈ tables.filterMap Identifier.alias? ∨ b.Knows name) :
    (tables.foldl (fromTable style) b).Knows name := by
  induction tables generalizing b with
  | nil => exact h.resolve_left List.not_mem_nil
  | cons table tables ih =>
    rw [List.foldl_cons]
    refine ih ?_
    have hstep : (b.trackAlias table).Knows name → (b.fromTable style table).Knows name :=
      (knows_addTable _ _).2
    rcases h with h | h
    · cases halias : Identifier.alias? table with
      | none =>
        rw [List.filterMap_cons_none halias] at h
        exact .inl h
      | some found =>
        rw [List.filterMap_cons_some halias] at h
        rcases List.mem_cons.1 h with rfl | h
        · exact .inr (hstep (knows_trackAlias b halias))
        · exact .inl h
    · exact .inr (hstep (h.trackAlias table))

theorem foldl_fromTable_of_knows (style : Style) {tables : List String}
    (h : ∀ name ∈ tables.filterMap Identifier.alias?, b.Knows name) :
    tables.foldl (fromTable style) b =
      tables.foldl (fun b table => b.addTable (b.table style table)) b := by
  induction tables generalizing b with
  | nil => rfl
  | cons table tables ih =>
    have htrack : b.trackAlias table = b :=
      trackAlias_of_knows fun name halias => h name (by simp [halias])
    have hstep : b.fromTable style table =
        (b.trackAlias table).addTable ((b.trackAlias table).table style table) := rfl
    rw [htrack] at hstep
    rw [List.foldl_cons, List.foldl_cons, hstep]
    refine ih fun name hname => (knows_addTable _ _).2 (h name ?_)
    rw [List.mem_filterMap] at hname ⊢
    obtain ⟨other, hother, halias⟩ := hname
    exact ⟨other, List.mem_cons_of_mem _ hother, halias⟩

theorem caching_addTable (b : Builder) (table : String) : (b.addTable table).caching = b.caching :=
  rfl

theorem caching_addJoin (b : Builder) (text : String) : (b.addJoin text).caching = b.caching :=
  rfl

theorem caching_trackAlias (b : Builder) (table : String) :
    (b.trackAlias table).caching = b.caching := by
  unfold trackAlias
  split <;> rfl

theorem caching_fromTables (style : Style) (b : Builder) (tables : String) :
    (b.fromTables style tables).caching = b.caching := by
  unfold fromTables
  induction Text.listItems tables generalizing b with
  | nil => rfl
  | cons table tables ih =>
    rw [List.foldl_cons, ih, fromTable, caching_addTable, caching_trackAlias]

end Builder

namespace ClauseCall

open Builder

variable {style : Style} {b c : Builder}

/-- What is introduced by a call that adds no alias is known already. -/
theorem knows_of_sameAliases {call : ClauseCall} (hok : call.apply style b = .ok c)
    (hsame : SameAliases b c) {name : String} (hname : name ∈ call.introduces) : b.Knows name := by
  unfold introduces at hname
  split at hname
  · next tables =>
    obtain rfl := Except.ok.inj hok
    have hknows : (b.fromTables style tables).Knows name := knows_foldl_fromTable style (.inl hname)
    exact (hsame.knows (caching_fromTables style b tables)).1 hknows
  · next table condition kind =>
    obtain rfl := Except.ok.inj hok
    have hknows : (b.join style table condition kind).Knows name :=
      (knows_addJoin _ _).2 (knows_trackAlias b (Option.mem_toList.1 hname))
    have hcaching : (b.join style table condition kind).caching = b.caching := by
      rw [join_eq, caching_addJoin, caching_trackAlias]
    exact (hsame.knows hcaching).1 hknows
  · cases hname

/-- A call whose aliases are known tracks none. -/
theorem apply_eq_untracked (style : Style) (b : Builder) {call : ClauseCall}
    (h : ∀ name ∈ call.introduces, b.Knows name) :
    call.apply style b = call.untracked style b := by
  cases call with
  | fromTables tables => exact congrArg Except.ok (foldl_fromTable_of_knows style h)
  | join table condition kind =>
    have htrack : b.trackAlias table = b :=
      trackAlias_of_knows fun name halias => h name (Option.mem_toList.2 halias)
    show Except.ok (b.join style table condition kind) = _
    rw [join_eq, htrack]
    rfl
  | _ => rfl

/-- **Clause calls of different kinds can be made in either order**, from every builder, if both
succeed and neither adds an alias: the builder is the same after both, and so is what is compiled
after any further calls. -/
theorem commute_of_kinds {call call' : ClauseCall} {kind kind' : ClauseKind} {d : Builder}
    (hkind : call.kind? = some kind) (hkind' : call'.kind? = some kind') (hne : kind ≠ kind')
    (hc : call.apply style b = .ok c) (hd : call'.apply style b = .ok d)
    (hsame : SameAliases b c) (hsame' : SameAliases b d) :
    (∃ e, call'.apply style c = .ok e ∧ call.apply style d = .ok e) ∧
      ∀ rest, run style b (call :: call' :: rest) = run style b (call' :: call :: rest) ∧
        ∀ ending : ChainEnd, ending.statement style (run style b (call :: call' :: rest)) =
          ending.statement style (run style b (call' :: call :: rest)) := by
  have hknows {name : String} (hname : name ∈ call.introduces) : b.Knows name :=
    knows_of_sameAliases hc hsame hname
  have hknows' {name : String} (hname : name ∈ call'.introduces) : b.Knows name :=
    knows_of_sameAliases hd hsame' hname
  have huntracked : call.untracked style b = .ok c :=
    (apply_eq_untracked style b fun _ => hknows).symm.trans hc
  have huntracked' : call'.untracked style b = .ok d :=
    (apply_eq_untracked style b fun _ => hknows').symm.trans hd
  have hsettled := settled_untracked style hkind
  have hsettled' := settled_untracked style hkind'
  obtain ⟨e, he, he'⟩ := hsettled.commute hsettled' hne huntracked huntracked'
  -- what is known stays known, so neither call tracks an alias behind the other one
  have hcaching := hsettled.caching_eq huntracked
  have hcaching' := hsettled'.caching_eq huntracked'
  have hlater : call'.apply style c = .ok e :=
    (apply_eq_untracked style c fun _ hname => (hsame.knows hcaching).2 (hknows' hname)).trans he
  have hlater' : call.apply style d = .ok e :=
    (apply_eq_untracked style d fun _ hname => (hsame'.knows hcaching').2 (hknows hname)).trans he'
  have hrun (rest : List ClauseCall) :
      run style b (call :: call' :: rest) = run style b (call' :: call :: rest) := by
    show run style ((call.step style b) |> fun b => call'.step style b) rest =
      run style ((call'.step style b) |> fun b => call.step style b) rest
    dsimp only
    rw [step_of_apply hc, step_of_apply hd, step_of_apply hlater, step_of_apply hlater']
  exact ⟨⟨e, hlater, hlater'⟩, fun rest => ⟨hrun rest, fun ending => by rw [hrun rest]⟩⟩

/-- Tables are prefixed and quoted. -/
def trackingStyle : Style :=
  ⟨.mysql, ⟨"app_", "", some '\u0060', true⟩⟩

/-- A builder that is caching, and that has the alias of a table both in its live clauses and in the
snapshot. -/
def trackingBuilder : Builder :=
  let clauses : Clauses := { Clauses.empty with tables := ["`app_users` u"], aliases := ["u"] }
  { Builder.empty with live := clauses, snapshot := clauses, caching := true }

/-- A condition on the alias, and a join that has the alias again. -/
theorem commute_of_kinds_tracked :
    (whereValue .or "u.age >" (.int 18)).kind? = some .wheres ∧
      (join "users u" "u.id = posts.user_id" "left").kind? = some .joins ∧
      SameAliases trackingBuilder
        ((whereValue .or "u.age >" (.int 18)).step trackingStyle trackingBuilder) ∧
      SameAliases trackingBuilder
        ((join "users u" "u.id = posts.user_id" "left").step trackingStyle trackingBuilder) ∧
      ∀ rest, run trackingStyle trackingBuilder (whereValue .or "u.age >" (.int 18) ::
          join "users u" "u.id = posts.user_id" "left" :: rest) =
        run trackingStyle trackingBuilder (join "users u" "u.id = posts.user_id" "left" ::
          whereValue .or "u.age >" (.int 18) :: rest) := by
  have hwhere : SameAliases trackingBuilder
      ((whereValue .or "u.age >" (.int 18)).step trackingStyle trackingBuilder) :=
    ⟨rfl, rfl⟩
  have hjoin : SameAliases trackingBuilder
      ((join "users u" "u.id = posts.user_id" "left").step trackingStyle trackingBuilder) := by
    constructor <;> decide +kernel
  have hkind : (whereValue .or "u.age >" (.int 18)).kind? = some .wheres := rfl
  have hkind' : (join "users u" "u.id = posts.user_id" "left").kind? = some .joins := rfl
  obtain ⟨-, hrun⟩ := commute_of_kinds hkind hkind' (by decide) rfl rfl hwhere hjoin
  exact ⟨hkind, hkind', hwhere, hjoin, fun rest => (hrun rest).1⟩

end ClauseCall

end SqlGateway
