import SqlGateway.Proofs.Session.Sent

/-!
# What reads leave behind

A read uses up the clauses of its builder, and what a later SELECT can still show of them is the
snapshot. The builder itself is not empty after a read: assignments and queued rows stay, and every
clause that is added later looks at clauses that are there. So two things have to be shown: that no
call which adds clauses, and no SELECT, looks at what only writes use, and that without this part
the builder left by a read is a new one with the same snapshot.

The first is the invariant `Builder.forReads`: the builder as reads see it. Every clause call
commutes with it, whatever it looks at on the way.

Main definitions:

* `ClauseCall`: the calls that change a builder and send nothing.
* `Builder.forReads`: the builder without what only writes use.
* `ReadCall`: the calls that use the clauses up for a SELECT.
* `Database.compileAfter`: clause calls, and the SELECT that they compile to.

Main results:

* `ClauseCall.forReads_apply`: clause calls do not look at what only writes use.
* `ReadCall.forReads_after`: what reads see of the builder that a read leaves.
* `ReadCall.reads_forget`: nothing but the snapshot outlives a read.
-/

namespace SqlGateway

/-! ## Clause calls -/

/-- The calls that change a builder and send nothing. -/
inductive ClauseCall where
  | select (columns : String) (quoting : Option Bool)
  | selectAggregate (kind : Aggregate) (column : String) (alias? : Option String)
  | selectAggregateNamed (kind column : String) (alias? : Option String)
  | setDistinct (distinct : Bool)
  | fromTables (tables : String)
  | join (table condition kind : String)
  | whereValue (connector : Connector) (key : String) (value : Value)
  | whereAll (pairs : List (String × Value))
  | whereRaw (connector : Connector) (text : String)
  | whereIn (connector : Connector) (negated : Bool) (key : String) (values : List Value)
  | havingValue (connector : Connector) (key : String) (value : Value)
  | havingRaw (text : String)
  | like (connector : Connector) (negated : Bool) (key text : String) (side : LikeSide)
  | groupBy (columns : String)
  | orderBy (columns direction : String)
  | setLimit (n : Nat)
  | setOffset (n : Nat)
  | set (key : String) (value : Value)
  | setRaw (key expression : String)
  | setRecord (record : Record)
  | queueInserts (rows : List Record)
  | queueUpdates (rows : List Record) (index : String)
  | startCache
  | stopCache
  | flushCache
  | reset

/-- What a call makes of a builder, unless it is refused. -/
def ClauseCall.apply (style : Style) (b : Builder) : ClauseCall → Except Refusal Builder
  | select columns quoting => .ok (b.select columns quoting)
  | selectAggregate kind column alias? => b.selectAggregate style kind column alias?
  | selectAggregateNamed kind column alias? => b.selectAggregateNamed style kind column alias?
  | setDistinct distinct => .ok (b.setDistinct distinct)
  | fromTables tables => .ok (b.fromTables style tables)
  | join table condition kind => .ok (b.join style table condition kind)
  | whereValue connector key value => .ok (b.whereValue style connector key value)
  | whereAll pairs => .ok (b.whereAll style pairs)
  | whereRaw connector text => .ok (b.whereRaw connector text)
  | whereIn connector negated key values => .ok (b.whereIn style connector negated key values)
  | havingValue connector key value => .ok (b.havingValue style connector key value)
  | havingRaw text => .ok (b.havingRaw text)
  | like connector negated key text side => .ok (b.like style connector negated key text side)
  | groupBy columns => .ok (b.groupBy style columns)
  | orderBy columns direction => .ok (b.orderBy style columns direction)
  | setLimit n => .ok (b.setLimit n)
  | setOffset n => .ok (b.setOffset n)
  | set key value => .ok (b.set style key value)
  | setRaw key expression => .ok (b.setRaw style key expression)
  | setRecord record => .ok (b.setRecord style record)
  | queueInserts rows => b.queueInserts style rows
  | queueUpdates rows index => b.queueUpdates style rows index
  | startCache => .ok b.startCache
  | stopCache => .ok b.stopCache
  | flushCache => .ok b.flushCache
  | reset => .ok b.reset

/-! ## What reads see -/

namespace Builder

/-- The builder as reads see it: without live assignments and queued rows. -/
def forReads (b : Builder) : Builder :=
  { b with live := { b.live with assignments := .empty }, batch := [], batchIndex := none }

/-- A new builder with a snapshot that it goes on with. -/
def resuming (snapshot : Clauses) (caching : Bool) : Builder :=
  { empty with snapshot, caching }

theorem forReads_resuming (snapshot : Clauses) (caching : Bool) :
    (resuming snapshot caching).forReads = resuming snapshot caching :=
  rfl

/-- A read leaves nothing that reads see but the snapshot. -/
theorem forReads_afterRead (b : Builder) :
    b.afterRead.forReads = resuming b.snapshot b.caching :=
  rfl

/-- A list of additions does not look at what only writes use if none of them does. -/
theorem forReads_foldl {α : Type} {f : Builder → α → Builder}
    (h : ∀ b x, (f b x).forReads = (f b.forReads x).forReads) (xs : List α) (b : Builder) :
    (xs.foldl f b).forReads = (xs.foldl f b.forReads).forReads := by
  -- the induction needs both sides at any builder, since each step may leave assignments behind
  induction xs generalizing b with
  | nil => rfl
  | cons x xs ih =>
    calc (xs.foldl f (f b x)).forReads
        = (xs.foldl f (f b x).forReads).forReads := ih (f b x)
      _ = (xs.foldl f (f b.forReads x).forReads).forReads := by rw [h]
      _ = (xs.foldl f (f b.forReads x)).forReads := (ih (f b.forReads x)).symm

theorem forReads_trackAlias (b : Builder) (table : String) :
    (b.trackAlias table).forReads = (b.forReads.trackAlias table).forReads := by
  unfold trackAlias
  cases Identifier.alias? table with
  | none => rfl
  | some name =>
    unfold addAlias add forReads
    dsimp only
    split <;> rfl

theorem forReads_fromTable (style : Style) (b : Builder) (table : String) :
    (b.fromTable style table).forReads = (b.forReads.fromTable style table).forReads := by
  have hadd (c : Builder) (text : String) :
      (c.addTable text).forReads = (c.forReads.addTable text).forReads := rfl
  -- the alias that was just tracked may be one of the table itself
  have htable (c : Builder) : c.table style table = c.forReads.table style table := rfl
  unfold fromTable
  dsimp only
  rw [hadd, hadd (b.forReads.trackAlias table), htable, htable (b.forReads.trackAlias table),
    forReads_trackAlias]

theorem forReads_fromTables (style : Style) (b : Builder) (tables : String) :
    (b.fromTables style tables).forReads = (b.forReads.fromTables style tables).forReads :=
  forReads_foldl (fun b table => b.forReads_fromTable style table) _ b

theorem forReads_join (style : Style) (b : Builder) (table condition kind : String) :
    (b.join style table condition kind).forReads =
      (b.forReads.join style table condition kind).forReads := by
  have hadd (c : Builder) (text : String) :
      (c.addJoin text).forReads = (c.forReads.addJoin text).forReads := rfl
  have htable (c : Builder) : c.table style table = c.forReads.table style table := rfl
  have hsides (c : Builder) :
      JoinCondition.render style c condition = JoinCondition.render style c.forReads condition :=
    rfl
  unfold join
  dsimp only
  rw [hadd, hadd (b.forReads.trackAlias table), htable, htable (b.forReads.trackAlias table),
    hsides, hsides (b.forReads.trackAlias table), forReads_trackAlias]

theorem forReads_whereIn (style : Style) (b : Builder) (connector : Connector) (negated : Bool)
    (key : String) (values : List Value) :
    (b.whereIn style connector negated key values).forReads =
      (b.forReads.whereIn style connector negated key values).forReads := by
  unfold whereIn
  split <;> rfl

theorem forReads_orderBy (style : Style) (b : Builder) (columns direction : String) :
    (b.orderBy style columns direction).forReads =
      (b.forReads.orderBy style columns direction).forReads := by
  have hadd (c : Builder) (text : String) :
      (c.addOrder text).forReads = (c.forReads.addOrder text).forReads := rfl
  have haliases : b.forReads.aliases = b.aliases := rfl
  have hcolumn (c : String) : b.forReads.column style c = b.column style c := rfl
  unfold orderBy
  simp only [haliases, hcolumn]
  split
  · exact hadd b _
  · split
    · rfl
    · split <;> exact hadd b _

/-! Calls that may be refused are refused for their arguments alone. -/

theorem forReads_selectAggregate (style : Style) (b : Builder) (kind : Aggregate) (column : String)
    (alias? : Option String) :
    (b.selectAggregate style kind column alias?).map forReads =
      (b.forReads.selectAggregate style kind column alias?).map forReads := by
  unfold selectAggregate
  dsimp only
  split <;> rfl

theorem forReads_queueInserts (style : Style) (b : Builder) (rows : List Record) :
    (b.queueInserts style rows).map forReads =
      (b.forReads.queueInserts style rows).map forReads := by
  cases rows with
  | nil => rfl
  | cons first rest =>
    unfold queueInserts
    dsimp only
    split <;> rfl

theorem forReads_queueUpdates (style : Style) (b : Builder) (rows : List Record) (index : String) :
    (b.queueUpdates style rows index).map forReads =
      (b.forReads.queueUpdates style rows index).map forReads := by
  unfold queueUpdates
  split
  · rfl
  · split <;> rfl

end Builder

/-- Clause calls do not look at what only writes use. -/
theorem ClauseCall.forReads_apply (style : Style) (b : Builder) (call : ClauseCall) :
    (call.apply style b).map Builder.forReads =
      (call.apply style b.forReads).map Builder.forReads := by
  cases call with
  | selectAggregate kind column alias? => exact b.forReads_selectAggregate style kind column alias?
  | selectAggregateNamed kind column alias? =>
    simp only [apply, Builder.selectAggregateNamed]
    cases Aggregate.parse? kind with
    | none => rfl
    | some kind => exact b.forReads_selectAggregate style kind column alias?
  | queueInserts rows => exact b.forReads_queueInserts style rows
  | queueUpdates rows index => exact b.forReads_queueUpdates style rows index
  | select => exact congrArg Except.ok (Builder.forReads_foldl (fun _ _ => rfl) _ b)
  | fromTables tables => exact congrArg Except.ok (b.forReads_fromTables style tables)
  | join table condition kind =>
    exact congrArg Except.ok (b.forReads_join style table condition kind)
  | whereAll => exact congrArg Except.ok (Builder.forReads_foldl (fun _ _ => rfl) _ b)
  | whereIn connector negated key values =>
    exact congrArg Except.ok (b.forReads_whereIn style connector negated key values)
  | groupBy => exact congrArg Except.ok (Builder.forReads_foldl (fun _ _ => rfl) _ b)
  | orderBy columns direction =>
    exact congrArg Except.ok (b.forReads_orderBy style columns direction)
  | setRecord => exact congrArg Except.ok (Builder.forReads_foldl (fun _ _ => rfl) _ b)
  | setDistinct | whereValue | whereRaw | havingValue | havingRaw | like => rfl
  | setLimit | setOffset | set | setRaw | startCache | stopCache | flushCache | reset => rfl

/-! ## Selects -/

namespace Builder

theorem forReads_merge (b : Builder) : b.merge.forReads = b.forReads.merge.forReads := by
  have hsnapshot : b.forReads.snapshot = b.snapshot := rfl
  unfold merge
  rw [hsnapshot]
  split <;> rfl

/-- A SELECT does not show what only writes use. -/
theorem selectText_forReads (style : Style) (b : Builder) :
    b.forReads.selectText style = b.selectText style := by
  have hhead (c : Builder) : c.selectHead style = c.forReads.selectHead style := rfl
  have htail (c : Builder) : c.selectTail style = c.forReads.selectTail style := rfl
  unfold selectText
  dsimp only
  rw [hhead b.merge, htail b.merge, forReads_merge]
  rfl

end Builder

/-! ## Reads -/

/-- The calls that use the clauses up for a SELECT, or for its text alone. -/
inductive ReadCall where
  | get (table? : Option String) (limit? offset? : Option Nat)
  | getWhere (table? : Option String) (pairs : List (String × Value)) (limit? offset? : Option Nat)
  | countResults (table? : Option String)
  /-- The text of a select, after which the clauses are forgotten. -/
  | compiled (table? : Option String)

namespace ReadCall

/-- The builder with the clauses that the call itself adds. -/
def extended (style : Style) (b : Builder) : ReadCall → Builder
  | get table? .. => b.fromArgument style table?
  | getWhere table? pairs .. => (b.whereAll style pairs).fromArgument style table?
  | countResults table? => b.fromArgument style table?
  | compiled table? => b.fromArgument style table?

theorem caching_extended (style : Style) (b : Builder) (call : ReadCall) :
    (call.extended style b).caching = b.caching := by
  have hfold {α : Type} {f : Builder → α → Builder} (h : ∀ b x, (f b x).caching = b.caching)
      (xs : List α) (b : Builder) : (xs.foldl f b).caching = b.caching := by
    induction xs generalizing b with
    | nil => rfl
    | cons x xs ih => exact (ih (f b x)).trans (h b x)
  have htable (b : Builder) (table : String) : (b.fromTable style table).caching = b.caching := by
    unfold Builder.fromTable Builder.trackAlias
    cases Identifier.alias? table <;> rfl
  have hargument (b : Builder) (table? : Option String) :
      (b.fromArgument style table?).caching = b.caching := by
    unfold Builder.fromArgument
    split
    · exact hfold htable _ b
    · rfl
  cases call with
  | getWhere table? pairs =>
    have hwhere : (b.whereAll style pairs).caching = b.caching :=
      hfold (f := fun b (p : String × Value) => b.whereValue style .and p.1 p.2)
        (fun _ _ => rfl) pairs b
    exact (hargument _ table?).trans hwhere
  | get table? => exact hargument b table?
  | countResults table? => exact hargument b table?
  | compiled table? => exact hargument b table?

variable {C E : Type} [Connection C] [Backend C E]

/-- The call, its result aside. -/
def perform : ReadCall → Action (Database C) E Unit
  | get table? limit? offset? => do
    let _ ← Database.read fun style b => b.get style table? limit? offset?
  | getWhere table? pairs limit? offset? => do
    let _ ← Database.read fun style b => b.getWhere style table? pairs limit? offset?
  | countResults table? => do
    let _ ← Database.count fun style b => b.countResults style table?
  | compiled table? => do
    let _ ← Database.compile fun style b => b.compileFor style table? true

/-- What reads see of the builder that a call leaves is the snapshot, with what the call added to
it. How the call ends makes no difference. -/
theorem forReads_after (call : ReadCall) (s : Session C) (b : Builder) (w : World E) :
    let r := (call.perform : Action (Database C) E Unit).run (⟨s, some b⟩, w)
    ∃ left, r.2.1.builder = some left ∧
      left.forReads = .resuming (call.extended ⟨s.dialect, s.rules⟩ b).snapshot b.caching := by
  intro r
  rw [← call.caching_extended ⟨s.dialect, s.rules⟩ b]
  -- merging copies the snapshot and does not change it
  have hmerge (c : Builder) : c.merge.afterRead.forReads = .resuming c.snapshot c.caching := by
    rw [Builder.forReads_afterRead]
    unfold Builder.merge
    split <;> rfl
  have hread (f : Style → Builder → Read) :
      (do let _ ← Database.read f : Action (Database C) E Unit).run (⟨s, some b⟩, w) = _ :=
    Action.run_bind_pure_apply (Database.read f) (fun _ => ()) _
  have hcount (f : Style → Builder → Read) :
      (do let _ ← Database.count f : Action (Database C) E Unit).run (⟨s, some b⟩, w) = _ :=
    Action.run_bind_pure_apply (Database.count f) (fun _ => ()) _
  have hcounted (f : Style → Builder → Read) :
      (Database.count f : Action (Database C) E Nat).run (⟨s, some b⟩, w) = _ :=
    Action.run_bind_pure_apply (Database.read f) _ _
  cases call with
  | get table? limit? offset? =>
    have hr : r = _ := hread fun style b => b.get style table? limit? offset?
    rw [hr, Database.run_read]
    exact ⟨_, rfl, hmerge _⟩
  | getWhere table? pairs limit? offset? =>
    have hr : r = _ := hread fun style b => b.getWhere style table? pairs limit? offset?
    rw [hr, Database.run_read]
    exact ⟨_, rfl, hmerge _⟩
  | countResults table? =>
    have hr : r = _ := hcount fun style b => b.countResults style table?
    rw [hr, hcounted, Database.run_read]
    exact ⟨_, rfl, hmerge _⟩
  | compiled table? => exact ⟨_, rfl, hmerge _⟩

end ReadCall

/-! ## Later selects -/

namespace Database

variable {C E : Type} [Connection C]

/-- Clause calls one after the other. A refused call is answered by its error, and the next one
follows all the same. -/
def gather : List ClauseCall → Effect (Database C) E (List (Except DbError Unit))
  | [] => return []
  | clause :: clauses => do
    let answer ← (call fun style b => clause.apply style b : Action (Database C) E Unit).run
    return answer :: (← gather clauses)

/-- The answers to clause calls, and the SELECT that is compiled after them. -/
def compileAfter (clauses : List ClauseCall) :
    Effect (Database C) E (List (Except DbError Unit) × Except DbError String) := do
  let answers ← gather clauses
  let text ← (compile fun style b => b.compile style : Action (Database C) E String).run
  return (answers, text)

/-- The run of a clause call. -/
theorem run_call (f : Style → Builder → Except Refusal Builder) (s : Session C) (b : Builder)
    (w : World E) :
    (call f : Action (Database C) E Unit).run (⟨s, some b⟩, w) =
      match f ⟨s.dialect, s.rules⟩ b with
      | .ok c => (.ok (), ⟨s, some c⟩, w)
      | .error r => (.error (s.upgrade r.error), ⟨s, some b⟩, w) := by
  have hbuilder : (needBuilder : Action (Database C) E Builder).run (⟨s, some b⟩, w) =
      (.ok b, ⟨s, some b⟩, w) :=
    rfl
  have hstyle : style (⟨s, some b⟩ : Database C) = ⟨s.dialect, s.rules⟩ := rfl
  unfold call
  rw [Action.run_bind_apply, hbuilder]
  dsimp only
  rw [Action.run_bind_apply, Action.run_subject_apply]
  dsimp only
  rw [hstyle]
  cases f ⟨s.dialect, s.rules⟩ b <;> rfl

/-- Builders that are the same to reads give clause calls the same answers, and stay so. -/
theorem gather_congr (clauses : List ClauseCall) (s : Session C) {b c : Builder}
    (h : b.forReads = c.forReads) (w : World E) :
    ∃ answers, ∃ b' c' : Builder, b'.forReads = c'.forReads ∧
      gather clauses (⟨s, some b⟩, w) = (answers, ⟨s, some b'⟩, w) ∧
      gather clauses (⟨s, some c⟩, w) = (answers, ⟨s, some c'⟩, w) := by
  induction clauses generalizing b c with
  | nil => exact ⟨[], b, c, h, rfl, rfl⟩
  | cons clause clauses ih =>
    have hstep (b : Builder) : gather (clause :: clauses) (⟨s, some b⟩, w) =
        let r := (call fun style b => clause.apply style b : Action (Database C) E Unit).run
          (⟨s, some b⟩, w)
        ((r.1 :: (gather clauses r.2).1), (gather clauses r.2).2) :=
      rfl
    have happly := (clause.forReads_apply ⟨s.dialect, s.rules⟩ b).trans
      ((congrArg (fun d => (clause.apply ⟨s.dialect, s.rules⟩ d).map Builder.forReads) h).trans
        (clause.forReads_apply ⟨s.dialect, s.rules⟩ c).symm)
    rw [hstep b, hstep c, run_call, run_call]
    -- a call is refused for both builders or for none
    cases hb : clause.apply ⟨s.dialect, s.rules⟩ b with
    | error r =>
      cases hc : clause.apply ⟨s.dialect, s.rules⟩ c with
      | ok c' => simp [hb, hc, Except.map] at happly
      | error r' =>
        obtain rfl : r = r' := by simpa [hb, hc, Except.map] using happly
        obtain ⟨answers, b', c', hstay, hgb, hgc⟩ := ih h
        refine ⟨.error (s.upgrade r.error) :: answers, b', c', hstay, ?_, ?_⟩
        · simp only [hgb]
        · simp only [hgc]
    | ok b₁ =>
      cases hc : clause.apply ⟨s.dialect, s.rules⟩ c with
      | error r' => simp [hb, hc, Except.map] at happly
      | ok c₁ =>
        have h₁ : b₁.forReads = c₁.forReads := by simpa [hb, hc, Except.map] using happly
        obtain ⟨answers, b', c', hstay, hgb, hgc⟩ := ih h₁
        refine ⟨.ok () :: answers, b', c', hstay, ?_, ?_⟩
        · simp only [hgb]
        · simp only [hgc]

/-- Builders that are the same to reads compile to the same text after the same calls. -/
theorem compileAfter_congr (clauses : List ClauseCall) (s : Session C) {b c : Builder}
    (h : b.forReads = c.forReads) (w : World E) :
    ∃ answers text,
      (compileAfter clauses (⟨s, some b⟩, w)).1 = (answers, .ok text) ∧
      (compileAfter clauses (⟨s, some c⟩, w)).1 = (answers, .ok text) := by
  have hrun {b b' : Builder} {answers : List (Except DbError Unit)}
      (h : gather clauses (⟨s, some b⟩, w) = (answers, ⟨s, some b'⟩, w)) :
      (compileAfter clauses (⟨s, some b⟩, w)).1 =
        (answers, .ok (b'.selectText ⟨s.dialect, s.rules⟩)) := by
    unfold compileAfter
    rw [Effect.bind_apply, h]
    rfl
  obtain ⟨answers, b', c', hstay, hb, hc⟩ := gather_congr clauses s h w
  refine ⟨answers, b'.selectText ⟨s.dialect, s.rules⟩, hrun hb, ?_⟩
  rw [hrun hc, ← Builder.selectText_forReads, ← Builder.selectText_forReads _ b', hstay]

end Database

/-- **Reads forget everything but the snapshot.** Whatever builder a read starts from and however it
ends, the same clause calls get the same answers afterwards, and compile to the same SELECT, as on a
new builder with the snapshot that is left and the same caching flag. The snapshot that is left is
the one from before, with the clauses that the call itself added to it while caching. -/
theorem ReadCall.reads_forget {C E : Type} [Connection C] [Backend C E] (call : ReadCall)
    (s : Session C) (b : Builder) (w : World E) :
    let r := (call.perform : Action (Database C) E Unit).run (⟨s, some b⟩, w)
    ∃ left, r.2.1.builder = some left ∧ left.caching = b.caching ∧
      left.snapshot = (call.extended ⟨s.dialect, s.rules⟩ b).snapshot ∧
      ∀ clauses, ∃ answers text,
        (Database.compileAfter clauses r.2).1 = (answers, .ok text) ∧
        (Database.compileAfter clauses
          (⟨r.2.1.session, some (.resuming left.snapshot left.caching)⟩, r.2.2)).1 =
            (answers, .ok text) := by
  intro r
  obtain ⟨left, hleft, hreads⟩ := call.forReads_after s b w
  -- reads see all of the snapshot and the flag
  have hsnapshot : left.snapshot = (call.extended ⟨s.dialect, s.rules⟩ b).snapshot :=
    calc left.snapshot = left.forReads.snapshot := rfl
      _ = _ := by rw [hreads]; rfl
  have hcaching : left.caching = b.caching :=
    calc left.caching = left.forReads.caching := rfl
      _ = _ := by rw [hreads]; rfl
  refine ⟨left, hleft, hcaching, hsnapshot, fun clauses => ?_⟩
  have hr : r.2 = (⟨r.2.1.session, some left⟩, r.2.2) := by
    have hdatabase : r.2.1 = ⟨r.2.1.session, some left⟩ := by rw [← hleft]
    rw [← hdatabase]
  rw [hr]
  refine Database.compileAfter_congr clauses r.2.1.session ?_ r.2.2
  rw [Builder.forReads_resuming, hsnapshot, hcaching]
  exact hreads

end SqlGateway
