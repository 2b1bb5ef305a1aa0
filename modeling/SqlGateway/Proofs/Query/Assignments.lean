import SqlGateway.Proofs.OrderedMap
import SqlGateway.Proofs.Query.RefusedWrites
import SqlGateway.Proofs.Query.Terminals

/-!
# What writes assign

An INSERT, a REPLACE and an UPDATE write the assignments of a builder, and are refused if there are
none. An update merges the snapshot first: it writes the assignments of the snapshot in their order,
with the live ones laid over them. An insert and a replace do not merge. They write the live ones
alone, which are the same exactly if they begin with the columns of the snapshot, and they are
refused where the only assignments are those of the snapshot.

Main definitions:

* `Builder.gatheredAssignments`: the live assignments laid over those of the snapshot.
* `AssigningCall`: the writes of assignments.
* `AssigningCall.assigned`: what a call assigns.

Main results:

* `AssigningCall.assigned_eq_gathered_iff`: which calls assign all that was gathered.
* `AssigningCall.writes_assigned`: this, and what a call sends.
-/

namespace SqlGateway

theorem OrderedMap.eq_empty_iff {α : Type} {m : OrderedMap α} : m = .empty ↔ m.isEmpty = true := by
  constructor
  · rintro rfl
    rfl
  · intro h
    obtain ⟨entries, hnodup⟩ := m
    obtain rfl : entries = [] := List.isEmpty_iff.1 h
    rfl

/-- Nothing comes of laying a map over another one exactly if both are empty. -/
theorem OrderedMap.overlay_eq_empty_iff {α : Type} {lower upper : OrderedMap α} :
    lower.overlay upper = .empty ↔ lower = .empty ∧ upper = .empty := by
  have hkeys (m : OrderedMap α) : m = .empty ↔ m.keys = [] := by
    rw [eq_empty_iff, isEmpty, List.isEmpty_iff, keys, keysOf, List.map_eq_nil_iff]
  rw [hkeys, hkeys lower, hkeys upper, keys_overlay, List.eq_nil_iff_forall_not_mem,
    ← List.append_eq_nil_iff, List.eq_nil_iff_forall_not_mem]
  simp only [List.mem_eraseDups]

/-! ## Assignments of a builder -/

namespace Builder

/-- The assignments of the snapshot in their order, with the live ones laid over them. -/
def gatheredAssignments (b : Builder) : OrderedMap String :=
  b.snapshot.assignments.overlay b.live.assignments

variable {style : Style} {b : Builder} {table? : Option String}
  {text : List (String × String) → String → String}

/-- Merging makes live what was gathered, also where it does nothing for want of a snapshot. -/
theorem assignments_merge : b.merge.live.assignments = b.gatheredAssignments := by
  unfold merge
  split
  · next hempty =>
    refine (OrderedMap.overlay_eq_upper_iff.2 ?_).symm
    rw [hempty]
    exact List.nil_prefix
  · rfl

/-- A table is missing, or none is named. -/
theorem eq_noTable_of_target {r : Refusal} (h : b.target style table? = .error r) :
    r = .noTable := by
  unfold target at h
  split at h
  · cases h
  · split at h
    · cases h
    · exact (Except.error.inj h).symm

theorem assigning_of_empty (h : b.live.assignments = .empty) :
    b.assigning style table? text = .error .noAssignments := by
  unfold assigning needAssignments
  rw [if_pos (OrderedMap.eq_empty_iff.1 h)]
  rfl

theorem assigning_of_nonempty (h : b.live.assignments ≠ .empty) :
    b.assigning style table? text =
      (b.target style table?).map (text b.live.assignments.entries) := by
  unfold assigning needAssignments
  rw [if_neg fun hempty => h (OrderedMap.eq_empty_iff.2 hempty)]
  show (do
    let table ← b.target style table?
    return text b.live.assignments.entries table : Except Refusal String) = _
  cases b.target style table? <;> rfl

end Builder

/-! ## Calls -/

/-- The writes of the assignments of a builder. -/
inductive AssigningCall where
  | insert (table? : Option String)
  | replace (table? : Option String)
  | update (table? condition? : Option String) (limit? : Option Nat)

namespace AssigningCall

def plan (call : AssigningCall) (style : Style) (b : Builder) : Plan :=
  match call with
  | insert table? => b.insert style table?
  | replace table? => b.replace style table?
  | update table? condition? limit? => b.update style table? condition? limit?

def table? : AssigningCall → Option String
  | insert table? | replace table? | update table? _ _ => table?

/-- The snapshot is merged before anything else. -/
def merges : AssigningCall → Bool
  | insert _ | replace _ => false
  | update .. => true

/-- The builder that the call takes the assignments and the table from. -/
def source (call : AssigningCall) (b : Builder) : Builder :=
  if call.merges then b.merge else b

/-- What the call assigns. -/
def assigned (call : AssigningCall) (b : Builder) : OrderedMap String :=
  (call.source b).live.assignments

/-- The statement of the call about some assignments and a table. -/
def text (style : Style) (b : Builder) (call : AssigningCall)
    (assignments : List (String × String)) (table : String) : String :=
  match call with
  | insert _ =>
    style.dialect.insertText ⟨table, assignments.map Prod.fst, [assignments.map Prod.snd]⟩
  | replace _ =>
    style.dialect.replaceText ⟨table, assignments.map Prod.fst, [assignments.map Prod.snd]⟩
  | update _ condition? limit? =>
    let restricted := (b.merge.whereArgument condition?).limitArgument limit?
    style.dialect.updateText {
      table
      assignments
      conditions := restricted.live.conditions
      order := restricted.live.orders
      limit := restricted.limit }

variable {style : Style} {b : Builder} {call : AssigningCall}

theorem isBlank_text (assignments : List (String × String)) (table : String) :
    Text.isBlank (call.text style b assignments table) = false := by
  cases call with
  | insert | replace => exact Statement.isBlank_insertText (by decide) _
  | update => exact Dialect.isBlank_updateText _ _

/-- A call sends the statement of its assignments and its table, and is refused where one of them
is missing. -/
theorem plan_eq (style : Style) (b : Builder) (call : AssigningCall) :
    ∃ after, call.plan style b =
      .orRefused ((call.source b).assigning style call.table? (call.text style b)) (call.source b)
        fun sql => .sending [sql] after := by
  cases call with
  | insert table? =>
    refine ⟨b.afterWrite, ?_⟩
    exact Builder.orRefused_assigning (text style b (insert table?))
      fun sql => .sending [sql] b.afterWrite
  | replace table? =>
    refine ⟨b.afterWrite, ?_⟩
    exact Builder.orRefused_assigning (text style b (replace table?))
      fun sql => .sending [sql] b.afterWrite
  | update table? condition? limit? =>
    let after := ((b.merge.whereArgument condition?).limitArgument limit?).afterWrite
    refine ⟨after, ?_⟩
    exact Builder.orRefused_assigning (text style b (update table? condition? limit?))
      fun sql => .sending [sql] after

/-! ### What is assigned -/

theorem assigned_eq :
    call.assigned b = if call.merges then b.gatheredAssignments else b.live.assignments := by
  unfold assigned source
  split
  · exact Builder.assignments_merge
  · rfl

/-- A call that does not merge assigns all that was gathered exactly if the live assignments begin
with the columns of the snapshot. -/
theorem assigned_eq_gathered_iff :
    call.assigned b = b.gatheredAssignments ↔
      call.merges = true ∨ b.snapshot.assignments.keys <+: b.live.assignments.keys := by
  rw [assigned_eq]
  cases call.merges with
  | true => simp
  | false =>
    rw [if_neg Bool.false_ne_true, eq_comm, or_iff_right Bool.false_ne_true]
    exact OrderedMap.overlay_eq_upper_iff

/-- It lacks assignments although some were gathered exactly if these are those of the snapshot. -/
theorem assigned_eq_empty_iff :
    (call.assigned b = .empty ↔ b.gatheredAssignments = .empty) ↔
      call.merges = true ∨ b.live.assignments ≠ .empty ∨ b.snapshot.assignments = .empty := by
  rw [assigned_eq, Builder.gatheredAssignments, OrderedMap.overlay_eq_empty_iff]
  cases call.merges with
  | true =>
    rw [if_pos rfl, OrderedMap.overlay_eq_empty_iff]
    simp
  | false =>
    rw [if_neg Bool.false_ne_true]
    by_cases hlive : b.live.assignments = .empty <;> simp [hlive]

/-- A call is refused for want of assignments exactly if it has none. -/
theorem refusal_eq_noAssignments_iff :
    (call.plan style b).refusal = some .noAssignments ↔ call.assigned b = .empty := by
  obtain ⟨after, hplan⟩ := call.plan_eq style b
  rw [hplan]
  by_cases hempty : call.assigned b = .empty
  · rw [Builder.assigning_of_empty hempty]
    exact iff_of_true rfl hempty
  · refine iff_of_false ?_ hempty
    rw [Builder.assigning_of_nonempty hempty]
    cases htable : (call.source b).target style call.table? with
    | ok table => exact nofun
    | error r =>
      rw [Builder.eq_noTable_of_target htable]
      exact nofun

/-! ### Runs -/

variable {C E : Type} [Connection C] [Backend C E]

open Session (SentOnce)

/-- **What writes assign.** A call that has nothing to assign is refused, and otherwise its
statement with just these assignments is sent. What was gathered has each column of the snapshot and
of the live assignments once, in this order, with its live value if there is one. An update assigns
what was gathered. An insert and a replace do exactly if the live assignments begin with the columns
of the snapshot, and they are refused as an update is unless the snapshot alone has assignments. -/
theorem writes_assigned (call : AssigningCall) (s : Session (Traced C)) (b : Builder)
    (w : World E) :
    let style : Style := ⟨s.dialect, s.rules⟩
    let assigned := call.assigned b
    let gathered := b.gatheredAssignments
    let r := (Database.write call.plan : Action (Database (Traced C)) E Nat).run (⟨s, some b⟩, w)
    ((call.plan style b).refusal = some .noAssignments ↔ assigned = .empty) ∧
      (assigned = .empty →
        r = (.error (s.upgrade Refusal.noAssignments.error), ⟨s, some (call.source b)⟩, w)) ∧
      (∀ table, assigned ≠ .empty → (call.source b).target style call.table? = .ok table →
        SentOnce (PrefixSwap.apply s.config.tablePrefix s.config.swapPrefix
          (call.text style b assigned.entries table)) s w r.1 r.2.1.session) ∧
      gathered.keys =
        (b.snapshot.assignments.keys ++ b.live.assignments.keys).eraseDups ∧
      (∀ column, gathered.get? column =
        (b.live.assignments.get? column <|> b.snapshot.assignments.get? column)) ∧
      (assigned = gathered ↔
        call.merges = true ∨ b.snapshot.assignments.keys <+: b.live.assignments.keys) ∧
      ((assigned = .empty ↔ gathered = .empty) ↔
        call.merges = true ∨ b.live.assignments ≠ .empty ∨ b.snapshot.assignments = .empty) := by
  intro style assigned gathered r
  obtain ⟨after, hplan⟩ := call.plan_eq style b
  -- what the map of gathered assignments holds has nothing to do with the call
  refine ⟨refusal_eq_noAssignments_iff, fun hempty => ?_, fun table hsome htable => ?_,
    OrderedMap.keys_overlay _ _, OrderedMap.get?_overlay _ _, assigned_eq_gathered_iff,
    assigned_eq_empty_iff⟩
  · rw [Builder.assigning_of_empty hempty] at hplan
    have hr : r = _ := Database.run_write call.plan s b w
    rw [hr, hplan]
    rfl
  · rw [Builder.assigning_of_nonempty hsome, htable] at hplan
    exact Database.sentOnce_write call.plan s b w hplan (isBlank_text _ _)

open WriteCall (mysqlSession)

/-- A builder that was given two assignments while caching, and one of the two columns after. -/
def assignedTwice : Builder :=
  let style : Style := ⟨mysqlSession.dialect, mysqlSession.rules⟩
  let cached := ((Builder.empty.startCache.set style "a" (.int 1)).set style "b" (.int 2)).stopCache
  cached.afterWrite.set style "b" (.int 3)

/-- An update has the live value in the place of the cached one, and an insert has no other. -/
theorem writes_assigned_overlaid :
    let update := update (some "t") none none
    let insert := insert (some "t")
    let style : Style := ⟨mysqlSession.dialect, mysqlSession.rules⟩
    let sent (call : AssigningCall) : Prop :=
      let r := (Database.write call.plan : Action (Database (Traced Scripted)) Script Nat).run
        (⟨mysqlSession, some assignedTwice⟩, ⟨.empty, default⟩)
      SentOnce (call.text style assignedTwice (call.assigned assignedTwice).entries "`t`")
        mysqlSession (⟨.empty, default⟩ : World Script) r.1 r.2.1.session
    update.text style assignedTwice (update.assigned assignedTwice).entries "`t`" =
        "UPDATE `t` SET `a` = 1, `b` = 3" ∧
      sent update ∧
      insert.text style assignedTwice (insert.assigned assignedTwice).entries "`t`" =
        "INSERT INTO `t` (`b`) VALUES (3)" ∧
      sent insert := by
  intro update insert style sent
  have hidle (sql : String) : PrefixSwap.apply mysqlSession.config.tablePrefix
      mysqlSession.config.swapPrefix sql = sql :=
    PrefixSwap.apply_eq_self (.inl rfl)
  have hsent (call : AssigningCall) (hsome : call.assigned assignedTwice ≠ .empty)
      (htable : (call.source assignedTwice).target style call.table? = .ok "`t`") : sent call := by
    obtain ⟨-, -, hsent, -⟩ := writes_assigned call mysqlSession assignedTwice
      (⟨.empty, default⟩ : World Script)
    have hswapped := hsent "`t`" hsome htable
    rwa [hidle] at hswapped
  exact ⟨by decide +kernel, hsent update (by decide +kernel) (by decide +kernel),
    by decide +kernel, hsent insert (by decide +kernel) (by decide +kernel)⟩

/-- The same assignment is given to an update and kept from an insert. -/
theorem writes_assigned_unmerged :
    let style : Style := ⟨mysqlSession.dialect, mysqlSession.rules⟩
    let b := (Builder.empty.startCache.set style "a" (.int 1)).stopCache.afterWrite
    let statements (call : AssigningCall) :=
      let r := (Database.write call.plan : Action (Database (Traced Scripted)) Script Nat).run
        (⟨mysqlSession, some b⟩, ⟨.empty, default⟩)
      (r.1.isOk, r.2.1.session.conn.events.filterMap BackendEvent.statement?)
    statements (update (some "t") none none) = (true, ["UPDATE `t` SET `a` = 1"]) ∧
      statements (insert (some "t")) = (false, []) ∧
      statements (replace (some "t")) = (false, []) :=
  ⟨by decide +kernel, by decide +kernel, by decide +kernel⟩

end AssigningCall

end SqlGateway
