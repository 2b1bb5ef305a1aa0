import SqlGateway.Proofs.Query.RefusedWrites

/-!
# What writes leave of the snapshot

A write that needs the conditions of the snapshot merges it whole, and clears what a write uses: the
table, the conditions, the order and the assignments. The select list, the joins, the groups, the
HAVING conditions and the aliases are of no use to a write, and are not cleared. So what the
snapshot has of these is live from then on, and a SELECT shows it after the snapshot was flushed.

Nothing is left of the snapshot exactly where there was nothing to merge: where each of these live
lists begins with what the snapshot has, without repetitions. A list with repetitions loses them.

Main definitions:

* `Clauses.SameUnwritten`: the clauses that no write uses are the same.
* `Clauses.Covers`: clauses under which others can be laid without a difference to these.
* `MergingCall`: the writes that merge the snapshot.

Main results:

* `MergingCall.flushCache_after`: what a call leaves when the snapshot is flushed.
* `MergingCall.leaves_merged`: that, and where it is what was there before.
-/

namespace SqlGateway

/-! ## Clauses -/

namespace Clauses

/-- A list under which another one can be laid without a difference. -/
def Hides {α : Type} [BEq α] (upper lower : List α) : Prop :=
  upper.Nodup ∧ lower.eraseDups <+: upper

theorem mergedLists_eq_upper_iff {α : Type} [BEq α] [LawfulBEq α] {upper lower : List α} :
    mergedLists upper lower = upper ↔ Hides upper lower :=
  eraseDups_append_eq_right_iff

/-- The clauses that no write uses are the same. -/
structure SameUnwritten (c d : Clauses) : Prop where
  select : c.select = d.select
  joins : c.joins = d.joins
  groups : c.groups = d.groups
  havings : c.havings = d.havings
  aliases : c.aliases = d.aliases

/-- Of the clauses that no write uses, all that the lower ones have is at the beginning already. -/
structure Covers (upper lower : Clauses) : Prop where
  select : Hides upper.select lower.select
  joins : Hides upper.joins lower.joins
  groups : Hides upper.groups lower.groups
  havings : Hides upper.havings lower.havings
  aliases : Hides upper.aliases lower.aliases

theorem sameUnwritten_mergedOver_iff {upper lower : Clauses} :
    (upper.mergedOver lower).SameUnwritten upper ↔ upper.Covers lower := by
  constructor
  · rintro ⟨hselect, hjoins, hgroups, hhavings, haliases⟩
    exact ⟨mergedLists_eq_upper_iff.1 hselect, mergedLists_eq_upper_iff.1 hjoins,
      mergedLists_eq_upper_iff.1 hgroups, mergedLists_eq_upper_iff.1 hhavings,
      mergedLists_eq_upper_iff.1 haliases⟩
  · rintro ⟨hselect, hjoins, hgroups, hhavings, haliases⟩
    exact ⟨mergedLists_eq_upper_iff.2 hselect, mergedLists_eq_upper_iff.2 hjoins,
      mergedLists_eq_upper_iff.2 hgroups, mergedLists_eq_upper_iff.2 hhavings,
      mergedLists_eq_upper_iff.2 haliases⟩

/-- What a write clears makes no difference to the other clauses. -/
theorem afterWrite_eq_iff {c d : Clauses} : c.afterWrite = d.afterWrite ↔ c.SameUnwritten d := by
  unfold afterWrite
  rw [Clauses.mk.injEq]
  constructor
  · rintro ⟨hselect, -, hjoins, -, -, hgroups, hhavings, -, -, haliases⟩
    exact ⟨hselect, hjoins, hgroups, hhavings, haliases⟩
  · rintro ⟨hselect, hjoins, hgroups, hhavings, haliases⟩
    exact ⟨hselect, rfl, hjoins, rfl, rfl, hgroups, hhavings, rfl, rfl, haliases⟩

theorem covers_afterWrite_iff {upper lower : Clauses} :
    upper.afterWrite.Covers lower.afterWrite ↔ upper.Covers lower :=
  ⟨fun h => ⟨h.select, h.joins, h.groups, h.havings, h.aliases⟩,
    fun h => ⟨h.select, h.joins, h.groups, h.havings, h.aliases⟩⟩

end Clauses

/-! ## Builders -/

namespace Builder

variable {b : Builder}

/-- A condition is used up by the write that it was added for, and flushed with the snapshot. -/
theorem flushCache_afterWrite_whereArgument (b : Builder) (condition? : Option String) :
    (b.whereArgument condition?).afterWrite.flushCache = b.afterWrite.flushCache := by
  unfold whereArgument
  split <;> rfl

theorem flushCache_afterWrite_merge_limitArgument (b : Builder) (limit? : Option Nat) :
    (b.limitArgument limit?).merge.afterWrite.flushCache = b.merge.afterWrite.flushCache := by
  unfold merge limitArgument
  dsimp only
  split <;> rfl

/-- Of a merge nothing but the live clauses is left when the snapshot is flushed. -/
theorem flushCache_afterWrite_merge (b : Builder) :
    b.merge.afterWrite.flushCache =
      { b.afterWrite.flushCache with live := b.merge.live.afterWrite } := by
  unfold merge
  split <;> rfl

/-- Merging keeps the clauses that no write uses exactly if there is nothing to merge, or if the
live ones cover the snapshot. -/
theorem sameUnwritten_merge_iff :
    b.merge.live.SameUnwritten b.live ↔ b.snapshot = .empty ∨ b.live.Covers b.snapshot := by
  unfold merge
  split
  · next hempty => exact iff_of_true ⟨rfl, rfl, rfl, rfl, rfl⟩ (.inl hempty)
  · next hsome => rw [Clauses.sameUnwritten_mergedOver_iff, or_iff_right hsome]

end Builder

/-! ## Plans -/

namespace Plan

/-- If the plan sends something, this is what it leaves when the snapshot is flushed. -/
def LeavesFlushed (left : Builder) (p : Plan) : Prop :=
  p.statements ≠ [] → p.after.flushCache = left

theorem leavesFlushed_orRefused {α : Type} {found : Except Refusal α} {left b : Builder}
    {next : α → Plan} (h : ∀ x, found = .ok x → (next x).LeavesFlushed left) :
    (orRefused found b next).LeavesFlushed left := by
  cases found with
  | ok x => exact h x rfl
  | error r => exact fun hsends => absurd rfl hsends

theorem leavesFlushed_sending {statements : List String} {left after : Builder}
    (h : after.flushCache = left) : (sending statements after).LeavesFlushed left :=
  fun _ => h

end Plan

/-! ## Calls -/

/-- The writes that merge the snapshot. -/
inductive MergingCall where
  | update (table? condition? : Option String) (limit? : Option Nat)
  | delete (call : DeleteCall)
  | updateBatch (table? : Option String) (rows? : Option (List Record)) (index? : Option String)

namespace MergingCall

def plan (call : MergingCall) (style : Style) (b : Builder) : Plan :=
  match call with
  | update table? condition? limit? => b.update style table? condition? limit?
  | delete call => call.plan style b
  | updateBatch table? rows? index? => b.updateBatch style table? rows? index?

/-- The builder whose snapshot is merged. A delete of several tables adds its condition before it
merges, and a builder that is caching has it in the snapshot then. -/
def merging (b : Builder) : MergingCall → Builder
  | delete (.several _ condition? _) => b.whereArgument condition?
  | _ => b

theorem flushCache_merging (b : Builder) (call : MergingCall) :
    (call.merging b).afterWrite.flushCache = b.afterWrite.flushCache := by
  rcases call with _ | (_ | ⟨_, condition?, _⟩) | _
  · rfl
  · rfl
  · exact b.flushCache_afterWrite_whereArgument condition?
  · rfl

/-- A condition is none of the clauses that no write uses. -/
theorem afterWrite_snapshot_merging (b : Builder) (call : MergingCall) :
    (call.merging b).snapshot.afterWrite = b.snapshot.afterWrite := by
  rcases call with _ | (_ | ⟨_, condition?, _⟩) | _
  · rfl
  · rfl
  · show (b.whereArgument condition?).snapshot.afterWrite = _
    unfold Builder.whereArgument
    split
    · unfold Builder.whereRaw Builder.addWhere Builder.add
      dsimp only
      split <;> rfl
    · rfl
  · rfl

/-- Where merging makes no difference to the clauses that no write uses. -/
theorem afterWrite_merge_merging_iff {b : Builder} {call : MergingCall} :
    (call.merging b).merge.live.afterWrite = b.live.afterWrite ↔
      (call.merging b).snapshot = .empty ∨ b.live.Covers b.snapshot := by
  have hlive : (call.merging b).live.afterWrite = b.live.afterWrite :=
    congrArg Builder.live (call.flushCache_merging b)
  rw [← hlive, Clauses.afterWrite_eq_iff, Builder.sameUnwritten_merge_iff,
    ← Clauses.covers_afterWrite_iff, hlive, call.afterWrite_snapshot_merging b,
    Clauses.covers_afterWrite_iff]

/-- A call that sends something leaves what merging has made live, less what a write uses. All else
is as if the call had not merged. -/
theorem flushCache_after {style : Style} {b : Builder} {call : MergingCall}
    (hsends : (call.plan style b).statements ≠ []) :
    (call.plan style b).after.flushCache =
      { b.afterWrite.flushCache with live := (call.merging b).merge.live.afterWrite } := by
  rw [← call.flushCache_merging b, ← Builder.flushCache_afterWrite_merge]
  -- a refusal sends nothing, so it is enough to look at the plans that are not refused
  suffices (call.plan style b).LeavesFlushed (call.merging b).merge.afterWrite.flushCache from
    this hsends
  cases call with
  | update table? condition? limit? =>
    refine Plan.leavesFlushed_orRefused fun _ _ => Plan.leavesFlushed_orRefused fun _ _ => ?_
    exact Plan.leavesFlushed_sending (b.merge.flushCache_afterWrite_whereArgument condition?)
  | delete call =>
    cases call with
    | single table? condition? =>
      refine Plan.leavesFlushed_orRefused fun _ _ => Plan.leavesFlushed_orRefused fun _ _ => ?_
      exact Plan.leavesFlushed_sending (b.merge.flushCache_afterWrite_whereArgument condition?)
    | several tables condition? limit? =>
      cases tables with
      | nil => exact fun hsends => absurd rfl hsends
      | cons table tables =>
        exact fun _ =>
          (b.whereArgument condition?).flushCache_afterWrite_merge_limitArgument limit?
  | updateBatch table? rows? index? =>
    refine Plan.leavesFlushed_orRefused fun c hqueued => ?_
    obtain ⟨batch, batchIndex, rfl⟩ := Builder.eq_of_updatesArgument hqueued
    exact Plan.leavesFlushed_orRefused fun _ _ => Plan.leavesFlushed_orRefused fun _ _ =>
      Plan.leavesFlushed_orRefused fun _ _ => Plan.leavesFlushed_sending rfl

/-! ### Runs -/

variable {C E : Type} [Connection C] [Backend C E]

/-- **What is left of the snapshot.** Whether its statements are accepted or not, a call that has
any leaves live what merging has made of the clauses that no write uses; when the snapshot is
flushed, a SELECT shows these, and all else is as if the call had not merged. They are what was live
before exactly if nothing was merged, or if the live clauses cover the snapshot. -/
theorem leaves_merged (call : MergingCall) (s : Session C) (b : Builder) (w : World E)
    (hsends : (call.plan ⟨s.dialect, s.rules⟩ b).statements ≠ []) :
    let r := (Database.write call.plan : Action (Database C) E Nat).run (⟨s, some b⟩, w)
    let merging := call.merging b
    ∃ left, r.2.1.builder = some left ∧
      left.flushCache =
        { b.afterWrite.flushCache with live := merging.merge.live.afterWrite } ∧
      left.distinct = b.distinct ∧
      (left.live.SameUnwritten b.live ↔
        merging.snapshot = .empty ∨ b.live.Covers b.snapshot) ∧
      (left.flushCache = b.afterWrite.flushCache ↔
        merging.snapshot = .empty ∨ b.live.Covers b.snapshot) := by
  intro r merging
  let left := (call.plan ⟨s.dialect, s.rules⟩ b).after
  have hbuilder : r.2.1.builder = some left := by
    have hr : r = _ := Database.run_write call.plan s b w
    rw [hr]
  have hflushed : left.flushCache = _ := flushCache_after hsends
  -- flushing touches neither the live clauses nor the flags
  have hlive : left.live = merging.merge.live.afterWrite := congrArg Builder.live hflushed
  have hdistinct : left.flushCache.distinct = b.distinct := by rw [hflushed]; rfl
  refine ⟨left, hbuilder, hflushed, hdistinct, ?_, ?_⟩
  · rw [← Clauses.afterWrite_eq_iff, hlive, ← afterWrite_merge_merging_iff]
    rfl
  · rw [hflushed, ← afterWrite_merge_merging_iff]
    exact ⟨congrArg Builder.live, fun h => by rw [h]; rfl⟩

open WriteCall (mysqlSession)

def mysqlStyle : Style :=
  ⟨mysqlSession.dialect, mysqlSession.rules⟩

/-- A builder that has selected a column while caching. -/
def cachedColumn : Builder :=
  (Builder.empty.startCache.select "a" none).stopCache

/-- The column is live and in the snapshot, so nothing of the snapshot is left. -/
theorem leaves_merged_covered :
    let call := update (some "t") none none
    let b := cachedColumn.set mysqlStyle "x" (.int 1)
    (call.plan mysqlStyle b).statements = ["UPDATE `t` SET `x` = 1"] ∧
      ∃ left, ((Database.write call.plan : Action (Database (Traced Scripted)) Script Nat).run
          (⟨mysqlSession, some b⟩, ⟨.empty, default⟩)).2.1.builder = some left ∧
        left.flushCache = b.afterWrite.flushCache := by
  intro call b
  have hsent : (call.plan mysqlStyle b).statements = ["UPDATE `t` SET `x` = 1"] := by
    decide +kernel
  have hsends : (call.plan mysqlStyle b).statements ≠ [] := by
    rw [hsent]
    exact List.cons_ne_nil _ _
  have hcovers : b.live.Covers b.snapshot := by
    refine ⟨?_, ?_, ?_, ?_, ?_⟩ <;> exact ⟨by decide +kernel, by decide +kernel⟩
  obtain ⟨left, hleft, -, -, -, hsame⟩ := leaves_merged call mysqlSession b
    (⟨.empty, default⟩ : World Script) hsends
  exact ⟨hsent, left, hleft, hsame.2 (.inr hcovers)⟩

/-- A read has used the live column up. The update brings it back from the snapshot, and a SELECT
shows it when the snapshot was flushed. -/
theorem leaves_merged_leak :
    let call := update (some "t") none none
    let b := (cachedColumn.get mysqlStyle (some "t") none none).after.set mysqlStyle "x" (.int 1)
    let r := (Database.write call.plan : Action (Database (Traced Scripted)) Script Nat).run
      (⟨mysqlSession, some b⟩, ⟨.empty, default⟩)
    (call.plan mysqlStyle b).statements = ["UPDATE `t` SET `x` = 1"] ∧
      b.live.select = [] ∧
      (r.2.1.builder.map fun left => left.live.select) = some [⟨"a", none⟩] ∧
      (b.flushCache.get mysqlStyle (some "t") none none).statement = "SELECT * FROM `t`" ∧
      (r.2.1.builder.map fun left =>
          (left.flushCache.get mysqlStyle (some "t") none none).statement) =
        some "SELECT `a` FROM `t`" :=
  ⟨by decide +kernel, by decide +kernel, by decide +kernel, by decide +kernel, by decide +kernel⟩

end MergingCall

end SqlGateway
