import SqlGateway.Proofs.Backend.Traced
import SqlGateway.Proofs.Query.DeleteGuard
import SqlGateway.Proofs.Query.Merging

/-!
# Writes that are refused

A write that lacks its table, its assignments or its conditions is refused before anything is sent.
What it has put into the builder by then stays there: the snapshot laid under the clauses, the
assignments of a record, the rows of a batch. Clauses and assignments do no harm, because putting
them in a second time changes nothing, so that the call can be made again with what it lacked. Rows
are queued, and are queued twice when a call is made again with them.

Main definitions:

* `WriteCall`: the writes of a builder that are refused as a whole.
* `WriteCall.kept`: what a refused call leaves of the builder.
* `WriteCall.Retry`: a call made again for one that was refused.

Main results:

* `Builder.setRecord_setRecord`: a record that is put in twice.
* `WriteCall.plan_eq_refused`: a refused call has no plan, and leaves `kept`.
* `WriteCall.refused_keeps`: a refused call, and the call made again.
-/

namespace SqlGateway

/-! ## Putting in twice -/

namespace Builder

/-- The assignments of a record, as columns with literals. -/
def assignmentsOf (style : Style) (b : Builder) (record : Record) : List (String × String) :=
  record.entries.map fun (key, value) =>
    (b.protect style false (some true) true key, style.dialect.literal value)

/-- The assignments of a record go in one after the other; the aliases stay as they are. -/
theorem setRecord_eq (style : Style) (b : Builder) (record : Record) :
    b.setRecord style record = b.add fun c =>
      { c with assignments := c.assignments.insertAll (b.assignmentsOf style record) } := by
  unfold setRecord assignmentsOf
  generalize record.entries = entries
  induction entries generalizing b with
  | nil => cases b; unfold add; dsimp only; split <;> rfl
  | cons entry entries ih =>
    rw [List.foldl_cons, ih]
    unfold set setRaw addAssignment add
    dsimp only
    split <;> rfl

theorem add_add {f : Clauses → Clauses} (h : ∀ c, f (f c) = f c) (b : Builder) :
    (b.add f).add f = b.add f := by
  unfold add
  dsimp only
  split <;> simp only [h]

/-- Putting a record in again changes nothing. -/
theorem setRecord_setRecord (style : Style) (b : Builder) (record : Record) :
    (b.setRecord style record).setRecord style record = b.setRecord style record := by
  -- columns are protected by the aliases, which assignments do not touch
  have hsame : (b.setRecord style record).assignmentsOf style record =
      b.assignmentsOf style record := by
    rw [setRecord_eq]
    unfold assignmentsOf protect aliases add
    dsimp only
    split <;> rfl
  rw [setRecord_eq style (b.setRecord style record), hsame, setRecord_eq]
  refine add_add (fun c => ?_) b
  simp only [OrderedMap.insertAll_insertAll]

end Builder

/-! ## Queued rows -/

namespace Builder

/-- The builders take statements to the same extent, and have the same flags. -/
structure SameExtent (b c : Builder) : Prop where
  limit : b.limit = c.limit
  offset : b.offset = c.offset
  distinct : b.distinct = c.distinct
  caching : b.caching = c.caching

variable {style : Style} {b c : Builder}

/-- Queueing rows for an insert touches nothing else. -/
theorem eq_of_queueInserts {rows : List Record} (h : b.queueInserts style rows = .ok c) :
    ∃ batch, c = { b with batch } := by
  unfold queueInserts at h
  split at h
  · cases h
    exact ⟨b.batch, rfl⟩
  · dsimp only at h
    split at h
    · cases h
      exact ⟨_, rfl⟩
    · cases h

/-- Queueing rows for an update touches nothing else. -/
theorem eq_of_updatesArgument {rows? : Option (List Record)} {index? : Option String}
    (h : b.updatesArgument style rows? index? = .ok c) :
    ∃ batch batchIndex, c = { b with batch, batchIndex } := by
  cases rows? with
  | none =>
    cases h
    exact ⟨b.batch, b.batchIndex, rfl⟩
  | some rows =>
    replace h : b.queueUpdates style rows (index?.getD "") = .ok c := h
    unfold queueUpdates at h
    split at h
    · cases h
    · split at h
      · cases h
        exact ⟨_, _, rfl⟩
      · cases h

end Builder

/-! ## Plans that are refused -/

namespace Plan

/-- If the plan is refused, nothing is sent and this builder is left. -/
def RefusesTo (b : Builder) (p : Plan) : Prop :=
  ∀ r, p.refusal = some r → p = refused r b

theorem refusesTo_refused (r : Refusal) (b : Builder) : (refused r b).RefusesTo b := by
  intro r' h
  rw [Option.some.inj h]

theorem refusesTo_sending {b after : Builder} {statements : List String} :
    (sending statements after).RefusesTo b :=
  nofun

/-- Where each step refuses to the builder, so does the plan. -/
theorem refusesTo_orRefused {α : Type} {found : Except Refusal α} {b : Builder} {next : α → Plan}
    (h : ∀ x, (next x).RefusesTo b) : (orRefused found b next).RefusesTo b := by
  cases found with
  | ok x => exact h x
  | error r => exact refusesTo_refused r b

end Plan

namespace Builder

open Plan (refusesTo_orRefused refusesTo_sending)

variable {style : Style} {b : Builder} {table? : Option String}

theorem refusesTo_insertBy {text : InsertStatement → String} :
    (b.insertBy text style table?).RefusesTo b :=
  refusesTo_orRefused fun _ => refusesTo_orRefused fun _ => refusesTo_sending

theorem refusesTo_removeAllBy {text : String → String} :
    (b.removeAllBy text style table?).RefusesTo b :=
  refusesTo_orRefused fun _ => refusesTo_sending

theorem refusesTo_update {condition? : Option String} {limit? : Option Nat} :
    (b.update style table? condition? limit?).RefusesTo b.merge :=
  refusesTo_orRefused fun _ => refusesTo_orRefused fun _ => refusesTo_sending

/-- The condition of the call is not left behind, since a call that has one is not refused for want
of conditions. -/
theorem refusesTo_delete {condition? : Option String} :
    (b.delete style table? condition?).RefusesTo b.merge := by
  refine refusesTo_orRefused fun table => ?_
  dsimp only
  cases hcondition : Text.nonBlank? condition? with
  | none =>
    have hsame : b.merge.whereArgument condition? = b.merge := by
      rw [whereArgument, hcondition]
    rw [hsame]
    exact refusesTo_orRefused fun _ => refusesTo_sending
  | some condition =>
    have hwheres : (b.merge.whereArgument condition?).live.wheres ≠ [] := by
      rw [whereArgument, hcondition]
      show b.merge.live.wheres ++ _ ≠ []
      simp
    have hok : ∃ text,
        (b.merge.whereArgument condition?).deleteStatement style table = .ok text := by
      refine ⟨_, if_neg ?_⟩
      rw [List.isEmpty_eq_false_iff.2 hwheres, Bool.false_and]
      exact Bool.false_ne_true
    obtain ⟨text, htext⟩ := hok
    rw [htext]
    exact refusesTo_sending

end Builder

/-! ## Calls -/

/-- The writes of a builder that are refused as a whole. -/
inductive WriteCall where
  | insert (table? : Option String)
  | insertRecord (table? : Option String) (record : Record)
  | replace (table? : Option String)
  | update (table? condition? : Option String) (limit? : Option Nat)
  | delete (table? condition? : Option String)
  | emptyTable (table? : Option String)
  | truncate (table? : Option String)
  | insertBatch (table? : Option String) (rows? : Option (List Record))
  | updateBatch (table? : Option String) (rows? : Option (List Record)) (index? : Option String)

namespace WriteCall

def plan (style : Style) (b : Builder) : WriteCall → Plan
  | insert table? => b.insert style table?
  | insertRecord table? record => b.insertRecord style table? record
  | replace table? => b.replace style table?
  | update table? condition? limit? => b.update style table? condition? limit?
  | delete table? condition? => b.delete style table? condition?
  | emptyTable table? => b.emptyTable style table?
  | truncate table? => b.truncate style table?
  | insertBatch table? rows? => b.insertBatch style table? rows?
  | updateBatch table? rows? index? => b.updateBatch style table? rows? index?

/-- The builder with the rows that the call brings along, or why there is none. -/
def queued (style : Style) (b : Builder) : WriteCall → Except Refusal Builder
  | insertBatch _ rows? => b.queueInserts style (rows?.getD [])
  | updateBatch _ rows? index? => b.merge.updatesArgument style rows? index?
  | _ => .ok b

/-- What a refused call leaves of the builder. Rows that are refused themselves are not queued. -/
def kept (style : Style) (b : Builder) (call : WriteCall) : Builder :=
  match call with
  | insert _ | replace _ | emptyTable _ | truncate _ => b
  | insertRecord _ record => b.setRecord style record
  | update .. | delete .. => b.merge
  | insertBatch .. => (call.queued style b).toOption.getD b
  | updateBatch .. => (call.queued style b).toOption.getD b.merge

variable {style : Style} {b : Builder}

/-- A refused call sends nothing, whatever it is refused for, and leaves what it has put in. -/
theorem plan_eq_refused {call : WriteCall} {r : Refusal}
    (h : (call.plan style b).refusal = some r) :
    call.plan style b = .refused r (call.kept style b) := by
  have hrefuses : (call.plan style b).RefusesTo (call.kept style b) := by
    -- each call puts in what it brings before its first check, and nothing after that
    cases call with
    | insert table? | replace table? => exact Builder.refusesTo_insertBy
    | insertRecord table? record => exact Builder.refusesTo_insertBy
    | update table? condition? limit? => exact Builder.refusesTo_update
    | delete table? condition? => exact Builder.refusesTo_delete
    | emptyTable table? | truncate table? => exact Builder.refusesTo_removeAllBy
    | insertBatch table? rows? =>
      show (b.insertBatch style table? rows?).RefusesTo
        ((b.queueInserts style (rows?.getD [])).toOption.getD b)
      unfold Builder.insertBatch
      cases b.queueInserts style (rows?.getD []) with
      | error r => exact Plan.refusesTo_refused r b
      | ok c =>
        exact Plan.refusesTo_orRefused fun _ => Plan.refusesTo_orRefused fun _ =>
          Plan.refusesTo_sending
    | updateBatch table? rows? index? =>
      show (b.updateBatch style table? rows? index?).RefusesTo
        ((b.merge.updatesArgument style rows? index?).toOption.getD b.merge)
      unfold Builder.updateBatch
      dsimp only
      cases b.merge.updatesArgument style rows? index? with
      | error r => exact Plan.refusesTo_refused r b.merge
      | ok c =>
        exact Plan.refusesTo_orRefused fun _ => Plan.refusesTo_orRefused fun _ =>
          Plan.refusesTo_orRefused fun _ => Plan.refusesTo_sending
  exact hrefuses r h

/-- What a refused call leaves has the extent and the flags from before. -/
theorem sameExtent_kept (call : WriteCall) : (call.kept style b).SameExtent b := by
  have hmerge : b.merge.SameExtent b := by
    unfold Builder.merge
    split <;> exact ⟨rfl, rfl, rfl, rfl⟩
  cases call with
  | insert | replace | emptyTable | truncate => exact ⟨rfl, rfl, rfl, rfl⟩
  | insertRecord table? record =>
    show (b.setRecord style record).SameExtent b
    rw [Builder.setRecord_eq]
    exact ⟨rfl, rfl, rfl, rfl⟩
  | update | delete => exact hmerge
  | insertBatch table? rows? =>
    cases hqueued : (insertBatch table? rows?).queued style b with
    | error r =>
      rw [kept, hqueued]
      exact ⟨rfl, rfl, rfl, rfl⟩
    | ok c =>
      rw [kept, hqueued]
      obtain ⟨batch, rfl⟩ := Builder.eq_of_queueInserts hqueued
      exact ⟨rfl, rfl, rfl, rfl⟩
  | updateBatch table? rows? index? =>
    cases hqueued : (updateBatch table? rows? index?).queued style b with
    | error r =>
      rw [kept, hqueued]
      exact hmerge
    | ok c =>
      rw [kept, hqueued]
      obtain ⟨batch, batchIndex, rfl⟩ := Builder.eq_of_updatesArgument hqueued
      exact ⟨hmerge.limit, hmerge.offset, hmerge.distinct, hmerge.caching⟩

/-! ### Calls made again -/

/-- `Retry style b call again whole`: after `call` was refused on the builder `b`, `again` is the
same call with other arguments, and stands for `whole` made at first. The record of an insert has to
be the same one. Rows that were queued are left out, and stand for themselves. -/
inductive Retry (style : Style) (b : Builder) : WriteCall → WriteCall → WriteCall → Prop
  | insert (table? table'? : Option String) :
    Retry style b (insert table?) (insert table'?) (insert table'?)
  | insertRecord (table? table'? : Option String) (record : Record) :
    Retry style b (insertRecord table? record) (insertRecord table'? record)
      (insertRecord table'? record)
  | replace (table? table'? : Option String) :
    Retry style b (replace table?) (replace table'?) (replace table'?)
  | update (table? condition? table'? condition'? : Option String) (limit? limit'? : Option Nat) :
    Retry style b (update table? condition? limit?) (update table'? condition'? limit'?)
      (update table'? condition'? limit'?)
  | delete (table? condition? table'? condition'? : Option String) :
    Retry style b (delete table? condition?) (delete table'? condition'?)
      (delete table'? condition'?)
  | emptyTable (table? table'? : Option String) :
    Retry style b (emptyTable table?) (emptyTable table'?) (emptyTable table'?)
  | truncate (table? table'? : Option String) :
    Retry style b (truncate table?) (truncate table'?) (truncate table'?)
  | insertQueued {table? : Option String} {rows? : Option (List Record)} {c : Builder}
      (hqueued : (insertBatch table? rows?).queued style b = .ok c) (table'? : Option String) :
    Retry style b (insertBatch table? rows?) (insertBatch table'? none) (insertBatch table'? rows?)
  | insertUnqueued {table? : Option String} {rows? : Option (List Record)} {r : Refusal}
      (hrefused : (insertBatch table? rows?).queued style b = .error r)
      (table'? : Option String) (rows'? : Option (List Record)) :
    Retry style b (insertBatch table? rows?) (insertBatch table'? rows'?)
      (insertBatch table'? rows'?)
  | updateQueued {table? index? : Option String} {rows? : Option (List Record)} {c : Builder}
      (hqueued : (updateBatch table? rows? index?).queued style b = .ok c)
      (table'? index'? : Option String) :
    Retry style b (updateBatch table? rows? index?) (updateBatch table'? none index'?)
      (updateBatch table'? rows? index?)
  | updateUnqueued {table? index? : Option String} {rows? : Option (List Record)} {r : Refusal}
      (hrefused : (updateBatch table? rows? index?).queued style b = .error r)
      (table'? index'? : Option String) (rows'? : Option (List Record)) :
    Retry style b (updateBatch table? rows? index?) (updateBatch table'? rows'? index'?)
      (updateBatch table'? rows'? index'?)

/-- A call made again has the plan of the call that it stands for. -/
theorem Retry.plan_eq {call again whole : WriteCall} (h : Retry style b call again whole) :
    again.plan style (call.kept style b) = whole.plan style b := by
  cases h with
  | insert | replace | emptyTable | truncate => rfl
  | insertRecord table? table'? record =>
    show ((b.setRecord style record).setRecord style record).insert style table'? = _
    rw [Builder.setRecord_setRecord]
    rfl
  | update table? condition? table'? condition'? limit? limit'? =>
    show b.merge.update style table'? condition'? limit'? =
      b.update style table'? condition'? limit'?
    unfold Builder.update
    rw [Builder.merge_merge]
  | delete table? condition? table'? condition'? =>
    show b.merge.delete style table'? condition'? = b.delete style table'? condition'?
    unfold Builder.delete
    rw [Builder.merge_merge]
  | @insertQueued table? rows? c hqueued table'? =>
    have hkept : (insertBatch table? rows?).kept style b = c := by
      rw [kept, hqueued]
      rfl
    have hrows : b.queueInserts style (rows?.getD []) = .ok c := hqueued
    rw [hkept]
    show c.insertBatch style table'? none = b.insertBatch style table'? rows?
    unfold Builder.insertBatch
    rw [hrows]
    rfl
  | @insertUnqueued table? rows? r hrefused table'? rows'? =>
    have hkept : (insertBatch table? rows?).kept style b = b := by
      rw [kept, hrefused]
      rfl
    rw [hkept]
  | @updateQueued table? index? rows? c hqueued table'? index'? =>
    have hkept : (updateBatch table? rows? index?).kept style b = c := by
      rw [kept, hqueued]
      rfl
    have hrows : b.merge.updatesArgument style rows? index? = .ok c := hqueued
    -- the snapshot lies under the clauses already
    have hmerge : c.merge = c := by
      obtain ⟨batch, batchIndex, rfl⟩ := Builder.eq_of_updatesArgument hrows
      exact Builder.merge_eq_self rfl b.snapshot_merge
    rw [hkept]
    show c.updateBatch style table'? none index'? = b.updateBatch style table'? rows? index?
    unfold Builder.updateBatch
    rw [hmerge]
    dsimp only
    rw [hrows]
    rfl
  | @updateUnqueued table? index? rows? r hrefused table'? index'? rows'? =>
    have hkept : (updateBatch table? rows? index?).kept style b = b.merge := by
      rw [kept, hrefused]
      rfl
    rw [hkept]
    show b.merge.updateBatch style table'? rows'? index'? =
      b.updateBatch style table'? rows'? index'?
    unfold Builder.updateBatch
    rw [Builder.merge_merge]

/-! ### Runs -/

variable {C E : Type} [Connection C] [Backend C E]

/-- Makes the call. The result is the number of rows that it changes. -/
def perform (call : WriteCall) : Action (Database C) E Nat :=
  Database.write fun style b => call.plan style b

/-- A call made again runs as the call that it stands for would have. -/
theorem Retry.run_eq {call again whole : WriteCall} {s : Session C} {b : Builder}
    (h : Retry ⟨s.dialect, s.rules⟩ b call again whole) (w : World E) :
    (again.perform : Action (Database C) E Nat).run
        (⟨s, some (call.kept ⟨s.dialect, s.rules⟩ b)⟩, w) =
      (whole.perform : Action (Database C) E Nat).run (⟨s, some b⟩, w) := by
  unfold perform
  rw [Database.run_write, Database.run_write, h.plan_eq]

/-- **Refused writes.** A call that is refused sends nothing and answers with an error of use; of
the session nothing changes, and of the builder nothing but what the call has put in, neither its
extent nor its flags. Made again with what it lacked, the call does all that it would have done at
first. -/
theorem refused_keeps (call : WriteCall) (s : Session C) (b : Builder) (w : World E) {r : Refusal}
    (hrefused : (call.plan ⟨s.dialect, s.rules⟩ b).refusal = some r) :
    let left := call.kept ⟨s.dialect, s.rules⟩ b
    (call.perform : Action (Database C) E Nat).run (⟨s, some b⟩, w) =
        (.error (s.upgrade r.error), ⟨s, some left⟩, w) ∧
      (s.upgrade r.error).isUsage = true ∧
      left.SameExtent b ∧
      ∀ again whole, Retry ⟨s.dialect, s.rules⟩ b call again whole →
        (again.perform : Action (Database C) E Nat).run (⟨s, some left⟩, w) =
          (whole.perform : Action (Database C) E Nat).run (⟨s, some b⟩, w) := by
  intro left
  refine ⟨?_, DeleteCall.isUsage_upgrade s r, call.sameExtent_kept, fun again whole hretry =>
    hretry.run_eq w⟩
  unfold perform
  rw [Database.run_write, plan_eq_refused hrefused]
  rfl

def mysqlSession : Session (Traced Scripted) :=
  .create (.ofKind "mock") (Traced.untouched (Scripted.ofDialect .mysql))

def rowOfOne : Record :=
  .ofList [("id", .int 1), ("name", .text "a")]

/-- A builder with a condition in its snapshot. -/
def cachedCondition : Builder :=
  (Builder.empty.startCache.whereRaw .and "age > 1").stopCache

/-- The rows and their index column are there when the table is given. -/
theorem refused_keeps_updateBatch :
    let call := updateBatch none (some [rowOfOne]) (some "id")
    let again := updateBatch (some "t") none none
    let whole := updateBatch (some "t") (some [rowOfOne]) (some "id")
    let style : Style := ⟨mysqlSession.dialect, mysqlSession.rules⟩
    let w : World Script := ⟨.empty, default⟩
    (call.plan style cachedCondition).refusal = some .noTable ∧
      Retry style cachedCondition call again whole ∧
      (whole.plan style cachedCondition).statements =
        ["UPDATE `t` SET `name` = CASE WHEN `id` = 1 THEN 'a' ELSE `name` END " ++
          "WHERE age > 1 AND `id` IN (1)"] ∧
      (again.perform : Action (Database (Traced Scripted)) Script Nat).run
          ((call.perform : Action (Database (Traced Scripted)) Script Nat).run
            (⟨mysqlSession, some cachedCondition⟩, w)).2 =
        (whole.perform : Action (Database (Traced Scripted)) Script Nat).run
          (⟨mysqlSession, some cachedCondition⟩, w) := by
  intro call again whole style w
  have hrefused : (call.plan style cachedCondition).refusal = some .noTable := by decide +kernel
  have hretry : Retry style cachedCondition call again whole := .updateQueued rfl _ _
  obtain ⟨hrun, -, -, hagain⟩ := refused_keeps call mysqlSession cachedCondition w hrefused
  refine ⟨hrefused, hretry, ?_, ?_⟩
  · decide +kernel
  · rw [hrun]
    exact hagain again whole hretry

/-- The rows of a refused call stay queued, and are sent twice when they are given again. -/
theorem refused_insertBatch_doubles :
    let call := insertBatch none (some [rowOfOne])
    let again := insertBatch (some "t") (some [rowOfOne])
    let start : Database (Traced Scripted) × World Script :=
      (⟨mysqlSession, some .empty⟩, ⟨.empty, default⟩)
    let refused := (call.perform : Action (Database (Traced Scripted)) Script Nat).run start
    let statements (d : Database (Traced Scripted) × World Script) :=
      (again.perform.run d).2.1.session.conn.events.filterMap BackendEvent.statement?
    refused.1 = .error Refusal.noTable.error ∧
      refused.2.1.builder ≠ some .empty ∧
      statements start = ["INSERT INTO `t` (`id`, `name`) VALUES (1, 'a')"] ∧
      statements refused.2 = ["INSERT INTO `t` (`id`, `name`) VALUES (1, 'a'), (1, 'a')"] :=
  ⟨rfl, by decide +kernel, by decide +kernel, by decide +kernel⟩

end WriteCall

end SqlGateway
