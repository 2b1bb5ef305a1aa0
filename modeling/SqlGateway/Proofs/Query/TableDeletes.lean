import SqlGateway.Backend.Scripted
import SqlGateway.Proofs.Query.Merging
import SqlGateway.Proofs.Query.SharedConditions
import SqlGateway.Proofs.Session.Counting

/-!
# Deletes from several tables

One call deletes from several tables what meets the same conditions. Every table has a delete of its
own, which merges the snapshot again into what the one before has left, so that the conditions stay
the same only because merging twice is merging once. The deletes go out in the order of the tables
until one is rejected. Nothing of what a write uses is left in any case.

Main definitions:

* `Builder.deletesInTurn`: the deletes as they are made, each one after a merge of its own.
* `Builder.UsedUp`: nothing is left of what a write uses.
* `Builder.tableDelete`: the delete of one of the tables.

Main results:

* `Builder.deleteTables_eq_inTurn`: one merge does for all tables.
* `Builder.deleteTables_eq`: what the call sends, or why it is refused.
* `Builder.deleteTables_ends`: what is sent, and how it ends.
-/

namespace SqlGateway

/-! ## Lists without a refusal, or of one -/

theorem upToRefusal_map_ok {α β : Type} (f : α → β) (xs : List α) :
    upToRefusal (xs.map fun x => .ok (f x)) = (xs.map f, none) := by
  induction xs with
  | nil => rfl
  | cons x xs ih => rw [List.map_cons, upToRefusal, ih, List.map_cons]

namespace Builder

variable {style : Style} {b : Builder} {tables : List String} {condition? : Option String}
  {limit? : Option Nat}

/-! ## One delete after the other -/

/-- The deletes of tables as each one is made: the snapshot is merged again into what the one before
has left. With them the refusal that ends them, and the builder that is left. -/
def deletesInTurn (style : Style) (b : Builder) :
    List String → List String × Option Refusal × Builder
  | [] => ([], none, b)
  | table :: tables =>
    let b := b.merge
    match b.target style (some table) >>= b.deleteStatement style with
    | .error r => ([], some r, b)
    | .ok text =>
      let (texts, refusal?, left) := deletesInTurn style b tables
      (text :: texts, refusal?, left)

/-- After the first merge the others change nothing. -/
theorem deletesInTurn_merge (style : Style) (b : Builder) (tables : List String) :
    b.merge.deletesInTurn style tables =
      ((b.merge.deletesOf style tables).1, (b.merge.deletesOf style tables).2, b.merge) := by
  induction tables with
  | nil => rfl
  | cons table tables ih =>
    rw [deletesInTurn, deletesOf, merge_merge]
    dsimp only
    cases b.merge.target style (some table) >>= b.merge.deleteStatement style with
    | error r => rfl
    | ok text => rw [ih]

/-- A call for several tables plans what comes of the deletes one after the other. -/
theorem deleteTables_eq_inTurn (style : Style) (b : Builder) (tables : List String)
    (condition? : Option String) (limit? : Option Nat) :
    let made := ((b.whereArgument condition?).limitArgument limit?).deletesInTurn style tables
    b.deleteTables style tables condition? limit? = ⟨made.1, made.2.1, made.2.2.afterWrite⟩ := by
  intro made
  cases tables with
  | nil => rfl
  | cons table tables =>
    -- the first delete merges, so the builder may as well be merged before it
    have hfirst (c : Builder) : c.deletesInTurn style (table :: tables) =
        c.merge.deletesInTurn style (table :: tables) := by
      rw [deletesInTurn, deletesInTurn, merge_merge]
    have hmade : made = _ := (hfirst _).trans (deletesInTurn_merge style _ _)
    rw [hmade]
    rfl

/-! ## What is left -/

/-- Nothing is left of what a write uses. -/
structure UsedUp (b : Builder) : Prop where
  assignments : b.live.assignments = .empty
  tables : b.live.tables = []
  wheres : b.live.wheres = []
  likes : b.live.likes = []
  orders : b.live.orders = []
  limit : b.limit = none
  offset : b.offset = none
  batch : b.batch = []
  batchIndex : b.batchIndex = none

theorem usedUp_afterWrite (b : Builder) : b.afterWrite.UsedUp where
  assignments := rfl
  tables := rfl
  wheres := rfl
  likes := rfl
  orders := rfl
  limit := rfl
  offset := rfl
  batch := rfl
  batchIndex := rfl

theorem usedUp_deleteTables (style : Style) (b : Builder) (tables : List String)
    (condition? : Option String) (limit? : Option Nat) :
    (b.deleteTables style tables condition? limit?).after.UsedUp :=
  usedUp_afterWrite _

/-! ## What is sent -/

/-- The clauses by which a call for several tables deletes: the live ones with the condition of the
call, over the snapshot. -/
def deleteClauses (b : Builder) (condition? : Option String) : Clauses :=
  (b.whereArgument condition?).merge.live

/-- The delete of one of several tables. Only the table is its own. -/
def tableDelete (style : Style) (b : Builder) (condition? : Option String) (limit? : Option Nat)
    (table : String) : DeleteStatement where
  table := b.table style (Text.trim table)
  conditions := Fragment.render (b.deleteClauses condition?).wheres
  likes := Fragment.render (b.deleteClauses condition?).likes
  limit := limit? <|> b.limit

theorem aliases_whereArgument (b : Builder) (condition? : Option String) :
    (b.whereArgument condition?).aliases = b.aliases := by
  unfold whereArgument
  split
  · unfold whereRaw addWhere add aliases
    dsimp only
    split <;> rfl
  · rfl

theorem merge_limitArgument (b : Builder) (limit? : Option Nat) :
    (b.limitArgument limit?).merge = b.merge.limitArgument limit? := by
  unfold merge limitArgument
  split <;> rfl

/-- A name that is not blank always names a table. -/
theorem target_of_nonBlank {table : String} (h : Text.isBlank table = false) :
    b.target style (some table) = .ok (b.table style (Text.trim table)) := by
  have hsome : Text.nonBlank? (some table) = some table := by
    unfold Text.nonBlank?
    rw [Option.filter_some, h]
    rfl
  unfold target
  rw [hsome]

/-- The delete of a table, unless there is no condition at all, live, in the snapshot or brought by
the call. -/
theorem deleteStatement_several (style : Style) (b : Builder) {table : String}
    (h : Text.isBlank table = false) (tables : List String) (condition? : Option String)
    (limit? : Option Nat) :
    let compiled := (DeleteCall.several tables condition? limit?).compiled b
    (compiled.target style (some table) >>= compiled.deleteStatement style) =
      if b.gathered condition? = [] then .error .noDeleteCondition
      else .ok (style.dialect.deleteText (b.tableDelete style condition? limit? table)) := by
  intro compiled
  have hnone : compiled.live.conditionTexts = [] ↔ b.gathered condition? = [] := by
    rw [List.eq_nil_iff_forall_not_mem, List.eq_nil_iff_forall_not_mem]
    exact forall_congr' fun _ => not_congr DeleteCall.mem_conditionTexts_compiled
  have hlive : compiled.live = b.deleteClauses condition? := by
    show ((b.whereArgument condition?).limitArgument limit?).merge.live = _
    rw [merge_limitArgument]
    rfl
  have hlimit : compiled.limit = (limit? <|> b.limit) := DeleteCall.limit_compiled b _
  have htable : compiled.table style (Text.trim table) = b.table style (Text.trim table) := by
    have haliases : compiled.aliases = b.aliases :=
      (aliases_merge _).trans (aliases_whereArgument b condition?)
    unfold Builder.table protect
    rw [haliases]
  rw [target_of_nonBlank h, htable]
  show compiled.deleteStatement style _ = _
  rw [deleteStatement_eq, hlimit, hlive]
  simp only [← hnone, hlive]
  rfl

/-- The call sends the deletes of all tables, or is refused at the first one for want of a
condition. -/
theorem deleteTables_eq (htables : ∀ table ∈ tables, Text.isBlank table = false) :
    let plan := b.deleteTables style tables condition? limit?
    (plan.statements, plan.refusal) =
      if b.gathered condition? = [] ∧ tables ≠ [] then ([], some .noDeleteCondition)
      else (tables.map fun table =>
        style.dialect.deleteText (b.tableDelete style condition? limit? table), none) := by
  intro plan
  let call := DeleteCall.several tables condition? limit?
  have hplan : (plan.statements, plan.refusal) = _ := call.plan_eq style b
  have hdeletes : (call.targets style b).map (· >>= (call.compiled b).deleteStatement style) =
      tables.map fun table => if b.gathered condition? = [] then .error .noDeleteCondition
        else .ok (style.dialect.deleteText (b.tableDelete style condition? limit? table)) :=
    (List.map_map ..).trans (List.map_congr_left fun table htable =>
      deleteStatement_several style b (htables table htable) tables condition? limit?)
  rw [hplan, hdeletes]
  by_cases hnone : b.gathered condition? = []
  · simp only [hnone, ↓reduceIte, true_and]
    cases tables with
    | nil => rfl
    | cons table tables => rfl
  · simp only [hnone, ↓reduceIte, false_and]
    exact upToRefusal_map_ok _ tables

/-! ## One condition -/

/-- All deletes have one condition, in which every text that was gathered occurs; and if it is not
empty, each delete restricts its table by it. -/
theorem tableDelete_condition (style : Style) (b : Builder) (condition? : Option String)
    (limit? : Option Nat) :
    let condition := (b.deleteClauses condition?).conditionText
    (∀ text ∈ b.gathered condition?, Text.Within text condition) ∧
      ∀ table, Dialect.deleteConditions (b.tableDelete style condition? limit? table) = condition ∧
        (condition ≠ "" → style.dialect.deleteText (b.tableDelete style condition? limit? table) =
          style.dialect.deletesWhere (b.table style (Text.trim table)) condition
            (limit? <|> b.limit)) := by
  intro condition
  have hcondition (table : String) :
      Dialect.deleteConditions (b.tableDelete style condition? limit? table) = condition :=
    (b.deleteClauses condition?).deleteConditions_render _ _
  refine ⟨fun text htext => ?_, fun table => ⟨hcondition table, fun hsome => ?_⟩⟩
  · let call : DeleteCall := .several [] condition? none
    have hmem : text ∈ (call.compiled b).live.conditionTexts :=
      DeleteCall.mem_conditionTexts_compiled.2 htext
    have hwithin := Dialect.within_deleteConditions hmem "" none
    rwa [Clauses.deleteConditions_render] at hwithin
  · rw [Dialect.deleteText_eq_deletesWhere _ (by rwa [hcondition table]), hcondition table]
    rfl

/-! ## Runs -/

theorem isWrite_deleteText (d : Dialect) (statement : DeleteStatement) :
    Statement.isWrite (d.deleteText statement) = true := by
  refine Statement.isWrite_of_keyword "DELETE" (by decide) ?_
  have hlead (rest : String) : ∃ cs, ("DELETE FROM " ++ statement.table ++ rest).toList =
      "DELETE".toList ++ ' ' :: cs := by
    simp only [String.toList_append, List.append_assoc]
    exact ⟨_, rfl⟩
  unfold Dialect.deleteText
  cases d with
  | sqlite => cases statement.limit <;> exact hlead _
  | mysql | bare quote =>
    dsimp only
    rw [String.append_assoc]
    exact hlead _

/-- A statement of a call for several tables is a delete, whatever the tables are. -/
theorem isWrite_statements_deleteTables {sql : String}
    (h : sql ∈ (b.deleteTables style tables condition? limit?).statements) :
    Statement.isWrite sql = true := by
  have hplan := DeleteCall.statements_eq style b (.several tables condition? limit?)
  rw [show b.deleteTables style tables condition? limit? =
    (DeleteCall.several tables condition? limit?).plan style b from rfl, hplan] at h
  obtain ⟨target, -, hdelete⟩ := List.mem_map.1 (mem_of_mem_upToRefusal h)
  cases target with
  | error r => cases hdelete
  | ok table =>
    replace hdelete : ((DeleteCall.several tables condition? limit?).compiled b).deleteStatement
        style table = .ok sql := hdelete
    rw [deleteStatement_eq] at hdelete
    split at hdelete
    · cases hdelete
    · rw [← Except.ok.inj hdelete]
      exact isWrite_deleteText _ _

open Reading (statements)
open Session (AllAsked)

variable {C E : Type} [Connection C] [Backend C E]

/-- The deletes are sent by any session that keeps no results, or keeps them in memory as a run
leaves them. -/
theorem allAsked_deleteTables {s : Session C} {w : World E}
    (hkept : s.cacheOn = false ∨ s.KeepsReads) (hswap : s.config.swapPrefix = "") :
    AllAsked (b.deleteTables style tables condition? limit?).statements (s, w) :=
  Session.allAsked_of_kept hkept hswap fun _ => isWrite_statements_deleteTables

/-- **Deletes from several tables.** One call sends what the deletes of the tables would send one
after the other, each merging the snapshot anew: the deletes of the first of the tables, in their
order, with one condition and one limit. Without any condition nothing is sent, and the call is
refused unless there is no table either. It succeeds exactly if all deletes are sent and accepted;
one that is rejected is the last one sent, and its error is the answer. Nothing is left of what a
write uses in any case. What is assumed of kept results holds in every session that keeps none or
keeps them in memory, by `allAsked_deleteTables`. -/
theorem deleteTables_ends (s : Session (Metered C)) (b : Builder) (w : World E)
    (tables : List String) (condition? : Option String) (limit? : Option Nat)
    (htables : ∀ table ∈ tables, Text.isBlank table = false) (hswap : s.config.swapPrefix = "") :
    let style : Style := ⟨s.dialect, s.rules⟩
    let plan := b.deleteTables style tables condition? limit?
    let made := ((b.whereArgument condition?).limitArgument limit?).deletesInTurn style tables
    let text table := style.dialect.deleteText (b.tableDelete style condition? limit? table)
    let condition := (b.deleteClauses condition?).conditionText
    let r := (Database.write fun style b => b.deleteTables style tables condition? limit? :
      Action (Database (Metered C)) E Nat).run (⟨s, some b⟩, w)
    (plan = ⟨made.1, made.2.1, made.2.2.afterWrite⟩ ∧
      (∀ part ∈ b.gathered condition?, Text.Within part condition) ∧
      ∀ table, Dialect.deleteConditions (b.tableDelete style condition? limit? table) = condition ∧
        (condition ≠ "" → text table =
          style.dialect.deletesWhere (b.table style (Text.trim table)) condition
            (limit? <|> b.limit))) ∧
    (∃ left, r.2.1.builder = some left ∧ left.UsedUp) ∧
    (b.gathered condition? = [] → r.2.1.session = s ∧ r.2.2 = w ∧
      (tables ≠ [] → r.1 = .error (s.upgrade Refusal.noDeleteCondition.error))) ∧
    (AllAsked plan.statements (s, w) →
      ∃ added, r.2.1.session.conn.readings = s.conn.readings ++ added ∧
        (statements added).map Prod.fst <+: tables.map text ∧
        (r.1.isOk = true ↔ (statements added).map Prod.fst = tables.map text ∧
          ∀ sent ∈ statements added, sent.2.isOk = true) ∧
        ∀ sql e, (sql, .error e) ∈ statements added →
          (statements added).getLast? = some (sql, .error e) ∧
            r.1 = .error (s.upgrade (e.withStatement sql))) := by
  intro style plan made text condition r
  have hr : r = _ := Database.run_write
    (fun style b => b.deleteTables style tables condition? limit?) s b w
  have hplan : (plan.statements, plan.refusal) = _ := deleteTables_eq htables
  refine ⟨⟨deleteTables_eq_inTurn style b tables condition? limit?,
    tableDelete_condition style b condition? limit?⟩,
    ⟨plan.after, by rw [hr], usedUp_deleteTables style b tables condition? limit?⟩,
    fun hnone => ?_, fun hasked => ?_⟩
  · have hstatements : plan.statements = [] := by
      by_cases hnil : tables = []
      · rw [if_neg fun h => h.2 hnil, hnil] at hplan
        exact congrArg Prod.fst hplan
      · rw [if_pos ⟨hnone, hnil⟩] at hplan
        exact congrArg Prod.fst hplan
    have hr' : r = (plan.refusal.elim (.ok 0) fun refusal => .error (s.upgrade refusal.error),
        ⟨s, some plan.after⟩, w) := by
      rw [hr, show (b.deleteTables ⟨s.dialect, s.rules⟩ tables condition? limit?).statements = [] from
        hstatements]
      rfl
    rw [hr']
    refine ⟨rfl, rfl, fun hsome => ?_⟩
    rw [if_pos ⟨hnone, hsome⟩] at hplan
    rw [show plan.refusal = some .noDeleteCondition from congrArg Prod.snd hplan]
    rfl
  · obtain ⟨added, answer, hadded, hcourse, hanswer⟩ := Database.course_write
      (fun style b => b.deleteTables style tables condition? limit?) s b w
      (fun sql hsql => Statement.isBlank_of_isWrite (isWrite_statements_deleteTables hsql)) hasked
    -- without a stand-in the statements go out as they were made
    rw [hswap, List.map_id'' fun sql => PrefixSwap.apply_eq_self (.inr (.inl rfl))] at hcourse
    have hr' : r.1 = answer.bind fun n =>
      plan.refusal.elim (.ok n) fun refusal => .error (s.upgrade refusal.error) := hanswer
    refine ⟨added, hadded, ?_⟩
    split at hplan
    · next hrefused =>
      -- a call that is refused sends nothing, though it has tables
      rw [show plan.statements = [] from congrArg Prod.fst hplan] at hcourse
      rw [hr', show plan.refusal = some _ from congrArg Prod.snd hplan]
      cases hcourse
      refine ⟨List.nil_prefix, iff_of_false Bool.false_ne_true fun h => ?_, nofun⟩
      exact hrefused.2 (List.map_eq_nil_iff.1 h.1.symm)
    · rw [show plan.statements = _ from congrArg Prod.fst hplan] at hcourse
      have hsame : r.1 = answer := by
        rw [hr', show plan.refusal = none from congrArg Prod.snd hplan]
        cases answer <;> rfl
      rw [hsame]
      exact ⟨hcourse.ending.sent_prefix, hcourse.isOk_iff, fun sql e => hcourse.last_of_rejected⟩

/-- A session that keeps results in memory, over a backend that rejects what has a `b` in it. -/
def guardedSession : Session (Metered Scripted) × World Script :=
  (.create { ConnectionConfig.ofKind "mock" with cacheOn := true }
    (Metered.untouched (Scripted.ofDialect .mysql)),
    ⟨.empty, { (default : Script) with failures := [⟨"b", 5, "locked", .query⟩] }⟩)

/-- A condition in the snapshot, which is live as well. -/
def guardedBuilder : Builder :=
  (Builder.empty.startCache.whereRaw .and "x").stopCache

/-- With a condition of the call as well, the second of three deletes is rejected, and the third is
not sent. -/
theorem deleteTables_ends_rejected :
    let tables := ["t", " b", "c"]
    let r := (Database.write fun style b => b.deleteTables style tables (some "y") (some 5) :
      Action (Database (Metered Scripted)) Script Nat).run
        (⟨guardedSession.1, some guardedBuilder⟩, guardedSession.2)
    (∀ table ∈ tables, Text.isBlank table = false) ∧
      statements r.2.1.session.conn.readings =
        [("DELETE FROM `t` WHERE x AND y LIMIT 5", .ok 1),
          ("DELETE FROM `b` WHERE x AND y LIMIT 5", .error (.query 5 "locked" ""))] ∧
      ∃ left added, r.2.1.builder = some left ∧ left.UsedUp ∧
        r.2.1.session.conn.readings = added ∧
        ∀ sql e, (sql, .error e) ∈ statements added →
          (statements added).getLast? = some (sql, .error e) ∧
            r.1 = .error (guardedSession.1.upgrade (e.withStatement sql)) := by
  have htables : ∀ table ∈ ["t", " b", "c"], Text.isBlank table = false := by decide +kernel
  have hkeeps : guardedSession.1.KeepsReads := ⟨.empty, rfl, fun _ _ => rfl⟩
  obtain ⟨-, ⟨left, hleft, hused⟩, -, hsent⟩ := deleteTables_ends guardedSession.1 guardedBuilder
    guardedSession.2 ["t", " b", "c"] (some "y") (some 5) htables rfl
  obtain ⟨added, hadded, -, -, hlast⟩ := hsent (allAsked_deleteTables (.inr hkeeps) rfl)
  exact ⟨htables, by decide +kernel, left, added, hleft, hused, hadded, hlast⟩

end Builder

end SqlGateway
