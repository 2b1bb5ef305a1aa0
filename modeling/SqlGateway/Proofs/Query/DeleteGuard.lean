import SqlGateway.Backend.Scripted
import SqlGateway.Proofs.Query.Conditions
import SqlGateway.Proofs.Session.Sending

/-!
# The guard of deletes

A delete is meant for the rows that meet a condition, and a call without any is to be refused. The
guard that does so counts conditions, and a condition whose text is blank counts as one. So the
guard keeps what it promises exactly where a call is not left with blank conditions alone: then
every statement restricts its table by a condition in which one of the gathered texts occurs, and a
call without conditions sends nothing. A call with blank conditions alone gets through.

Main definitions:

* `DeleteCall`: the two calls that delete by conditions.
* `Dialect.deletesWhere`: a delete that restricts its table.
* `DeleteCall.Guarded`: what the guard promises of a call.

Main results:

* `DeleteCall.guarded_iff`: where the promise is kept.
* `DeleteCall.delete_guard`: this, and what a call sends.
-/

namespace SqlGateway

/-! ## Texts of deletes -/

/-- A single condition follows WHERE as it is. -/
theorem Statement.wherePart_singleton (condition : String) :
    wherePart [condition] = " WHERE " ++ condition := by
  unfold wherePart Text.join
  rw [String.intercalate_singleton]
  rfl

namespace Dialect

/-- The delete of the rows of a table that meet a condition. SQLite has the condition and the limit
in a subquery. -/
def deletesWhere (d : Dialect) (table condition : String) (limit : Option Nat) : String :=
  match d, limit with
  | sqlite, some n =>
    "DELETE FROM " ++ table ++ " WHERE " ++
      ("rowid IN (SELECT rowid FROM " ++ table ++ " WHERE " ++ condition ++ " LIMIT " ++
        toString n ++ ")")
  | _, limit => "DELETE FROM " ++ table ++ " WHERE " ++ condition ++ Statement.limitPart limit

/-- A delete whose conditions are not all empty has this form. -/
theorem deleteText_eq_deletesWhere (d : Dialect) {s : DeleteStatement}
    (h : deleteConditions s ≠ "") :
    d.deleteText s = d.deletesWhere s.table (deleteConditions s) s.limit := by
  have hsome : ¬(s.conditions.isEmpty = true ∧ s.likes.isEmpty = true) := by
    rintro ⟨hconditions, hlikes⟩
    refine h ?_
    unfold deleteConditions
    simp only [List.filterMap_cons, hconditions, hlikes, ↓reduceIte, List.filterMap_nil]
    rfl
  have hrow (table condition : String) (n : Nat) : rowLimit table [condition] n =
      "rowid IN (SELECT rowid FROM " ++ table ++ " WHERE " ++ condition ++ " LIMIT " ++
        toString n ++ ")" := by
    unfold rowLimit Statement.limitPart
    rw [Statement.wherePart_singleton]
    simp only [String.append_assoc]
  obtain ⟨table, conditions, likes, limit⟩ := s
  unfold deleteText
  generalize deleteConditions ⟨table, conditions, likes, limit⟩ = condition at h ⊢
  cases d with
  | sqlite =>
    cases limit with
    | none =>
      simp only [h, ↓reduceIte, Statement.wherePart_singleton, deletesWhere, Statement.limitPart,
        String.append_empty, String.append_assoc]
    | some n =>
      simp only [h, ↓reduceIte, Statement.wherePart_singleton, hrow, deletesWhere,
        String.append_assoc]
  | mysql =>
    simp only [hsome, ↓reduceIte, Statement.wherePart_singleton, deletesWhere, String.append_assoc]
  | bare quote =>
    simp only [hsome, ↓reduceIte, Statement.wherePart_singleton, deletesWhere, String.append_assoc]

end Dialect

/-- The statement deletes from the table only rows that meet a condition in which one of the texts
occurs, and one that is not blank. -/
def Dialect.Restricted (d : Dialect) (texts : List String) (limit : Option Nat)
    (table sql : String) : Prop :=
  ∃ condition, sql = d.deletesWhere table condition limit ∧
    ∃ text ∈ texts, Text.isBlank text = false ∧ Text.Within text condition

/-! ## Statements up to a refusal -/

/-- What comes before the first refusal, and that refusal. -/
def upToRefusal {α : Type} : List (Except Refusal α) → List α × Option Refusal
  | [] => ([], none)
  | .error r :: _ => ([], some r)
  | .ok x :: rest => (x :: (upToRefusal rest).1, (upToRefusal rest).2)

theorem mem_of_mem_upToRefusal {α : Type} {x : α} {outcomes : List (Except Refusal α)}
    (h : x ∈ (upToRefusal outcomes).1) : .ok x ∈ outcomes := by
  induction outcomes with
  | nil => cases h
  | cons outcome rest ih =>
    cases outcome with
    | error r => cases h
    | ok y =>
      rcases List.mem_cons.1 h with rfl | h
      · exact List.mem_cons_self ..
      · exact List.mem_cons_of_mem _ (ih h)

/-- Nothing comes before a refusal exactly if it comes first. -/
theorem upToRefusal_refused_iff {α : Type} {outcomes : List (Except Refusal α)} :
    ((upToRefusal outcomes).1 = [] ∧ ∃ r, (upToRefusal outcomes).2 = some r) ↔
      ∃ r, outcomes.head? = some (.error r) := by
  cases outcomes with
  | nil => simp [upToRefusal]
  | cons outcome rest => cases outcome <;> simp [upToRefusal]

namespace Builder

theorem deletesOf_eq (style : Style) (b : Builder) (tables : List String) :
    b.deletesOf style tables = upToRefusal (tables.map fun table =>
      b.target style (some table) >>= b.deleteStatement style) := by
  induction tables with
  | nil => rfl
  | cons table tables ih =>
    rw [deletesOf, List.map_cons]
    cases b.target style (some table) >>= b.deleteStatement style with
    | error r => rfl
    | ok text =>
      simp only [ih]
      rfl

theorem limit_merge (b : Builder) : b.merge.limit = b.limit := by
  unfold merge
  split <;> rfl

/-- A delete is compiled exactly if there is a condition, blank or not. -/
theorem deleteStatement_eq (style : Style) (b : Builder) (table : String) :
    b.deleteStatement style table =
      if b.live.conditionTexts = [] then .error .noDeleteCondition
      else .ok (style.dialect.deleteText {
        table
        conditions := Fragment.render b.live.wheres
        likes := Fragment.render b.live.likes
        limit := b.limit }) := by
  unfold deleteStatement
  simp only [Clauses.conditionTexts_eq_nil_iff]

/-- One condition that is not blank restricts what is compiled. -/
theorem restricted_of_deleteStatement {style : Style} {b : Builder} {table sql : String}
    (h : b.deleteStatement style table = .ok sql)
    (htext : ∃ text ∈ b.live.conditionTexts, Text.isBlank text = false) :
    style.dialect.Restricted b.live.conditionTexts b.limit table sql := by
  obtain ⟨text, hmem, hblank⟩ := htext
  have hwithin := Dialect.within_deleteConditions hmem table b.limit
  rw [deleteStatement_eq, if_neg (List.ne_nil_of_mem hmem)] at h
  refine ⟨_, ?_, text, hmem, hblank, hwithin⟩
  rw [← Except.ok.inj h]
  exact Dialect.deleteText_eq_deletesWhere style.dialect (hwithin.ne_empty hblank)

end Builder

/-! ## Calls -/

/-- The calls that delete by conditions: from one table, or from several with one limit. -/
inductive DeleteCall where
  | single (table? condition? : Option String)
  | several (tables : List String) (condition? : Option String) (limit? : Option Nat)

namespace DeleteCall

def plan (call : DeleteCall) (style : Style) (b : Builder) : Plan :=
  match call with
  | single table? condition? => b.delete style table? condition?
  | several tables condition? limit? => b.deleteTables style tables condition? limit?

/-- The condition that the call brings along. -/
def condition? : DeleteCall → Option String
  | single _ condition? => condition?
  | several _ condition? _ => condition?

/-- The limit that is in force. -/
def limit (b : Builder) : DeleteCall → Option Nat
  | single .. => b.limit
  | several _ _ limit? => limit? <|> b.limit

/-- The builder that the call compiles from. A call for one table merges the snapshot first, and
adds its condition to what came out. -/
def compiled (b : Builder) : DeleteCall → Builder
  | single _ condition? => b.merge.whereArgument condition?
  | several _ condition? limit? => ((b.whereArgument condition?).limitArgument limit?).merge

/-- The tables that the call is for, or why there is none. -/
def targets (style : Style) (b : Builder) (call : DeleteCall) : List (Except Refusal String) :=
  match call with
  | single table? _ => [b.merge.target style table?]
  | several tables _ _ => tables.map fun table => (call.compiled b).target style (some table)

theorem mem_conditionTexts_compiled {s : String} {b : Builder} {call : DeleteCall} :
    s ∈ (call.compiled b).live.conditionTexts ↔ s ∈ b.gathered call.condition? := by
  unfold Builder.gathered
  rw [List.mem_append, List.mem_append]
  cases call with
  | single table? argument? =>
    show s ∈ (b.merge.whereArgument argument?).live.conditionTexts ↔ _
    rw [Builder.mem_conditionTexts_whereArgument, Builder.mem_conditionTexts_merge]
    rfl
  | several tables argument? limit? =>
    show s ∈ ((b.whereArgument argument?).limitArgument limit?).merge.live.conditionTexts ↔ _
    rw [Builder.mem_conditionTexts_merge]
    show s ∈ (b.whereArgument argument?).live.conditionTexts ∨
      s ∈ (b.whereArgument argument?).snapshot.conditionTexts ↔ _
    rw [Builder.mem_conditionTexts_whereArgument]
    -- a builder that is caching has the condition of the call in both places, the same text
    obtain ⟨hkept, hadded⟩ := @Builder.conditionTexts_snapshot_whereArgument s b argument?
    constructor
    · rintro ((h | h) | h)
      · exact .inl (.inl h)
      · exact .inr h
      · exact (hadded h).imp_left .inr
    · rintro ((h | h) | h)
      · exact .inl (.inl h)
      · exact .inr (hkept h)
      · exact .inl (.inr h)

/-- The limit reaches the statement, whatever is merged. -/
theorem limit_compiled (b : Builder) (call : DeleteCall) :
    (call.compiled b).limit = call.limit b := by
  have hargument (b : Builder) (argument? : Option String) :
      (b.whereArgument argument?).limit = b.limit := by
    unfold Builder.whereArgument
    split <;> rfl
  cases call with
  | single table? argument? =>
    show (b.merge.whereArgument argument?).limit = b.limit
    rw [hargument, Builder.limit_merge]
  | several tables argument? limit? =>
    show ((b.whereArgument argument?).limitArgument limit?).merge.limit = (limit? <|> b.limit)
    rw [Builder.limit_merge]
    show (limit? <|> (b.whereArgument argument?).limit) = _
    rw [hargument]

/-- A plan has the deletes of the tables, up to the first one that is refused. -/
theorem plan_eq (style : Style) (b : Builder) (call : DeleteCall) :
    ((call.plan style b).statements, (call.plan style b).refusal) =
      upToRefusal ((call.targets style b).map
        (· >>= (call.compiled b).deleteStatement style)) := by
  cases call with
  | single table? argument? =>
    show ((b.delete style table? argument?).statements,
      (b.delete style table? argument?).refusal) = upToRefusal
        [b.merge.target style table? >>= (b.merge.whereArgument argument?).deleteStatement style]
    unfold Builder.delete
    dsimp only
    cases b.merge.target style table? with
    | error r => rfl
    | ok table =>
      show _ = upToRefusal [(b.merge.whereArgument argument?).deleteStatement style table]
      unfold Plan.orRefused
      dsimp only
      cases (b.merge.whereArgument argument?).deleteStatement style table <;> rfl
  | several tables argument? limit? =>
    unfold targets
    rw [List.map_map]
    -- without a table the snapshot is not merged, which makes no difference to no statements
    cases tables with
    | nil => rfl
    | cons table tables => exact Builder.deletesOf_eq style _ (table :: tables)

theorem statements_eq (style : Style) (b : Builder) (call : DeleteCall) :
    (call.plan style b).statements = (upToRefusal ((call.targets style b).map
      (· >>= (call.compiled b).deleteStatement style))).1 :=
  congrArg Prod.fst (plan_eq style b call)

theorem refusal_eq (style : Style) (b : Builder) (call : DeleteCall) :
    (call.plan style b).refusal = (upToRefusal ((call.targets style b).map
      (· >>= (call.compiled b).deleteStatement style))).2 :=
  congrArg Prod.snd (plan_eq style b call)

/-- What the guard promises: every statement restricts its table by a condition that is not blank,
and a call that has no such condition is refused as misuse and sends nothing. -/
structure Guarded (style : Style) (b : Builder) (call : DeleteCall) : Prop where
  restricted : ∀ sql ∈ (call.plan style b).statements,
    ∃ table, .ok table ∈ call.targets style b ∧
      style.dialect.Restricted (b.gathered call.condition?) (call.limit b) table sql
  refused : (∀ text ∈ b.gathered call.condition?, Text.isBlank text = true) →
    (call.plan style b).statements = [] ∧
      ∃ r, (call.plan style b).refusal = some r ∧ r.error.isUsage = true

/-- One condition that is not blank restricts every statement. -/
theorem restricted_of_exists {style : Style} {b : Builder} {call : DeleteCall}
    (htext : ∃ text ∈ b.gathered call.condition?, Text.isBlank text = false) :
    ∀ sql ∈ (call.plan style b).statements,
      ∃ table, .ok table ∈ call.targets style b ∧
        style.dialect.Restricted (b.gathered call.condition?) (call.limit b) table sql := by
  intro sql hsql
  rw [statements_eq] at hsql
  obtain ⟨target, htarget, hbind⟩ := List.mem_map.1 (mem_of_mem_upToRefusal hsql)
  cases target with
  | error r => cases hbind
  | ok table =>
    refine ⟨table, htarget, ?_⟩
    obtain ⟨text, hmem, hblank⟩ := htext
    obtain ⟨condition, hform, text, hmem, hblank, hwithin⟩ :=
      Builder.restricted_of_deleteStatement hbind
        ⟨text, mem_conditionTexts_compiled.2 hmem, hblank⟩
    rw [limit_compiled] at hform
    exact ⟨condition, hform, text, mem_conditionTexts_compiled.1 hmem, hblank, hwithin⟩

/-- The call is refused before anything is sent exactly if there is no condition for its first
table, blank ones counting, or no such table. -/
theorem refused_iff (style : Style) (b : Builder) (call : DeleteCall) :
    ((call.plan style b).statements = [] ∧ ∃ r, (call.plan style b).refusal = some r) ↔
      ∃ target, (call.targets style b).head? = some target ∧
        (b.gathered call.condition? = [] ∨ ∃ r, target = .error r) := by
  have hnil : (call.compiled b).live.conditionTexts = [] ↔ b.gathered call.condition? = [] := by
    rw [List.eq_nil_iff_forall_not_mem, List.eq_nil_iff_forall_not_mem]
    exact forall_congr' fun s => not_congr mem_conditionTexts_compiled
  rw [statements_eq, refusal_eq, upToRefusal_refused_iff, List.head?_map]
  cases (call.targets style b).head? with
  | none => simp
  | some target =>
    cases target with
    | error r =>
      refine iff_of_true ⟨r, rfl⟩ ⟨_, rfl, .inr ⟨r, rfl⟩⟩
    | ok table =>
      have hbind : (Except.ok table >>= (call.compiled b).deleteStatement style) =
          (call.compiled b).deleteStatement style table := rfl
      simp only [Option.map_some, hbind, Builder.deleteStatement_eq, hnil]
      split <;> simp [*]

/-- The guard keeps its promise exactly where a condition is not blank, or where it refuses
the first table: for want of any condition, or of the table itself. -/
theorem guarded_iff (style : Style) (b : Builder) (call : DeleteCall) :
    Guarded style b call ↔
      (∃ text ∈ b.gathered call.condition?, Text.isBlank text = false) ∨
        ∃ target, (call.targets style b).head? = some target ∧
          (b.gathered call.condition? = [] ∨ ∃ r, target = .error r) := by
  rw [← refused_iff]
  constructor
  · intro h
    by_cases htext : ∃ text ∈ b.gathered call.condition?, Text.isBlank text = false
    · exact .inl htext
    · right
      obtain ⟨hnone, r, hr, -⟩ := h.refused fun text hmem =>
        eq_true_of_ne_false fun hblank => htext ⟨text, hmem, hblank⟩
      exact ⟨hnone, r, hr⟩
  · rintro (htext | ⟨hnone, r, hr⟩)
    · refine ⟨restricted_of_exists htext, fun hall => ?_⟩
      obtain ⟨text, hmem, hblank⟩ := htext
      rw [hall text hmem] at hblank
      cases hblank
    · refine ⟨fun sql hsql => ?_, fun _ => ⟨hnone, r, hr, rfl⟩⟩
      rw [hnone] at hsql
      cases hsql

/-! ## What calls send -/

/-- A refusal is told as misuse, in debug mode too. -/
theorem isUsage_upgrade {C : Type} (s : Session C) (r : Refusal) :
    (s.upgrade r.error).isUsage = true := by
  unfold Session.upgrade
  split
  · unfold DbError.isUsage
    rw [DbError.root_intoFatal]
    rfl
  · rfl

variable {C E : Type} [Connection C] [Backend C E]

/-- **The guard of deletes.** For every builder it keeps its promise exactly where a gathered
condition is not blank, or where the first table is refused. What the call sends is what was
planned, with the prefix in its place; and a call that is refused with nothing planned fails as
misuse, and leaves the session as it was. -/
theorem delete_guard (s : Session (Traced C)) (b : Builder) (w : World E) (call : DeleteCall) :
    let style : Style := ⟨s.dialect, s.rules⟩
    let plan := call.plan style b
    let r := (Database.write call.plan : Action (Database (Traced C)) E Nat).run (⟨s, some b⟩, w)
    (Guarded style b call ↔
      (∃ text ∈ b.gathered call.condition?, Text.isBlank text = false) ∨
        ∃ target, (call.targets style b).head? = some target ∧
          (b.gathered call.condition? = [] ∨ ∃ r, target = .error r)) ∧
    (∃ added, r.2.1.session.conn.events = s.conn.events ++ added ∧
      ∀ e ∈ added, ∀ sql, e.statement? = some sql → ∃ text ∈ plan.statements,
        sql = PrefixSwap.apply s.config.tablePrefix s.config.swapPrefix text) ∧
    (plan.statements = [] → plan.refusal ≠ none →
      (∃ e, r.1 = .error e ∧ e.isUsage = true) ∧ r.2.1.session = s) := by
  intro style plan r
  have hrun := Database.run_write call.plan s b w
  refine ⟨guarded_iff style b call, ?_, fun hnone hrefusal => ?_⟩
  · obtain ⟨-, hsent⟩ : (Session.sendingOnly fun sql => ∃ text ∈ plan.statements,
        sql = PrefixSwap.apply s.config.tablePrefix s.config.swapPrefix text).rel s
          ((Database.sendAll plan.statements :
            Action (Session (Traced C)) E Nat).run (s, w)).2.1 :=
      Session.rel_sendAll w fun text htext => ⟨text, htext, rfl⟩
    have hsession : r.2.1.session = ((Database.sendAll plan.statements :
        Action (Session (Traced C)) E Nat).run (s, w)).2.1 :=
      congrArg (·.2.1.session) hrun
    rw [hsession]
    exact hsent
  · obtain ⟨refusal, hrefusal⟩ := Option.ne_none_iff_exists'.1 hrefusal
    have hr : r = (.error (s.upgrade refusal.error), ⟨s, some plan.after⟩, w) := by
      refine hrun.trans ?_
      show (_, _) = _
      rw [show (call.plan ⟨s.dialect, s.rules⟩ b).statements = [] from hnone,
        show (call.plan ⟨s.dialect, s.rules⟩ b).refusal = some refusal from hrefusal]
      rfl
    rw [hr]
    exact ⟨⟨_, rfl, isUsage_upgrade s refusal⟩, rfl⟩

/-- A condition without text lets a delete through that restricts nothing. -/
theorem delete_guard_blank :
    let style : Style := ⟨.sqlite, (Session.create (ConnectionConfig.ofKind "sqlite")
      (Scripted.ofDialect .sqlite)).rules⟩
    let b := Builder.empty.whereRaw .and ""
    let call := single (some "t") none
    (call.plan style b).statements = ["DELETE FROM \"t\""] ∧ ¬Guarded style b call := by
  have hplan : ((single (some "t") none).plan ⟨.sqlite, (Session.create
      (ConnectionConfig.ofKind "sqlite") (Scripted.ofDialect .sqlite)).rules⟩
      (Builder.empty.whereRaw .and "")).statements = ["DELETE FROM \"t\""] := by
    decide +kernel
  refine ⟨hplan, fun h => ?_⟩
  obtain ⟨hnone, -⟩ := h.refused (by decide +kernel)
  rw [hplan] at hnone
  cases hnone

end DeleteCall

end SqlGateway
