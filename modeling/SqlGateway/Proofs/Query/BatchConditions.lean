import SqlGateway.Proofs.Query.Assignments
import SqlGateway.Proofs.Query.DeleteGuard
import SqlGateway.Proofs.Query.UpdateQueue

/-!
# The conditions of batch updates

An update restricts its rows by all conditions that were gathered: those on values, and those on
patterns after them. A batch update has only those on values before its own condition. So it
changes rows that an update would leave alone as soon as there is a pattern, live or in the
snapshot, although it uses all of them up.

Main definitions:

* `Statement.restriction`: the conditions as they stand before the own one of a batch update.

Main results:

* `Statement.batchText_conditions_inj`: which conditions a batch update has can be told from it.
* `Clauses.restriction_eq_iff`: the patterns can not be left out.
* `Builder.updateBatch_restricts`: the conditions of what a batch update sends.
-/

namespace SqlGateway

namespace Statement

/-- The conditions of a batch update as they stand before its own. -/
def restriction (conditions : List String) : String :=
  if conditions.isEmpty then "" else Text.join " " conditions ++ " AND "

theorem restriction_of_ne_nil {conditions : List String} (h : conditions ≠ []) :
    restriction conditions = Text.join " " conditions ++ " AND " :=
  if_neg fun hempty => h (List.isEmpty_iff.1 hempty)

/-- Two batch updates that differ in their conditions alone differ in what stands before their
own. -/
theorem batchText_conditions_inj {table index : String} {rows : List (List (String × String))}
    {conditions conditions' : List String} :
    batchText ⟨table, rows, index, conditions⟩ = batchText ⟨table, rows, index, conditions'⟩ ↔
      restriction conditions = restriction conditions' := by
  unfold batchText
  dsimp only
  rw [String.append_left_inj, String.append_left_inj, String.append_left_inj,
    String.append_left_inj]
  exact String.append_right_inj _

theorem within_batchText {part : String} {s : BatchUpdate}
    (h : Text.Within part (restriction s.conditions)) : Text.Within part (batchText s) := by
  unfold batchText
  exact ((((h.prepend _).append _).append _).append _).append _

end Statement

namespace Clauses

theorem conditions_of_likes_nil {c : Clauses} (h : c.likes = []) :
    c.conditions = Fragment.render c.wheres := by
  unfold conditions
  rw [h]
  cases Fragment.render c.wheres <;> rfl

/-- Patterns can not be left out without a difference. -/
theorem restriction_eq_iff (c : Clauses) :
    Statement.restriction (Fragment.render c.wheres) = Statement.restriction c.conditions ↔
      c.likes = [] := by
  refine ⟨fun hsame => ?_, fun h => by rw [conditions_of_likes_nil h]⟩
  by_contra hlikes
  obtain ⟨like, likes, hrender⟩ := List.exists_cons_of_ne_nil
    fun hnil => hlikes (Fragment.render_eq_nil_iff.1 hnil)
  cases hwheres : Fragment.render c.wheres with
  | nil =>
    have hconditions : c.conditions = like :: likes := by
      unfold conditions
      rw [hwheres, hrender]
    rw [hwheres, hconditions, Statement.restriction_of_ne_nil (List.cons_ne_nil _ _)] at hsame
    have hnothing : Text.join " " (like :: likes) ++ " AND " = "" := hsame.symm
    simp at hnothing
  | cons part parts =>
    have hconditions : c.conditions = (part :: parts) ++ ("AND " ++ like) :: likes := by
      unfold conditions
      rw [hwheres, hrender]
    have hjoined : Text.join " " c.conditions =
        Text.join " " (part :: parts) ++ (" " ++ Text.join " " (("AND " ++ like) :: likes)) := by
      rw [hconditions, ← String.append_assoc]
      exact String.intercalate_append_of_ne_nil (List.cons_ne_nil _ _) (List.cons_ne_nil _ _)
    have hsome : c.conditions ≠ [] := by
      rw [hconditions]
      exact List.cons_ne_nil _ _
    rw [hwheres, Statement.restriction_of_ne_nil (List.cons_ne_nil _ _),
      Statement.restriction_of_ne_nil hsome, String.append_left_inj, hjoined, eq_comm,
      String.append_eq_left_iff] at hsame
    simp at hsame

end Clauses

namespace Builder

variable {style : Style} {b : Builder} {table? index? : Option String}
  {rows? : Option (List Record)}

/-- Merging makes no pattern of none, and loses none. -/
theorem likes_merge_eq_nil_iff :
    b.merge.live.likes = [] ↔ b.live.likes = [] ∧ b.snapshot.likes = [] := by
  unfold merge
  split
  · next hempty =>
    rw [hempty]
    exact (and_iff_left rfl).symm
  · show (b.snapshot.likes ++ b.live.likes).eraseDups = [] ↔ _
    rw [List.eq_nil_iff_forall_not_mem]
    simp only [List.mem_eraseDups, ← List.eq_nil_iff_forall_not_mem, List.append_eq_nil_iff]
    exact and_comm

/-- A statement of a batch update has the conditions on values. -/
theorem mem_statements_updateBatch {sql : String}
    (h : sql ∈ (b.updateBatch style table? rows? index?).statements) :
    ∃ table rows index, sql = style.dialect.batchUpdateText
      ⟨table, rows, index, Fragment.render b.merge.live.wheres⟩ := by
  obtain ⟨hnone, -⟩ | ⟨table, index, -, -, -, -, -, hstatements⟩ :=
    updateBatch_cases style b table? rows? index?
  · rw [hnone] at h
    cases h
  · rw [hstatements] at h
    obtain ⟨u, hu, rfl⟩ := List.mem_map.1 h
    obtain ⟨rows, -, rfl⟩ := List.mem_map.1 hu
    exact ⟨table, rows, index, rfl⟩

variable {C E : Type} [Connection C] [Backend C E]

/-- **The conditions of batch updates.** With the conditions that were gathered an update has those
on values and those on patterns. Every statement that a batch update sends has those on values
before its own, and no others. So it has the conditions of the update exactly if there is no
pattern, neither live nor in the snapshot. -/
theorem updateBatch_restricts (table? : Option String) (rows? : Option (List Record))
    (index? : Option String) (s : Session (Traced C)) (b : Builder) (w : World E) :
    let style : Style := ⟨s.dialect, s.rules⟩
    let clauses := b.merge.live
    let r := (Database.write fun style b => b.updateBatch style table? rows? index? :
      Action (Database (Traced C)) E Nat).run (⟨s, some b⟩, w)
    (∀ assignments table, (AssigningCall.update table? none none).text style b assignments table =
      style.dialect.updateText {
        table
        assignments
        conditions := clauses.conditions
        order := clauses.orders
        limit := b.limit }) ∧
    ∃ added, r.2.1.session.conn.events = s.conn.events ++ added ∧
      ∀ e ∈ added, ∀ sent, e.statement? = some sent →
        ∃ table rows index,
          let text conditions := style.dialect.batchUpdateText ⟨table, rows, index, conditions⟩
          sent = PrefixSwap.apply s.config.tablePrefix s.config.swapPrefix
            (text (Fragment.render clauses.wheres)) ∧
          (∀ part ∈ Fragment.texts clauses.wheres,
            Text.Within part (text (Fragment.render clauses.wheres))) ∧
          (text (Fragment.render clauses.wheres) = text clauses.conditions ↔
            b.live.likes = [] ∧ b.snapshot.likes = []) := by
  intro style clauses r
  constructor
  · intro assignments table
    rw [← limit_merge b]
    rfl
  · obtain ⟨added, hadded, hsent⟩ :=
      Database.sent_of_write (fun style b => b.updateBatch style table? rows? index?) s b w
    refine ⟨added, hadded, fun e he sent hstatement => ?_⟩
    obtain ⟨sql, hsql, rfl⟩ := hsent e he sent hstatement
    obtain ⟨table, rows, index, rfl⟩ := mem_statements_updateBatch hsql
    refine ⟨table, rows, index, rfl, fun part hpart => ?_, ?_⟩
    · refine Statement.within_batchText ?_
      have hsome : Fragment.render clauses.wheres ≠ [] := by
        rw [Ne, Fragment.render_eq_nil_iff]
        intro hnil
        rw [hnil] at hpart
        cases hpart
      rw [Statement.restriction_of_ne_nil hsome]
      exact (Fragment.stands_render hpart).within.append _
    · exact Statement.batchText_conditions_inj.trans
        ((Clauses.restriction_eq_iff clauses).trans likes_merge_eq_nil_iff)

open WriteCall (mysqlSession)

/-- A builder with a pattern, and an assignment for an update. -/
def patterned : Builder :=
  let style : Style := ⟨mysqlSession.dialect, mysqlSession.rules⟩
  (Builder.empty.like style .and false "n" "x" .both).set style "v" (.int 2)

/-- An update has the pattern, and a batch update does not. -/
theorem updateBatch_restricts_widened :
    let row : Record := .ofList [("a", .int 1), ("v", .int 2)]
    let sent (plan : Style → Builder → Plan) :=
      ((Database.write plan : Action (Database (Traced Scripted)) Script Nat).run
        (⟨mysqlSession, some patterned⟩, ⟨.empty, default⟩)).2.1.session.conn.events.filterMap
          BackendEvent.statement?
    sent (fun style b => b.update style (some "t") none none) =
        ["UPDATE `t` SET `v` = 2 WHERE `n` LIKE '%x%'"] ∧
      sent (fun style b => b.updateBatch style (some "t") (some [row]) (some "a")) =
        ["UPDATE `t` SET `v` = CASE WHEN `a` = 1 THEN 2 ELSE `v` END WHERE `a` IN (1)"] :=
  ⟨by decide +kernel, by decide +kernel⟩

end Builder

end SqlGateway
