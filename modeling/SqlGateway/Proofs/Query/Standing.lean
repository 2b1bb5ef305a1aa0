import SqlGateway.Proofs.Query.SharedConditions
import SqlGateway.Proofs.Sql.LiteralReader

/-!
# Literals on their way into a statement

A value that a caller passes becomes a literal in some part of a builder, and the part goes into a
statement. On the way the literal stays whole, and no quote comes up behind it; so it can be read
back from the statement, where it stands.

Main definitions:

* `Text.inQuotes`: a text between quotes.
* `Dialect.ReadsIn`: the literal of a value is in a statement and is read back as that value.

Main results:

* `Builder.stands_condition`, `Builder.stands_membership`, `Builder.stands_likeness`: literals in
  the parts of a builder.
* `Builder.stands_selectText`, `Dialect.stands_insertText`, `Dialect.stands_updateText`: parts in
  statements.
-/

namespace SqlGateway

open Text (Stands Unquoted)

/-! ## Literals -/

/-- A text between quotes. -/
def Text.inQuotes (s : String) : String :=
  "'" ++ s ++ "'"

namespace Dialect

/-- The literal of the value is in the statement, and is read back there as the value. -/
def ReadsIn (d : Dialect) (value sql : String) : Prop :=
  ∃ before after, sql.toList = before ++ ((d.literal (.text value)).toList ++ after) ∧
    d.readText? ((d.literal (.text value)).toList ++ after) = some (value.toList, after)

theorem readsIn_of_stands {d : Dialect} {value sql : String}
    (h : Stands (d.literal (.text value)) sql) : d.ReadsIn value sql := by
  obtain ⟨before, after, hsql, hafter⟩ := h
  exact ⟨before, after, hsql, readText?_literal d value hafter⟩

end Dialect

namespace Builder

/-- The literal of a condition stands at its end. -/
theorem stands_condition (style : Style) (b : Builder) (key value : String) :
    Stands (style.dialect.literal (.text value)) (b.condition style key (.text value)) :=
  (Stands.refl _).prepend _

/-- Each value of a list has its literal in the condition of membership. -/
theorem stands_membership {style : Style} {b : Builder} {negated : Bool} {key value : String}
    {values : List Value} (h : .text value ∈ values) :
    Stands (style.dialect.literal (.text value)) (b.membership style negated key values) := by
  have hjoined : Stands (style.dialect.literal (.text value))
      (Text.join ", " (values.map style.dialect.literal)) :=
    Text.stands_join (List.mem_map_of_mem h) (by decide) (by decide)
  exact (hjoined.prepend _).append (by decide)

/-- The pattern of a condition stands between its quotes, also where another literal comes after
it. -/
theorem stands_likeness (style : Style) (b : Builder) (negated : Bool) (key text : String)
    (side : LikeSide) :
    Stands (Text.inQuotes (side.pattern (style.dialect.escapeLike text)))
      (b.likeness style negated key text side) := by
  have hclause : Unquoted style.dialect.likeClause := by
    cases style.dialect with
    | sqlite => exact (by decide : Unquoted " ESCAPE '!'")
    | mysql => exact (by decide : Unquoted "")
    | bare quote => exact (by decide : Unquoted "")
  have hshape (lead pattern : String) :
      lead ++ " LIKE '" ++ pattern ++ "'" = lead ++ " LIKE " ++ Text.inQuotes pattern := by
    have hquote : " LIKE '" = " LIKE " ++ "'" := rfl
    unfold Text.inQuotes
    rw [hquote]
    simp only [String.append_assoc]
  unfold likeness
  rw [hshape]
  exact ((Stands.refl _).prepend _).append hclause

end Builder

/-! ## Conditions -/

namespace Clauses

/-- A condition stands in the WHERE clause. -/
theorem stands_whereClause {s : String} {c : Clauses} (h : s ∈ c.conditionTexts) :
    Stands s c.whereClause := by
  have hcondition : Stands s c.conditionText := by
    unfold conditionText
    rcases List.mem_append.1 h with h | h
    · refine (Fragment.stands_render h).append ?_
      split
      · decide
      · split
        · rename_i hnone
          rw [Fragment.texts, List.isEmpty_iff.1 hnone] at h
          cases h
        · exact Unquoted.of_lead (by decide) (by decide) _
    · refine Stands.prepend ?_ _
      split
      · rename_i hnone
        rw [Fragment.texts, List.isEmpty_iff.1 hnone] at h
        cases h
      · exact (Fragment.stands_render h).prepend _
  unfold whereClause
  rw [if_neg (List.ne_nil_of_mem h)]
  exact hcondition.prepend _

theorem unquoted_whereClause (c : Clauses) : Unquoted c.whereClause :=
  Unquoted.unless (by decide) (by decide) _ _

end Clauses

theorem Statement.unquoted_orderPart (order : List String) : Unquoted (orderPart order) :=
  Unquoted.unless (by decide) (by decide) _ _

theorem Statement.unquoted_limitPart (limit : Option Nat) : Unquoted (limitPart limit) := by
  cases limit with
  | none => exact (by decide : Unquoted "")
  | some n => exact Unquoted.of_lead (s := " LIMIT ") (by decide) (by decide) _

namespace Frame

variable {f : Frame} {s clause : String}

theorem stands_around_of_clause (h : Stands s clause) (hafter : Unquoted f.after) :
    Stands s (f.around clause) :=
  (h.prepend _).append hafter

theorem stands_around_of_before (h : Stands s f.before) (hclause : Unquoted clause)
    (hafter : Unquoted f.after) : Stands s (f.around clause) :=
  (h.append hclause).append hafter

end Frame

/-! ## Selects -/

theorem Dialect.unquoted_windowPart (d : Dialect) (limit : Nat) (offset : Option Nat) :
    Unquoted (d.windowPart limit offset) := by
  have hlead (rest : String) : Unquoted (" LIMIT " ++ rest) :=
    Unquoted.of_lead (by decide) (by decide) rest
  unfold windowPart
  split
  · exact hlead _
  · exact hlead _
  · split
    · rw [String.append_assoc, String.append_assoc]
      exact hlead _
    · rw [String.append_assoc, String.append_assoc]
      exact hlead _

namespace Builder

/-- The texts of a select in which values stand: conditions, and those on groups. -/
def selectParts (b : Builder) : List String :=
  b.live.conditionTexts ++ Fragment.texts b.live.havings

theorem unquoted_after_selectFrame (style : Style) (b : Builder) :
    Unquoted (b.selectFrame style).after := by
  have hgroups : Unquoted (if b.live.groups.isEmpty then ""
      else " GROUP BY " ++ Text.join ", " b.live.groups) :=
    Unquoted.unless (by decide) (by decide) _ _
  have hhavings : Unquoted (if b.live.havings.isEmpty then ""
      else " HAVING " ++ Text.join " " (Fragment.render b.live.havings)) :=
    Unquoted.unless (by decide) (by decide) _ _
  refine ((hgroups.append hhavings).append (Statement.unquoted_orderPart _)).append ?_
  split
  · decide
  · exact Dialect.unquoted_windowPart _ _ _

/-- A condition on groups stands behind the WHERE clause. -/
theorem stands_after_selectFrame {style : Style} {b : Builder} {s : String}
    (h : s ∈ Fragment.texts b.live.havings) : Stands s (b.selectFrame style).after := by
  have hsome : ¬b.live.havings.isEmpty = true := fun hnone => by
    rw [Fragment.texts, List.isEmpty_iff.1 hnone] at h
    cases h
  have hhavings : Stands s (if b.live.havings.isEmpty then ""
      else " HAVING " ++ Text.join " " (Fragment.render b.live.havings)) := by
    rw [if_neg hsome]
    exact (Fragment.stands_render h).prepend _
  refine ((hhavings.prepend _).append (Statement.unquoted_orderPart _)).append ?_
  split
  · decide
  · exact Dialect.unquoted_windowPart _ _ _

theorem stands_selectText {style : Style} {b : Builder} {s : String}
    (h : s ∈ b.merge.selectParts) : Stands s (b.selectText style) := by
  rw [selectText_eq_around]
  rcases List.mem_append.1 h with h | h
  · exact Frame.stands_around_of_clause (Clauses.stands_whereClause h)
      (unquoted_after_selectFrame style _)
  · exact (stands_after_selectFrame h).prepend _

end Builder

/-! ## Writes -/

namespace Dialect

/-- Every value of an insert stands in its text. -/
theorem stands_insertText {d : Dialect} {s : String} {statement : InsertStatement}
    {row : List String} (hrow : row ∈ statement.rows) (h : s ∈ row) :
    Stands s (d.insertText statement) := by
  have htuple : Stands s (Statement.tuple row) :=
    ((Text.stands_join h (by decide) (by decide)).prepend _).append (by decide)
  have hrows : Stands (Statement.tuple row)
      (Text.join ", " (statement.rows.map Statement.tuple)) :=
    Text.stands_join (List.mem_map_of_mem hrow) (by decide) (by decide)
  exact (htuple.trans hrows).prepend _

theorem unquoted_after_writeFrame (d : Dialect) (lead table : String) (order : List String)
    (limit : Option Nat) : Unquoted (d.writeFrame lead table order limit).after := by
  have hplain := (Statement.unquoted_orderPart order).append (Statement.unquoted_limitPart limit)
  cases d with
  | sqlite =>
    cases limit with
    | none => exact (by decide : Unquoted "")
    | some n =>
      show Unquoted (" LIMIT " ++ toString n ++ ")")
      rw [String.append_assoc]
      exact Unquoted.of_lead (by decide) (by decide) _
  | mysql => exact hplain
  | bare quote => exact hplain

/-- What begins a write stands in the frame. -/
theorem stands_before_writeFrame {d : Dialect} {s lead : String} (h : Stands s lead)
    (table : String) (order : List String) (limit : Option Nat) :
    Stands s (d.writeFrame lead table order limit).before := by
  cases d with
  | sqlite =>
    cases limit with
    | none => exact h
    | some n =>
      show Stands s (lead ++ " WHERE " ++ "rowid IN (SELECT rowid FROM " ++ table)
      rw [String.append_assoc, String.append_assoc]
      exact h.append (Unquoted.of_lead (by decide) (by decide) _)
  | mysql => exact h
  | bare quote => exact h

/-- The values that an update assigns stand in its text, and so do its conditions. -/
theorem stands_updateText {d : Dialect} {s table : String} {assignments : List (String × String)}
    {c : Clauses} {limit : Option Nat}
    (h : s ∈ assignments.map Prod.snd ++ c.conditionTexts) :
    Stands s (d.updateText ⟨table, assignments, c.conditions, c.orders, limit⟩) := by
  rw [updateText_eq_around, Clauses.wherePart_conditions]
  have hafter : Unquoted (d.updateFrame table assignments c.orders limit).after :=
    d.unquoted_after_writeFrame _ _ _ _
  rcases List.mem_append.1 h with h | h
  · obtain ⟨⟨column, value⟩, hassigned, rfl⟩ := List.mem_map.1 h
    have hvalue : Stands value (Statement.assignment (column, value)) := (Stands.refl _).prepend _
    have hjoined : Stands (Statement.assignment (column, value))
        (Text.join ", " (assignments.map Statement.assignment)) :=
      Text.stands_join (List.mem_map_of_mem hassigned) (by decide) (by decide)
    have hbefore : Stands value (d.updateFrame table assignments c.orders limit).before :=
      stands_before_writeFrame ((hvalue.trans hjoined).prepend _) _ _ _
    exact Frame.stands_around_of_before hbefore c.unquoted_whereClause hafter
  · exact Frame.stands_around_of_clause (Clauses.stands_whereClause h) hafter

end Dialect

end SqlGateway
