import SqlGateway.Query.Plan

/-!
# Conditions on their way into a delete

Conditions come from many calls, live or from the snapshot, and end up in one text after WHERE. No
text is lost on the way: merging the snapshot keeps every condition and adds none, and what is
compiled contains the text of each.

Main definitions:

* `Text.Within`: a text is part of another one.
* `Text.Stands`: it is so, and no quote follows it there.
* `Builder.gathered`: the texts of all conditions that take part in the next statement.

Main results:

* `Builder.mem_conditionTexts_merge`: merging changes no text and loses none.
* `Dialect.within_deleteConditions`: each text is in the compiled one.
-/

namespace SqlGateway

/-! ## Texts within texts -/

namespace Text

/-- The text does not begin with a quote. -/
def Unquoted (s : String) : Prop :=
  s.toList.head? ≠ some '\x27'

instance (s : String) : Decidable (Unquoted s) :=
  inferInstanceAs (Decidable (_ ≠ _))

theorem Unquoted.append {s t : String} (hs : Unquoted s) (ht : Unquoted t) :
    Unquoted (s ++ t) := by
  unfold Unquoted at *
  rw [String.toList_append]
  cases hcs : s.toList with
  | nil => exact ht
  | cons c cs => rwa [hcs] at hs

/-- Only the beginning counts. -/
theorem Unquoted.of_lead {s : String} (hs : Unquoted s) (hne : s ≠ "") (t : String) :
    Unquoted (s ++ t) := by
  unfold Unquoted at *
  rw [String.toList_append]
  cases hcs : s.toList with
  | nil => exact absurd (String.toList_eq_nil_iff.1 hcs) hne
  | cons c cs => rwa [hcs] at hs

/-- A part that may be left out. -/
theorem Unquoted.unless {s : String} (hs : Unquoted s) (hne : s ≠ "") (p : Prop) [Decidable p]
    (t : String) : Unquoted (if p then "" else s ++ t) := by
  split
  · decide
  · exact hs.of_lead hne t

/-- The text is part of another one, and no quote follows it there. -/
def Stands (s t : String) : Prop :=
  ∃ before after, t.toList = before ++ (s.toList ++ after) ∧ after.head? ≠ some '\x27'

theorem Stands.refl (s : String) : Stands s s :=
  ⟨[], [], by simp, by simp⟩

theorem Stands.trans {s t u : String} (hst : Stands s t) (htu : Stands t u) : Stands s u := by
  obtain ⟨before, after, ht, hafter⟩ := hst
  obtain ⟨before', after', hu, hafter'⟩ := htu
  refine ⟨before' ++ before, after ++ after', by rw [hu, ht]; simp only [List.append_assoc], ?_⟩
  cases after with
  | nil => exact hafter'
  | cons c cs => exact hafter

theorem Stands.prepend {s t : String} (h : Stands s t) (u : String) : Stands s (u ++ t) := by
  obtain ⟨before, after, ht, hafter⟩ := h
  refine ⟨u.toList ++ before, after, ?_, hafter⟩
  rw [String.toList_append, ht, List.append_assoc]

theorem Stands.append {s t u : String} (h : Stands s t) (hu : Unquoted u) : Stands s (t ++ u) := by
  refine h.trans ⟨[], u.toList, ?_, hu⟩
  rw [String.toList_append, List.nil_append]

/-- A part stands in what is joined from it, if the separator keeps a quote off. -/
theorem stands_join {s sep : String} {parts : List String} (h : s ∈ parts) (hsep : Unquoted sep)
    (hne : sep ≠ "") : Stands s (join sep parts) := by
  unfold join
  induction parts with
  | nil => cases h
  | cons part parts ih =>
    cases parts with
    | nil =>
      rw [List.mem_singleton.1 h, String.intercalate_singleton]
      exact .refl part
    | cons next rest =>
      rw [String.intercalate_cons_cons]
      rcases List.mem_cons.1 h with rfl | h
      · rw [String.append_assoc]
        exact (Stands.refl s).append (hsep.of_lead hne _)
      · exact (ih h).prepend _

/-- The text is part of another one. -/
def Within (s t : String) : Prop :=
  s.toList <:+: t.toList

theorem Stands.within {s t : String} (h : Stands s t) : Within s t := by
  obtain ⟨before, after, ht, -⟩ := h
  exact ⟨before, after, by rw [ht, List.append_assoc]⟩

theorem Within.prepend {s t : String} (h : Within s t) (u : String) : Within s (u ++ t) := by
  unfold Within
  rw [String.toList_append]
  exact h.trans (List.suffix_append _ _).isInfix

theorem Within.append {s t : String} (h : Within s t) (u : String) : Within s (t ++ u) := by
  unfold Within
  rw [String.toList_append]
  exact h.trans (List.prefix_append _ _).isInfix

/-- A text with something in it that is not blank is not empty. -/
theorem Within.ne_empty {s t : String} (h : Within s t) (hs : isBlank s = false) : t ≠ "" := by
  rintro rfl
  have hnil : s.toList = [] := List.infix_nil.1 h
  rw [isBlank, hnil] at hs
  cases hs

end Text

/-! ## Rendered conditions -/

namespace Fragment

/-- The texts of conditions. -/
def texts (fs : List Fragment) : List String :=
  fs.map Fragment.text

/-- Connectors come before the text of a condition; the text itself stays whole. -/
theorem stands_render {s : String} {fs : List Fragment} (h : s ∈ texts fs) :
    Text.Stands s (Text.join " " (render fs)) := by
  obtain ⟨f, hf, rfl⟩ := List.mem_map.1 h
  cases fs with
  | nil => cases hf
  | cons first rest =>
    rcases List.mem_cons.1 hf with rfl | hf
    · exact Text.stands_join (List.mem_cons_self ..) (by decide) (by decide)
    · have hjoined : f.joined ∈ render (first :: rest) :=
        List.mem_cons_of_mem _ (List.mem_map_of_mem hf)
      have htext : Text.Stands f.text f.joined := (Text.Stands.refl f.text).prepend _
      exact htext.trans (Text.stands_join hjoined (by decide) (by decide))

end Fragment

namespace Dialect

/-- Each condition and each pattern is part of the condition of a delete. -/
theorem within_deleteConditions {s : String} {wheres likes : List Fragment}
    (h : s ∈ Fragment.texts wheres ++ Fragment.texts likes) (table : String) (limit : Option Nat) :
    Text.Within s
      (deleteConditions ⟨table, Fragment.render wheres, Fragment.render likes, limit⟩) := by
  have hpart {fs : List Fragment} (hs : s ∈ Fragment.texts fs)
      (hfs : Fragment.render fs ∈ [Fragment.render wheres, Fragment.render likes]) :
      Text.Within s
        (deleteConditions ⟨table, Fragment.render wheres, Fragment.render likes, limit⟩) := by
    have hsome : ¬(Fragment.render fs).isEmpty = true := by
      cases fs with
      | nil => cases hs
      | cons f fs => exact Bool.false_ne_true
    have hjoined : Text.join " " (Fragment.render fs) ∈
        [Fragment.render wheres, Fragment.render likes].filterMap fun part =>
          if part.isEmpty then none else some (Text.join " " part) :=
      List.mem_filterMap.2 ⟨Fragment.render fs, hfs, if_neg hsome⟩
    exact ((Fragment.stands_render hs).trans
      (Text.stands_join hjoined (by decide) (by decide))).within
  rcases List.mem_append.1 h with h | h
  · exact hpart h (List.mem_cons_self ..)
  · exact hpart h (List.mem_cons_of_mem _ (List.mem_cons_self ..))

end Dialect

/-! ## Gathered conditions -/

namespace Clauses

/-- The texts of the conditions on values and patterns. -/
def conditionTexts (c : Clauses) : List String :=
  Fragment.texts c.wheres ++ Fragment.texts c.likes

/-- Merged conditions have the texts of both lists. -/
theorem mem_texts_mergedLists {s : String} {upper lower : List Fragment} :
    s ∈ Fragment.texts (mergedLists upper lower) ↔
      s ∈ Fragment.texts lower ∨ s ∈ Fragment.texts upper := by
  unfold Fragment.texts mergedLists
  simp only [List.mem_map, List.mem_eraseDups, List.mem_append, or_and_right, exists_or]

theorem mem_conditionTexts_mergedOver {s : String} {upper lower : Clauses} :
    s ∈ (upper.mergedOver lower).conditionTexts ↔
      s ∈ upper.conditionTexts ∨ s ∈ lower.conditionTexts := by
  unfold conditionTexts mergedOver
  rw [List.mem_append, mem_texts_mergedLists, mem_texts_mergedLists, List.mem_append,
    List.mem_append, or_or_or_comm, or_comm]

/-- The guard of deletes looks at the number of conditions. -/
theorem conditionTexts_eq_nil_iff (c : Clauses) :
    c.conditionTexts = [] ↔ (c.wheres.isEmpty && c.likes.isEmpty) = true := by
  unfold conditionTexts Fragment.texts
  rw [List.append_eq_nil_iff, List.map_eq_nil_iff, List.map_eq_nil_iff, Bool.and_eq_true,
    List.isEmpty_iff, List.isEmpty_iff]

end Clauses

namespace Builder

/-- The texts of all conditions that the next statement takes part in: live ones, those of the
snapshot, and the one that the call brings along, if it is not blank. -/
def gathered (b : Builder) (condition? : Option String) : List String :=
  b.live.conditionTexts ++ b.snapshot.conditionTexts ++
    ((Text.nonBlank? condition?).map Text.trim).toList

/-- The condition of a call joins the live ones. -/
theorem mem_conditionTexts_whereArgument {s : String} {b : Builder} {condition? : Option String} :
    s ∈ (b.whereArgument condition?).live.conditionTexts ↔
      s ∈ b.live.conditionTexts ∨ s ∈ ((Text.nonBlank? condition?).map Text.trim).toList := by
  unfold whereArgument
  cases Text.nonBlank? condition? with
  | none => simp
  | some condition =>
    simp only [whereRaw, addWhere, add, fragment, Clauses.conditionTexts, Fragment.texts,
      List.map_append, List.map_cons, List.map_nil, List.mem_append, List.mem_singleton,
      Option.map_some, Option.toList_some]
    rw [or_right_comm]

/-- While the builder is caching, the condition of a call goes into the snapshot as well. -/
theorem conditionTexts_snapshot_whereArgument {s : String} {b : Builder}
    {condition? : Option String} :
    (s ∈ b.snapshot.conditionTexts →
        s ∈ (b.whereArgument condition?).snapshot.conditionTexts) ∧
      (s ∈ (b.whereArgument condition?).snapshot.conditionTexts →
        s ∈ b.snapshot.conditionTexts ∨
          s ∈ ((Text.nonBlank? condition?).map Text.trim).toList) := by
  unfold whereArgument
  cases Text.nonBlank? condition? with
  | none => exact ⟨id, .inl⟩
  | some condition =>
    simp only [whereRaw, addWhere, add]
    split
    · simp only [Clauses.conditionTexts, Fragment.texts, fragment, List.map_append, List.map_cons,
        List.map_nil, List.mem_append, List.mem_singleton, Option.map_some, Option.toList_some]
      exact ⟨Or.imp_left .inl, fun h => by rw [or_right_comm]; exact h⟩
    · exact ⟨id, .inl⟩

/-- Merging loses no text and adds none. -/
theorem mem_conditionTexts_merge {s : String} {b : Builder} :
    s ∈ b.merge.live.conditionTexts ↔
      s ∈ b.live.conditionTexts ∨ s ∈ b.snapshot.conditionTexts := by
  unfold merge
  split
  · rename_i hempty
    rw [hempty]
    exact ⟨.inl, fun h => h.resolve_right List.not_mem_nil⟩
  · exact Clauses.mem_conditionTexts_mergedOver

end Builder

end SqlGateway
