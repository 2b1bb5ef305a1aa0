import SqlGateway.Proofs.Text.Pieces
import SqlGateway.Proofs.Text.Tidy

/-!
# Texts of one layout

Two texts with commas are the same but for their layout if their pieces are: blanks at the ends of a
piece do not count, and a run of spaces and tabs inside it counts as one space. What is no blank is
not touched by this, so that such texts have the same characters otherwise.

Main definitions:

* `Chars.tidied`: a text without blanks at its ends and with single spaces inside.
* `Text.SameLayout`: the pieces of two texts are the same when they are tidied.

Main results:

* `Text.SameLayout.filter_eq`: such texts are the same but for blanks.
* `Chars.layout_join`: the pieces of a text that has been joined with commas.
* `Text.listItems_eq`: the items of a list are its pieces, but for those that are blank.
-/

namespace SqlGateway

namespace Chars

/-! ## Tidied text -/

/-- The text trimmed and squeezed. -/
def tidied (cs : List Char) : List Char :=
  squeezeGaps (trim cs)

theorem tidied_tidied (cs : List Char) : tidied (tidied cs) = tidied cs :=
  (tidy_squeezeGaps_trim cs).squeezeGaps_trim

theorem tidied_trim (cs : List Char) : tidied (trim cs) = tidied cs := by
  rw [tidied, trim_trim]
  rfl

section

variable {keep : Char → Bool} (hkeep : ∀ c, isBlank c = true → keep c = false)
include hkeep

theorem filter_trim (cs : List Char) : (trim cs).filter keep = cs.filter keep := by
  have hdrop (cs : List Char) : (cs.dropWhile isBlank).filter keep = cs.filter keep := by
    induction cs with
    | nil => rfl
    | cons c cs ih =>
      rw [List.dropWhile_cons]
      split
      · next hc =>
        rw [ih, List.filter_cons_of_neg (Bool.eq_false_iff.1 (hkeep c hc))]
      · rfl
  unfold trim trimEnd trimStart
  rw [List.filter_reverse, hdrop, List.filter_reverse, List.reverse_reverse, hdrop]

theorem filter_squeezeGapsFrom (inGap : Bool) (cs : List Char) :
    (squeezeGapsFrom inGap cs).filter keep = cs.filter keep := by
  have hgap {c : Char} (hc : c = ' ' ∨ c = '\t') : ¬keep c = true := by
    refine Bool.eq_false_iff.1 (hkeep c ?_)
    rcases hc with rfl | rfl <;> decide
  induction cs generalizing inGap with
  | nil => rfl
  | cons c cs ih =>
    rw [squeezeGapsFrom]
    split
    · next hc =>
      rw [List.filter_cons_of_neg (hgap hc)]
      split
      · exact ih true
      · rw [List.filter_cons_of_neg (hgap (.inl rfl))]
        exact ih true
    · rw [List.filter_cons, List.filter_cons, ih]

/-- Tidying a text touches nothing but blanks. -/
theorem filter_tidied (cs : List Char) : (tidied cs).filter keep = cs.filter keep := by
  unfold tidied squeezeGaps
  rw [filter_squeezeGapsFrom hkeep, filter_trim hkeep]

end

/-- A character that is no blank. -/
def isSolid (c : Char) : Bool :=
  !isBlank c

theorem isSolid_of_isBlank (c : Char) (h : isBlank c = true) : isSolid c = false := by
  rw [isSolid, h]
  rfl

theorem mem_tidied_iff {c : Char} (hc : isBlank c = false) {cs : List Char} :
    c ∈ tidied cs ↔ c ∈ cs := by
  have hsolid : isSolid c = true := by
    rw [isSolid, hc]
    rfl
  have hmem (ds : List Char) : c ∈ ds ↔ c ∈ ds.filter isSolid := by
    rw [List.mem_filter, hsolid]
    exact ⟨fun h => ⟨h, rfl⟩, And.left⟩
  rw [hmem, hmem cs, filter_tidied isSolid_of_isBlank]

/-! ## Pieces -/

/-- What has no separator in it belongs to the first piece of what follows. -/
theorem splitOn_append {sep : Char} {lead cs piece : List Char} {pieces : List (List Char)}
    (hlead : sep ∉ lead) (h : splitOn sep cs = piece :: pieces) :
    splitOn sep (lead ++ cs) = (lead ++ piece) :: pieces := by
  induction lead with
  | nil => exact h
  | cons c lead ih =>
    obtain ⟨hc, hlead⟩ := not_or.1 (List.mem_cons.not.1 hlead)
    exact splitOn_cons_of_ne (Ne.symm hc) (ih hlead)

/-- The pieces between commas, each tidied. -/
def layout (cs : List Char) : List (List Char) :=
  (splitOn ',' cs).map tidied

theorem layout_of_no_comma {cs : List Char} (hcomma : ',' ∉ cs) : layout cs = [tidied cs] := by
  rw [layout, splitOn_eq, List.splitOn_eq_singleton hcomma]
  rfl

theorem layout_space_cons (cs : List Char) : layout (' ' :: cs) = layout cs := by
  obtain ⟨piece, pieces, hpieces⟩ := List.exists_cons_of_ne_nil (splitOn_ne_nil ',' cs)
  unfold layout
  rw [splitOn_cons_of_ne (by decide) hpieces, hpieces]
  rfl

/-- A piece in front of a comma is one of its own. -/
theorem layout_append_comma {cs : List Char} (hcomma : ',' ∉ cs) (rest : List Char) :
    layout (cs ++ ',' :: rest) = tidied cs :: layout rest := by
  unfold layout
  rw [splitOn_append hcomma (splitOn_cons_self ',' rest), List.append_nil]
  rfl

/-- Parts without commas are the pieces of what is joined from them. -/
theorem layout_join {parts : List String} (hne : parts ≠ [])
    (hcomma : ∀ part ∈ parts, ',' ∉ part.toList) :
    layout (Text.join ", " parts).toList = parts.map fun part => tidied part.toList := by
  unfold Text.join
  induction parts with
  | nil => exact absurd rfl hne
  | cons part parts ih =>
    obtain ⟨hpart, hparts⟩ := List.forall_mem_cons.1 hcomma
    cases parts with
    | nil =>
      rw [String.intercalate_singleton]
      exact layout_of_no_comma hpart
    | cons next rest =>
      have hrest := ih (List.cons_ne_nil _ _) hparts
      rw [String.intercalate_cons_cons, String.toList_append, String.toList_append,
        show ", ".toList = [',', ' '] from rfl, List.append_assoc, List.cons_append,
        List.cons_append, List.nil_append, layout_append_comma hpart, layout_space_cons, hrest]
      rfl

end Chars

namespace Text

/-- The texts are the same but for blanks at the ends of their pieces and longer gaps in them. -/
def SameLayout (s t : String) : Prop :=
  Chars.layout s.toList = Chars.layout t.toList

instance (s t : String) : Decidable (SameLayout s t) :=
  inferInstanceAs (Decidable (_ = _))

/-- But for blanks the texts are the same. -/
theorem SameLayout.filter_eq {s t : String} (h : SameLayout s t) :
    s.toList.filter Chars.isSolid = t.toList.filter Chars.isSolid := by
  have hpieces (cs : List Char) : Chars.splitOn ',' (cs.filter Chars.isSolid) =
      (Chars.layout cs).map (List.filter Chars.isSolid) := by
    rw [← Chars.map_filter_splitOn (by decide), Chars.layout, List.map_map]
    exact List.map_congr_left fun piece _ =>
      (Chars.filter_tidied Chars.isSolid_of_isBlank piece).symm
  have hsplit : Chars.splitOn ',' (s.toList.filter Chars.isSolid) =
      Chars.splitOn ',' (t.toList.filter Chars.isSolid) := by
    rw [hpieces, hpieces, show Chars.layout s.toList = Chars.layout t.toList from h]
  rw [← Chars.intercalate_splitOn ',' (s.toList.filter _), hsplit, Chars.intercalate_splitOn]

/-! ## Items -/

/-- The items of a list are its pieces, but for those that are blank. -/
theorem listItems_eq (text : String) : listItems text =
    ((Chars.splitOn ',' text.toList).filter fun piece => !(Chars.trim piece).isEmpty).map
      fun piece => String.ofList (Chars.trim piece) := by
  unfold listItems
  induction Chars.splitOn ',' text.toList with
  | nil => rfl
  | cons piece pieces ih =>
    rw [List.map_cons, List.filterMap_cons, List.filter_cons, ih]
    cases (Chars.trim piece).isEmpty <;> rfl

theorem comma_not_mem_listItems {text item : String} (h : item ∈ listItems text) :
    ',' ∉ item.toList := by
  rw [listItems_eq] at h
  obtain ⟨piece, hpiece, rfl⟩ := List.mem_map.1 h
  rw [String.toList_ofList]
  exact fun hmem => Chars.not_mem_of_mem_splitOn (List.mem_filter.1 hpiece).1
    (Chars.mem_of_mem_trim hmem)

/-- Text without commas is a list of one item. -/
theorem listItems_of_no_comma {text : String} (hcomma : ',' ∉ text.toList)
    (hsome : isBlank text = false) : listItems text = [trim text] := by
  have hleft : (Chars.trim text.toList).isEmpty = false := by
    rw [List.isEmpty_eq_false_iff]
    exact fun hnil => Bool.false_ne_true (hsome.symm.trans (Chars.trim_eq_nil_iff.1 hnil))
  rw [listItems_eq, Chars.splitOn_eq, List.splitOn_eq_singleton hcomma, List.filter_cons, hleft]
  rfl

end Text

end SqlGateway
