import SqlGateway.Proofs.Sql.SegmentQuotes
import SqlGateway.Proofs.Text.Layout

/-!
# An operator behind a column

A key may have an operator behind its column. With a space or a tab between them the two are cut
apart, the column is protected, and the operator stays behind it. Without one the operator belongs
to the last segment of the column, and stays behind that segment: inside of its quotes, where there
are any.

Main definitions:

* `Chars.isMark`: a blank, or a character of a comparison.
* `KeyOperator`: a comparison behind a column, with the blanks before it.
* `Identifier.Rules.ColumnPath`: the segments of a column, perhaps with names of tables before.

Main results:

* `Identifier.Rules.protectWord_marks`: marks behind a column, when it is protected.
* `Identifier.Rules.protectChars_key`: the operator of a key, when its column is protected.
-/

namespace SqlGateway

/-! ## Marks -/

namespace Chars

/-- A character of a comparison. -/
def isSign (c : Char) : Bool :=
  c = '<' || c = '>' || c = '!' || c = '='

/-- A character by which a key shows that it has an operator. -/
def isMark (c : Char) : Bool :=
  isBlank c || isSign c

theorem isMark_of_isSign {c : Char} (h : isSign c = true) : isMark c = true := by
  rw [isMark, h, Bool.or_true]

theorem isMark_of_isBlank {c : Char} (h : isBlank c = true) : isMark c = true := by
  rw [isMark, h, Bool.true_or]

theorem isBlank_of_not_isMark {c : Char} (h : isMark c = false) : isBlank c = false :=
  (Bool.or_eq_false_iff.1 h).1

theorem isBlank_of_isSign {c : Char} (h : isSign c = true) : isBlank c = false := by
  simp only [isSign, Bool.or_eq_true, decide_eq_true_iff] at h
  rcases h with ((rfl | rfl) | rfl) | rfl <;> decide

theorem mem_trim {c : Char} (hc : isBlank c = false) {cs : List Char} (h : c ∈ cs) :
    c ∈ trim cs := by
  have hsolid : isSolid c = true := by rw [isSolid, hc]; rfl
  have hkept : c ∈ (trim cs).filter isSolid := by
    rw [filter_trim isSolid_of_isBlank]
    exact List.mem_filter.2 ⟨h, hsolid⟩
  exact (List.mem_filter.1 hkept).1

/-- What follows a beginning without marks, when marks come behind the text. -/
theorem afterLead?_append_marks {lead marks : List Char} (hlead : ∀ c ∈ lead, isMark c = false)
    (hmarks : ∀ c ∈ marks, isMark c = true) (cs : List Char) :
    afterLead? lead (cs ++ marks) = (afterLead? lead cs).map (· ++ marks) := by
  induction lead generalizing cs with
  | nil => rfl
  | cons l lead ih =>
    obtain ⟨hl, hlead⟩ := List.forall_mem_cons.1 hlead
    cases cs with
    | nil =>
      cases marks with
      | nil => rfl
      | cons c marks =>
        have hne : l ≠ c := by
          rintro rfl
          rw [hmarks l (List.mem_cons_self ..)] at hl
          cases hl
        exact if_neg hne
    | cons c cs =>
      rw [List.cons_append, afterLead?, afterLead?]
      split
      · exact ih hlead cs
      · rfl

/-- What has no spaces or tabs stays as it is at the end. -/
theorem squeezeGapsFrom_append_solid (inGap : Bool) (cs : List Char) {word : List Char}
    (h : ∀ c ∈ word, isBlank c = false) :
    squeezeGapsFrom inGap (cs ++ word) = squeezeGapsFrom inGap cs ++ word := by
  induction word using List.reverseRecOn with
  | nil => rw [List.append_nil, List.append_nil]
  | append_singleton word c ih =>
    have hc := not_gap_of_isBlank (h c (by simp))
    rw [← List.append_assoc, squeezeGapsFrom_concat inGap _ hc,
      ih fun d hd => h d (List.mem_append_left _ hd), List.append_assoc]

end Chars

/-! ## Operators -/

inductive Comparison where
  | equal
  | differs
  | unequal
  | less
  | atMost
  | greater
  | atLeast
  deriving DecidableEq, Repr

namespace Comparison

def text : Comparison → String
  | equal => "="
  | differs => "!="
  | unequal => "<>"
  | less => "<"
  | atMost => "<="
  | greater => ">"
  | atLeast => ">="

theorem isSign_of_mem_text (op : Comparison) : ∀ c ∈ op.text.toList, Chars.isSign c = true := by
  cases op <;> exact List.all_iff_forall_prop.1 (by decide)

theorem text_toList_ne_nil (op : Comparison) : op.text.toList ≠ [] := by
  cases op <;> decide

end Comparison

/-- A comparison behind a column, with the blanks before it. -/
structure KeyOperator where
  gap : List Char
  blank : ∀ c ∈ gap, Chars.isBlank c = true
  comparison : Comparison

namespace KeyOperator

/-- The operator as it stands in a key. -/
def written (o : KeyOperator) : List Char :=
  o.gap ++ o.comparison.text.toList

/-- The operator behind a column that has been cut off. -/
def shown (o : KeyOperator) : List Char :=
  Chars.squeezeGaps o.gap ++ o.comparison.text.toList

/-- A space or a tab stands behind the column. -/
def Apart (o : KeyOperator) : Prop :=
  o.gap.head? = some ' ' ∨ o.gap.head? = some '\t'

variable (o : KeyOperator)

theorem isBlank_of_mem_squeezeGaps : ∀ c ∈ Chars.squeezeGaps o.gap, Chars.isBlank c = true := by
  intro c hc
  rcases Chars.eq_space_or_mem_of_mem_squeezeGapsFrom hc with rfl | ⟨hmem, -⟩
  · decide
  · exact o.blank c hmem

theorem isMark_of_mem_shown : ∀ c ∈ o.shown, Chars.isMark c = true := by
  intro c hc
  rcases List.mem_append.1 hc with hc | hc
  · exact Chars.isMark_of_isBlank (o.isBlank_of_mem_squeezeGaps c hc)
  · exact Chars.isMark_of_isSign (o.comparison.isSign_of_mem_text c hc)

/-- There is a sign in the operator, and it is left of it when it is shown. -/
theorem exists_sign : ∃ c, Chars.isSign c = true ∧ c ∈ o.written ∧ c ∈ o.shown := by
  obtain ⟨c, cs, hcs⟩ := List.exists_cons_of_ne_nil o.comparison.text_toList_ne_nil
  have hc : c ∈ o.comparison.text.toList := by
    rw [hcs]
    exact List.mem_cons_self ..
  exact ⟨c, o.comparison.isSign_of_mem_text c hc, List.mem_append_right _ hc,
    List.mem_append_right _ hc⟩

theorem squeezeGaps_written : Chars.squeezeGaps o.written = o.shown :=
  Chars.squeezeGapsFrom_append_solid false o.gap fun c hc =>
    Chars.isBlank_of_isSign (o.comparison.isSign_of_mem_text c hc)

/-- What is shown begins with a space exactly if the operator stands apart. -/
theorem head?_shown_iff : o.shown.head? = some ' ' ↔ o.Apart := by
  unfold shown Apart
  cases hgap : o.gap with
  | nil =>
    refine iff_of_false (fun h => ?_) (by simp)
    have hsign := o.comparison.isSign_of_mem_text ' ' (List.mem_of_mem_head? h)
    cases hsign
  | cons c gap =>
    rw [Chars.squeezeGaps, Chars.squeezeGapsFrom, List.head?_cons, Option.some_inj, Option.some_inj]
    split
    · next hc => exact iff_of_true rfl hc
    · next hc => exact iff_of_false (fun h => hc (.inl (Option.some_inj.1 h))) hc

theorem written_ne_nil : o.written ≠ [] :=
  List.append_ne_nil_of_right_ne_nil _ o.comparison.text_toList_ne_nil

theorem getLast?_written {c : Char} (h : o.written.getLast? = some c) :
    Chars.isBlank c = false := by
  rw [written, List.getLast?_append_of_ne_nil _ o.comparison.text_toList_ne_nil] at h
  exact Chars.isBlank_of_isSign (o.comparison.isSign_of_mem_text c (List.mem_of_getLast? h))

end KeyOperator

/-! ## Columns with marks behind them -/

namespace Identifier.Rules

/-- Quote and prefixes show no operator, and none of them is part of what cuts an identifier. -/
structure Signless (r : Rules) : Prop where
  quote : ∀ q, r.quote = some q → q ≠ '.' ∧ Chars.isMark q = false
  tablePrefix : ∀ c ∈ r.tablePrefix.toList,
    c ≠ '.' ∧ c ≠ '*' ∧ r.quote ≠ some c ∧ Chars.isMark c = false
  swapPrefix : ∀ c ∈ r.swapPrefix.toList, Chars.isMark c = false

/-- The segments of a column, the last of them its name. There may be quotes in them, but not
alone. -/
structure ColumnPath (r : Rules) (parts : List (List Char)) : Prop where
  ne_nil : parts ≠ []
  left : ∀ part ∈ parts, r.strip part ≠ []
  clean : ∀ part ∈ parts, ∀ c ∈ part, c ≠ '.' ∧ c ≠ '*' ∧ c ≠ '(' ∧ Chars.isMark c = false

/-- A segment that gets its quotes at both sides. -/
structure Named (r : Rules) (part : List Char) : Prop where
  ne_nil : part ≠ []
  clean : ∀ c ∈ part, c ≠ '.' ∧ c ≠ '*' ∧ r.quote ≠ some c

/-- Such a segment without marks. -/
structure Unmarked (r : Rules) (part : List Char) : Prop extends Named r part where
  unmarked : ∀ c ∈ part, Chars.isMark c = false

/-- What comes at the two sides of a name. -/
def edge (r : Rules) (quoting : Bool) : List Char :=
  if quoting then r.quote.toList else []

def wrap (r : Rules) (quoting : Bool) (name : List Char) : List Char :=
  r.edge quoting ++ (name ++ r.edge quoting)

/-- Identifiers are put in quotes. -/
def Quotes (r : Rules) : Prop :=
  r.quoting = true ∧ r.quote ≠ none

variable {r : Rules}

theorem modify_concat {α : Type} {f : α → α} {xs : List α} {i : Nat} (h : i < xs.length) (x : α) :
    (xs ++ [x]).modify i f = xs.modify i f ++ [x] := by
  induction xs generalizing i with
  | nil => cases h
  | cons y xs ih =>
    cases i with
    | zero => rfl
    | succ i => exact congrArg (y :: ·) (ih (Nat.lt_of_succ_lt_succ h))

/-- A path ends with its last segment. -/
theorem path_concat (parts : List (List Char)) (last : List Char) :
    path (parts ++ [last]) = parts.flatMap (· ++ ['.']) ++ last := by
  induction parts with
  | nil => exact path_singleton last
  | cons part parts ih =>
    rw [List.cons_append, path_cons _ (List.append_ne_nil_of_right_ne_nil _ (List.cons_ne_nil _ _)),
      ih, List.flatMap_cons, List.append_assoc, List.append_assoc]
    rfl

theorem Named.ne_star {part : List Char} (h : r.Named part) : part ≠ ['*'] := by
  rintro rfl
  exact (h.clean '*' (List.mem_singleton_self _)).2.1 rfl

theorem ColumnPath.unmarked_strip {parts : List (List Char)} (hparts : r.ColumnPath parts) :
    ∀ part ∈ parts, r.Unmarked (r.strip part) := by
  intro part hpart
  refine ⟨⟨hparts.left part hpart, fun c hc => ?_⟩, fun c hc => ?_⟩
  · obtain ⟨hmem, hquote⟩ := mem_strip.1 hc
    obtain ⟨hdot, hstar, -, -⟩ := hparts.clean part hpart c hmem
    exact ⟨hdot, hstar, hquote⟩
  · exact (hparts.clean part hpart c (mem_strip.1 hc).1).2.2.2

theorem map_wrap_false (parts : List (List Char)) : parts.map (r.wrap false) = parts :=
  (List.map_congr_left fun part _ => List.append_nil part).trans (List.map_id parts)

section

variable (hr : r.Signless)
include hr

theorem not_isMark_of_mem_edge {quoting : Bool} : ∀ c ∈ r.edge quoting, Chars.isMark c = false := by
  intro c hc
  unfold edge at hc
  split at hc
  · exact (hr.quote c (Option.mem_toList.1 hc)).2
  · cases hc

/-! ### Segments -/

/-- Marks are no part of what cuts an identifier, either. -/
theorem clean_of_isMark {c : Char} (hc : Chars.isMark c = true) :
    c ≠ '.' ∧ c ≠ '*' ∧ c ≠ '(' ∧ r.quote ≠ some c := by
  refine ⟨?_, ?_, ?_, fun hquote => ?_⟩
  · rintro rfl
    cases hc
  · rintro rfl
    cases hc
  · rintro rfl
    cases hc
  · rw [(hr.quote c hquote).2] at hc
    cases hc

theorem strip_append_marks {marks : List Char} (hmarks : ∀ c ∈ marks, Chars.isMark c = true)
    (part : List Char) : r.strip (part ++ marks) = r.strip part ++ marks := by
  have hsame : r.strip marks = marks :=
    strip_eq_self_iff.2 fun c hc => (clean_of_isMark hr (hmarks c hc)).2.2.2
  rw [strip_append, hsame]

theorem Unmarked.append_marks {part marks : List Char} (h : r.Unmarked part)
    (hmarks : ∀ c ∈ marks, Chars.isMark c = true) : r.Named (part ++ marks) where
  ne_nil := List.append_ne_nil_of_left_ne_nil h.ne_nil marks
  clean c hc := by
    rcases List.mem_append.1 hc with hc | hc
    · exact h.clean c hc
    · obtain ⟨hdot, hstar, -, hquote⟩ := clean_of_isMark hr (hmarks c hc)
      exact ⟨hdot, hstar, hquote⟩

/-- A prefix does not reach into marks. -/
theorem prefixed_append_marks {marks : List Char} (hmarks : ∀ c ∈ marks, Chars.isMark c = true)
    (part : List Char) : r.prefixed (part ++ marks) = r.prefixed part ++ marks := by
  have hswap : r.afterSwap? (part ++ marks) = (r.afterSwap? part).map (· ++ marks) := by
    unfold afterSwap?
    split
    · rfl
    · exact Chars.afterLead?_append_marks hr.swapPrefix hmarks part
  have hlead : Chars.startsWith r.tablePrefix.toList (part ++ marks) =
      Chars.startsWith r.tablePrefix.toList part := by
    unfold Chars.startsWith
    rw [Chars.afterLead?_append_marks (fun c hc => (hr.tablePrefix c hc).2.2.2) hmarks,
      Option.isSome_map]
  unfold prefixed
  rw [hswap, hlead]
  cases r.afterSwap? part with
  | some rest => exact (List.append_assoc ..).symm
  | none =>
    show (if _ then _ else _) = (if _ then _ else _) ++ marks
    split
    · rfl
    · exact (List.append_assoc ..).symm

theorem bareName_append_marks {marks : List Char} (hmarks : ∀ c ∈ marks, Chars.isMark c = true)
    (u : Use) (name : List Char) : r.bareName u (name ++ marks) = r.bareName u name ++ marks := by
  have hswap : (r.afterSwap? (name ++ marks)).isSome = (r.afterSwap? name).isSome := by
    unfold afterSwap?
    split
    · rfl
    · rw [Chars.afterLead?_append_marks hr.swapPrefix hmarks, Option.isSome_map]
  unfold bareName
  rw [hswap, prefixed_append_marks hr hmarks]
  split <;> rfl

theorem Unmarked.prefixed (hsome : r.tablePrefix ≠ "") {part : List Char} (h : r.Unmarked part) :
    r.Unmarked (r.prefixed part) where
  ne_nil := by
    obtain ⟨rest, hrest, -⟩ := r.prefixed_eq_append part
    rw [hrest]
    exact List.append_ne_nil_of_left_ne_nil (String.toList_eq_nil_iff.not.2 hsome) rest
  clean c hc := by
    rcases mem_prefixed hc with hc | hc
    · obtain ⟨hdot, hstar, hquote, -⟩ := hr.tablePrefix c hc
      exact ⟨hdot, hstar, hquote⟩
    · exact h.clean c hc
  unmarked c hc := by
    rcases mem_prefixed hc with hc | hc
    · exact (hr.tablePrefix c hc).2.2.2
    · exact h.unmarked c hc

theorem Unmarked.bareName (u : Use) {name : List Char} (h : r.Unmarked name) :
    r.Unmarked (r.bareName u name) := by
  unfold Rules.bareName
  split
  · next hused => exact h.prefixed hr hused.1
  · exact h

/-- The name of a column does not take the prefix, and it does not matter for the prefix of the
segments before it. -/
theorem exists_prefixedParts_concat {u : Use} (hcolumn : u.endsInColumn = true)
    {parts : List (List Char)} (hne : parts ≠ []) (hparts : ∀ part ∈ parts, r.Unmarked part) :
    ∃ parts', (∀ part ∈ parts', r.Unmarked part) ∧
      ∀ name, r.prefixedParts u (parts ++ [name]) = parts' ++ [name] := by
  by_cases hbare : r.tablePrefix = ""
  · exact ⟨parts, hparts, fun name => if_pos hbare⟩
  have hlength := List.length_pos_iff.2 hne
  have hindex : tableIndex u (parts.length + 1) < parts.length := by
    unfold tableIndex
    rw [if_pos hcolumn]
    split
    · omega
    · split <;> omega
  refine ⟨parts.modify (tableIndex u (parts.length + 1)) r.prefixed,
    forall_mem_modify hparts (fun part hpart => (hparts part hpart).prefixed hr hbare) _,
    fun name => ?_⟩
  unfold prefixedParts
  rw [if_neg hbare, List.length_append, List.length_singleton, modify_concat hindex]

/-! ### Quotes -/

theorem quoteChars_path {parts : List (List Char)} (hne : parts ≠ [])
    (hparts : ∀ part ∈ parts, r.Named part) :
    r.quoteChars (path parts) = path (parts.map (r.wrap true)) := by
  unfold quoteChars
  cases hquote : r.quote with
  | none =>
    have hwrap : r.wrap true = id := by
      funext name
      rw [wrap, edge, if_pos rfl, hquote]
      exact List.append_nil name
    rw [hwrap, List.map_id]
  | some q =>
    have hwrap : r.wrap true = fun part => q :: part ++ [q] := by
      funext name
      rw [wrap, edge, if_pos rfl, hquote]
      rfl
    obtain ⟨first, rest, rfl⟩ := List.exists_cons_of_ne_nil hne
    rw [hwrap]
    refine quoteSegments_plain (hr.quote q hquote).1 fun part hpart => ?_
    obtain ⟨hne, hclean⟩ := hparts part hpart
    exact ⟨hne, fun h => (hclean _ h).1 rfl, fun h => (hclean q h).2.2 hquote,
      fun h => (hclean _ h).2.1 rfl⟩

/-- Both forms of a path put the same around each segment. -/
theorem tablePath_eq {parts : List (List Char)} (hne : parts ≠ [])
    (hparts : ∀ part ∈ parts, r.Named part) (quoting : Bool) :
    r.tablePath quoting parts = path (parts.map (r.wrap quoting)) := by
  cases quoting with
  | true => exact quoteChars_path hr hne hparts
  | false =>
    rw [map_wrap_false]
    rfl

theorem quoteChars_named {part : List Char} (h : r.Named part) :
    r.quoteChars part = r.wrap true part := by
  have hpath := quoteChars_path hr (List.cons_ne_nil part []) (List.forall_mem_singleton.2 h)
  rwa [path_singleton, List.map_singleton, path_singleton] at hpath

theorem aliasPath_eq {parts : List (List Char)} (hparts : ∀ part ∈ parts, r.Named part)
    (quoting : Bool) : r.aliasPath quoting parts = path (parts.map (r.wrap quoting)) := by
  cases quoting with
  | true =>
    refine congrArg path (List.map_congr_left fun part hpart => ?_)
    rw [if_neg (hparts part hpart).ne_star]
    exact quoteChars_named hr (hparts part hpart)
  | false =>
    rw [map_wrap_false]
    rfl

/-! ### Words -/

theorem ColumnPath.paren_not_mem {parts : List (List Char)} (hparts : r.ColumnPath parts)
    {marks : List Char} (hmarks : ∀ c ∈ marks, Chars.isMark c = true) :
    '(' ∉ path parts ++ marks := by
  intro hmem
  rcases List.mem_append.1 hmem with hmem | hmem
  · rcases mem_path hmem with h | ⟨part, hpart, hmem⟩
    · cases h
    · exact (hparts.clean part hpart _ hmem).2.2.1 rfl
  · exact (clean_of_isMark hr (hmarks _ hmem)).2.2.1 rfl

theorem ColumnPath.dot_not_mem {parts : List (List Char)} (hparts : r.ColumnPath parts)
    {part marks : List Char} (hpart : part ∈ parts)
    (hmarks : ∀ c ∈ marks, Chars.isMark c = true) : '.' ∉ part ++ marks := by
  intro hmem
  rcases List.mem_append.1 hmem with hmem | hmem
  · exact (hparts.clean part hpart _ hmem).1 rfl
  · exact (clean_of_isMark hr (hmarks _ hmem)).1 rfl

/-- Marks behind a path belong to its last segment. -/
theorem ColumnPath.segments_append_marks {init : List (List Char)} {last : List Char}
    (hparts : r.ColumnPath (init ++ [last])) {marks : List Char}
    (hmarks : ∀ c ∈ marks, Chars.isMark c = true) :
    r.segments (path (init ++ [last]) ++ marks) =
      init.map r.strip ++ [r.strip last ++ marks] := by
  have hword : path (init ++ [last]) ++ marks = path (init ++ [last ++ marks]) := by
    rw [path_concat, path_concat, List.append_assoc]
  have hdot : ∀ part ∈ init ++ [last ++ marks], '.' ∉ part := by
    refine List.forall_mem_append.2 ⟨fun part hpart => ?_, List.forall_mem_singleton.2 ?_⟩
    · have hnone : '.' ∉ part ++ [] :=
        hparts.dot_not_mem hr (List.mem_append_left _ hpart) (List.forall_mem_nil _)
      rwa [List.append_nil] at hnone
    · exact hparts.dot_not_mem hr (List.mem_append_right _ (List.mem_singleton_self last)) hmarks
  rw [segments, hword, Chars.splitOn_eq, path,
    List.splitOn_intercalate '.' hdot (List.append_ne_nil_of_right_ne_nil _ (List.cons_ne_nil _ _)),
    List.map_append, List.map_singleton, strip_append_marks hr hmarks]

/-- A column by itself. -/
theorem protectWord_name {last : List Char} (hparts : r.ColumnPath [last]) (u : Use)
    (quoting : Bool) {marks : List Char} (hmarks : ∀ c ∈ marks, Chars.isMark c = true) :
    r.protectWord u quoting (last ++ marks) =
      r.wrap quoting (r.bareName u (r.strip last) ++ marks) := by
  have hlast := hparts.unmarked_strip last (List.mem_singleton_self last)
  have hparen := hparts.paren_not_mem hr hmarks
  rw [path_singleton] at hparen
  have hdot := hparts.dot_not_mem hr (List.mem_singleton_self last) hmarks
  have hnamed := (hlast.bareName hr u).append_marks hr hmarks
  rw [protectWord, if_neg hparen, if_neg hdot, protectName_eq, strip_append_marks hr hmarks,
    bareName_append_marks hr hmarks]
  cases quoting with
  | true => rw [if_pos ⟨rfl, hnamed.ne_star⟩, quoteChars_named hr hnamed]
  | false =>
    rw [if_neg fun h => Bool.false_ne_true h.1]
    exact (List.append_nil _).symm

/-- A column behind other segments. They are the same whatever marks come behind it. -/
theorem exists_protectPath_segments {first last : List Char} {init : List (List Char)}
    (hparts : r.ColumnPath (first :: init ++ [last])) {u : Use} (hcolumn : u.endsInColumn = true)
    (quoting : Bool) :
    ∃ shown, (∀ part ∈ shown, r.Unmarked part) ∧
      ∀ marks, (∀ c ∈ marks, Chars.isMark c = true) →
        r.protectPath u quoting (path (first :: init ++ [last]) ++ marks) =
          path ((shown ++ [r.strip last ++ marks]).map (r.wrap quoting)) := by
  have hlast := hparts.unmarked_strip last (List.mem_append_right _ (List.mem_singleton_self last))
  have hinit : ∀ part ∈ (first :: init).map r.strip, r.Unmarked part :=
    List.forall_mem_map.2 fun part hpart =>
      hparts.unmarked_strip part (List.mem_append_left _ hpart)
  have hall {shown : List (List Char)} (hshown : ∀ part ∈ shown, r.Unmarked part)
      {marks : List Char} (hmarks : ∀ c ∈ marks, Chars.isMark c = true) :
      ∀ part ∈ shown ++ [r.strip last ++ marks], r.Named part := by
    refine List.forall_mem_append.2 ⟨fun part hpart => (hshown part hpart).toNamed, ?_⟩
    exact List.forall_mem_singleton.2 (hlast.append_marks hr hmarks)
  -- a known alias keeps the path from the prefix
  by_cases halias : String.ofList (r.strip first) ∈ u.aliases
  · refine ⟨_, hinit, fun marks hmarks => ?_⟩
    rw [protectPath_eq, hparts.segments_append_marks hr hmarks]
    exact (if_pos halias).trans (aliasPath_eq hr (hall hinit hmarks) quoting)
  · have hne : (first :: init).map r.strip ≠ [] := List.cons_ne_nil _ _
    obtain ⟨shown, hshown, hprefixed⟩ := exists_prefixedParts_concat hr hcolumn hne hinit
    refine ⟨shown, hshown, fun marks hmarks => ?_⟩
    have hne : shown ++ [r.strip last ++ marks] ≠ [] :=
      List.append_ne_nil_of_right_ne_nil _ (List.cons_ne_nil _ _)
    rw [protectPath_eq, hparts.segments_append_marks hr hmarks, hprefixed]
    exact (if_neg halias).trans (tablePath_eq hr hne (hall hshown hmarks) quoting)

/-- The segments of a protected column, whatever marks come behind it. -/
theorem exists_protectWord_segments {parts : List (List Char)} (hparts : r.ColumnPath parts)
    {u : Use} (hcolumn : u.endsInColumn = true) (quoting : Bool) :
    ∃ shown name, (∀ part ∈ shown ++ [name], r.Unmarked part) ∧
      ∀ marks, (∀ c ∈ marks, Chars.isMark c = true) →
        r.protectWord u quoting (path parts ++ marks) =
          path ((shown ++ [name ++ marks]).map (r.wrap quoting)) := by
  obtain ⟨init, last, rfl⟩ : ∃ init last, parts = init ++ [last] := by
    rcases List.eq_nil_or_concat' parts with hnil | ⟨init, last, hconcat⟩
    · exact absurd hnil hparts.ne_nil
    · exact ⟨init, last, hconcat⟩
  have hlast := hparts.unmarked_strip last (List.mem_append_right _ (List.mem_singleton_self last))
  cases init with
  | nil =>
    refine ⟨[], r.bareName u (r.strip last), List.forall_mem_singleton.2 (hlast.bareName hr u),
      fun marks hmarks => ?_⟩
    rw [List.nil_append, List.nil_append, path_singleton, List.map_singleton, path_singleton]
    exact protectWord_name hr hparts u quoting hmarks
  | cons first init =>
    have hdot (marks : List Char) : '.' ∈ path (first :: init ++ [last]) ++ marks := by
      have hne : init ++ [last] ≠ [] := List.append_ne_nil_of_right_ne_nil _ (List.cons_ne_nil _ _)
      refine List.mem_append_left marks ?_
      rw [List.cons_append, path_cons _ hne]
      exact List.mem_append_right _ (List.mem_cons_self ..)
    obtain ⟨shown, hshown, hpath⟩ := exists_protectPath_segments hr hparts hcolumn quoting
    refine ⟨shown, r.strip last,
      List.forall_mem_append.2 ⟨hshown, List.forall_mem_singleton.2 hlast⟩, fun marks hmarks => ?_⟩
    rw [protectWord, if_neg (hparts.paren_not_mem hr hmarks), if_pos (hdot marks),
      hpath marks hmarks]

/-- Marks behind a column come to stand behind its name, and inside of its quotes. -/
theorem protectWord_marks {parts : List (List Char)} (hparts : r.ColumnPath parts)
    {u : Use} (hcolumn : u.endsInColumn = true) (quoting : Bool) :
    ∃ lead, (∀ c ∈ lead, Chars.isMark c = false) ∧
      ∀ marks, (∀ c ∈ marks, Chars.isMark c = true) →
        r.protectWord u quoting (path parts ++ marks) = lead ++ (marks ++ r.edge quoting) := by
  obtain ⟨shown, name, hunmarked, hword⟩ := exists_protectWord_segments hr hparts hcolumn quoting
  obtain ⟨hshown, hname⟩ := List.forall_mem_append.1 hunmarked
  refine ⟨(shown.map (r.wrap quoting)).flatMap (· ++ ['.']) ++ (r.edge quoting ++ name), ?_,
    fun marks hmarks => ?_⟩
  · have hedge : ∀ c ∈ r.edge quoting, Chars.isMark c = false := not_isMark_of_mem_edge hr
    refine List.forall_mem_append.2 ⟨fun c hc => ?_, List.forall_mem_append.2 ⟨hedge, ?_⟩⟩
    · obtain ⟨wrapped, hwrapped, hc⟩ := List.mem_flatMap.1 hc
      obtain ⟨part, hpart, rfl⟩ := List.mem_map.1 hwrapped
      rcases List.mem_append.1 hc with hc | hc
      · rcases List.mem_append.1 hc with hc | hc
        · exact hedge c hc
        rcases List.mem_append.1 hc with hc | hc
        · exact (hshown part hpart).unmarked c hc
        · exact hedge c hc
      · rw [List.mem_singleton.1 hc]
        rfl
    · exact (List.forall_mem_singleton.1 hname).unmarked
  · rw [hword marks hmarks, List.map_append, List.map_singleton, path_concat, wrap]
    simp only [List.append_assoc]

end

end Identifier.Rules

/-! ## Keys -/

namespace KeyOperator

/-- What a key has behind its column. -/
def behind : Option KeyOperator → List Char
  | none => []
  | some o => o.written

/-- What is shown of it. -/
def shownBehind : Option KeyOperator → List Char
  | none => []
  | some o => o.shown

theorem isMark_of_mem_shownBehind (o? : Option KeyOperator) :
    ∀ c ∈ shownBehind o?, Chars.isMark c = true := by
  cases o? with
  | none => exact nofun
  | some o => exact o.isMark_of_mem_shown

end KeyOperator

namespace Identifier.Rules

open KeyOperator (behind shownBehind)

variable {r : Rules} {parts : List (List Char)}

theorem ColumnPath.not_isMark (hparts : r.ColumnPath parts) :
    ∀ c ∈ path parts, Chars.isMark c = false := by
  intro c hc
  rcases mem_path hc with rfl | ⟨part, hpart, hc⟩
  · rfl
  · exact (hparts.clean part hpart c hc).2.2.2

theorem ColumnPath.path_ne_nil (hparts : r.ColumnPath parts) : path parts ≠ [] := by
  obtain ⟨part, rest, rfl⟩ := List.exists_cons_of_ne_nil hparts.ne_nil
  have hpart := hparts.left part (List.mem_cons_self ..)
  obtain ⟨c, cs, hcs⟩ := List.exists_cons_of_ne_nil hpart
  have hc : c ∈ r.strip part := by
    rw [hcs]
    exact List.mem_cons_self ..
  exact List.ne_nil_of_mem (mem_path_of_mem (List.mem_cons_self ..) (mem_strip.1 hc).1)

/-- A key is cut at the first space or tab behind its column. -/
theorem cut_key (hparts : r.ColumnPath parts) (o? : Option KeyOperator) :
    ∃ near far, near ++ far = shownBehind o? ∧ (near = [] ↔ ∀ o, o? = some o → o.Apart) ∧
      cut (path parts ++ behind o?) = (path parts ++ near, far) := by
  have hsolid : ∀ c ∈ path parts, Chars.isBlank c = false := fun c hc =>
    Chars.isBlank_of_not_isMark (hparts.not_isMark c hc)
  have htrim : Chars.trim (path parts ++ behind o?) = path parts ++ behind o? := by
    have hfirst : ∀ c, (path parts ++ behind o?).head? = some c → Chars.isBlank c = false := by
      intro c hc
      rw [List.head?_append_of_ne_nil _ hparts.path_ne_nil] at hc
      exact hsolid c (List.mem_of_mem_head? hc)
    have hlast : ∀ c, (path parts ++ behind o?).getLast? = some c → Chars.isBlank c = false := by
      intro c hc
      cases o? with
      | none =>
        rw [behind, List.append_nil] at hc
        exact hsolid c (List.mem_of_getLast? hc)
      | some o =>
        rw [behind, List.getLast?_append_of_ne_nil _ o.written_ne_nil] at hc
        exact o.getLast?_written hc
    rw [Chars.trim, Chars.trimStart_eq_self hfirst, Chars.trimEnd_eq_self hlast]
  have hsqueeze : Chars.squeezeGaps (path parts ++ behind o?) = path parts ++ shownBehind o? := by
    rw [Chars.squeezeGaps_word_append hsolid]
    cases o? with
    | none => rfl
    | some o => exact congrArg (path parts ++ ·) o.squeezeGaps_written
  have hspace : ∀ c ∈ path parts, decide (c ≠ ' ') = true := by
    intro c hc
    refine decide_eq_true fun heq => ?_
    rw [heq] at hc
    cases hsolid ' ' hc
  refine ⟨(Chars.breakAt ' ' (shownBehind o?)).1, (Chars.breakAt ' ' (shownBehind o?)).2,
    Chars.breakAt_append .., ?_, ?_⟩
  · cases o? with
    | none => exact iff_of_true rfl fun o ho => absurd ho.symm (Option.some_ne_none o)
    | some o =>
      have hhead : (Chars.breakAt ' ' o.shown).1 = [] ↔ o.shown.head? = some ' ' := by
        obtain ⟨c, hc, -, hmem⟩ := o.exists_sign
        obtain ⟨d, ds, hds⟩ := List.exists_cons_of_ne_nil (List.ne_nil_of_mem hmem)
        rw [hds]
        simp [Chars.breakAt, List.takeWhile_cons]
      exact hhead.trans (o.head?_shown_iff.trans (by simp))
  · rw [cut, htrim, hsqueeze]
    unfold Chars.breakAt
    rw [List.takeWhile_append_of_pos hspace, List.dropWhile_append_of_pos hspace]

/-- **The operator of a key in its protected column.** What is cut off stands behind the column, and
what is not stands behind its name, inside of the quotes. -/
theorem protectChars_key (hr : r.Signless) (hparts : r.ColumnPath parts) {u : Use}
    (hcolumn : u.endsInColumn = true) :
    ∃ lead, (∀ c ∈ lead, Chars.isMark c = false) ∧
      r.protectChars u (path parts) = lead ++ r.edge (u.quoting.getD r.quoting) ∧
      ∀ o?, ∃ near far, near ++ far = shownBehind o? ∧
        (near = [] ↔ ∀ o, o? = some o → o.Apart) ∧
        r.protectChars u (path parts ++ behind o?) =
          lead ++ (near ++ (r.edge (u.quoting.getD r.quoting) ++ far)) := by
  obtain ⟨lead, hlead, hword⟩ := protectWord_marks hr hparts hcolumn (u.quoting.getD r.quoting)
  have hkey (o? : Option KeyOperator) : ∃ near far, near ++ far = shownBehind o? ∧
      (near = [] ↔ ∀ o, o? = some o → o.Apart) ∧
      r.protectChars u (path parts ++ behind o?) =
        lead ++ (near ++ (r.edge (u.quoting.getD r.quoting) ++ far)) := by
    obtain ⟨near, far, happend, hnear, hcut⟩ := cut_key hparts o?
    have hmarks : ∀ c ∈ near, Chars.isMark c = true := fun c hc =>
      KeyOperator.isMark_of_mem_shownBehind o? c (happend ▸ List.mem_append_left far hc)
    refine ⟨near, far, happend, hnear, ?_⟩
    rw [protectChars_eq, hcut, hword near hmarks, List.append_assoc, List.append_assoc]
  refine ⟨lead, hlead, ?_, hkey⟩
  obtain ⟨near, far, happend, -, hnone⟩ := hkey none
  obtain ⟨rfl, rfl⟩ := List.append_eq_nil_iff.1 happend
  rwa [behind, List.append_nil, List.nil_append, List.append_nil] at hnone

end Identifier.Rules

end SqlGateway
