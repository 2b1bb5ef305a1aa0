import SqlGateway.Proofs.Query.TrackedAliases
import SqlGateway.Proofs.Text.Layout

/-!
# Function calls in lists of columns

A text with a parenthesis in its first word is an expression, and protection leaves it as it is. But
a list of columns is cut at its commas before that is looked at, and a function call with several
arguments is then no expression any more: its first argument goes with the name of the function and
the parenthesis, and each of the others is a column by itself. Such an argument is left alone if it
has a parenthesis in its own first word; otherwise it gets quotes, up to the parenthesis that closes
the call.

Main definitions:

* `Text.FunctionCall`: a name with arguments in parentheses, perhaps with an alias.
* `ColumnsCall`: the calls that take a list of columns.
* `ColumnsCall.Spares`: a call leaves a piece of its list as it is but for blanks.

Main results:

* `Text.FunctionCall.exists_splitOn`: the first piece of a function call is an expression.
* `Identifier.Rules.tidied_protect_ne`: a piece that gets quotes.
* `ColumnsCall.within_statement`: what a call shows of its list is a stretch of the SELECT.
* `ColumnsCall.sameLayout_entry`, `ColumnsCall.spares_of_sameLayout`: it is the list but for its
  layout exactly if every piece is spared.
* `ColumnsCall.function_calls_kept`: what becomes of a function call.
-/

namespace SqlGateway

/-! ## Function calls -/

/-- Every parenthesis has its partner, where `depth` more are open before the text. -/
def Chars.balancedFrom : Nat → List Char → Bool
  | depth, [] => depth == 0
  | depth, c :: cs =>
    if c = '(' then balancedFrom (depth + 1) cs
    else if c = ')' then depth != 0 && balancedFrom (depth - 1) cs
    else balancedFrom depth cs

/-- The text is a name with balanced arguments in parentheses behind it, perhaps with an alias. -/
structure Text.FunctionCall (name arguments after : List Char) (text : String) : Prop where
  shape : Chars.trim text.toList = name ++ '(' :: (arguments ++ ')' :: after)
  named : name ≠ []
  plain : name.all (fun c => !Chars.isBlank c && c != ',' && c != '(' && c != ')') = true
  balanced : Chars.balancedFrom 0 arguments = true
  apart : after.head?.all Chars.isBlank = true
  single : after.all (fun c => c != ',' && c != '(' && c != ')') = true

namespace Identifier.Rules

theorem mem_tidied_of_mem_cut {c : Char} {text : List Char} (h : c ∈ (cut text).1) :
    c ∈ Chars.tidied text :=
  (List.takeWhile_prefix _).subset h

/-- The first word of a text reaches at least up to the first blank behind where it begins. -/
theorem prefix_cut {before lead : List Char} (hbefore : before.all Chars.isBlank = true)
    (hlead : ∀ c ∈ lead, Chars.isBlank c = false) (hne : lead ≠ []) (rest : List Char) :
    lead <+: (cut (before ++ (lead ++ rest))).1 := by
  have hhead {cs : List Char} : ∀ c, (lead ++ cs).head? = some c → Chars.isBlank c = false := by
    obtain ⟨d, ds, rfl⟩ := List.exists_cons_of_ne_nil hne
    rintro c hc
    obtain rfl : d = c := Option.some.inj hc
    exact hlead d (List.mem_cons_self ..)
  have hstart : Chars.trimStart (before ++ (lead ++ rest)) = lead ++ rest := by
    unfold Chars.trimStart
    rw [List.dropWhile_append_of_pos (List.all_eq_true.1 hbefore)]
    exact Chars.trimStart_eq_self hhead
  have hend : ∃ rest', Chars.trimEnd (lead ++ rest) = lead ++ rest' := by
    have hlast : lead.reverse.dropWhile Chars.isBlank = lead.reverse := by
      refine Chars.trimStart_eq_self fun c hc => hlead c ?_
      exact List.mem_reverse.1 (List.mem_of_mem_head? hc)
    unfold Chars.trimEnd
    rw [List.reverse_append, List.dropWhile_append, hlast]
    split
    · exact ⟨[], by rw [List.reverse_reverse, List.append_nil]⟩
    · exact ⟨_, by rw [List.reverse_append, List.reverse_reverse]⟩
  obtain ⟨rest', hrest⟩ := hend
  have hkeep : ∀ c ∈ lead, decide (c ≠ ' ') = true := fun c hc =>
    decide_eq_true fun heq => absurd (hlead c hc) (heq ▸ by decide)
  unfold cut Chars.trim Chars.breakAt
  rw [hstart, hrest, Chars.squeezeGaps_word_append hlead, List.takeWhile_append_of_pos hkeep]
  exact List.prefix_append _ _

end Identifier.Rules

open Identifier.Rules (cut mem_tidied_of_mem_cut)

/-- The first piece of a function call has the parenthesis in its first word. -/
theorem Text.FunctionCall.exists_splitOn {name arguments after : List Char} {text : String}
    (h : FunctionCall name arguments after text) : ∃ first later,
    Chars.splitOn ',' text.toList = first :: later ∧ '(' ∈ (cut first).1 := by
  have hname : ∀ c ∈ name, Chars.isBlank c = false ∧ c ≠ ',' := by
    intro c hc
    have hplain := List.all_eq_true.1 h.plain c hc
    simp only [Bool.and_eq_true, Bool.not_eq_true', bne_iff_ne] at hplain
    exact hplain.1.1
  have hlead : ∀ c ∈ name ++ ['('], Chars.isBlank c = false := by
    intro c hc
    rcases List.mem_append.1 hc with hc | hc
    · exact (hname c hc).1
    · rw [List.mem_singleton.1 hc]
      decide
  -- there are only blanks before what is left when the text is trimmed
  obtain ⟨before, behind, hbefore, htext⟩ : ∃ before behind, before.all Chars.isBlank = true ∧
      text.toList = before ++ (Chars.trim text.toList ++ behind) := by
    obtain ⟨behind, hbehind⟩ : Chars.trim text.toList <+: Chars.trimStart text.toList :=
      List.rdropWhile_prefix _ _
    refine ⟨text.toList.takeWhile Chars.isBlank, behind, ?_, ?_⟩
    · exact List.all_eq_true.2 fun c hc => List.mem_takeWhile_imp hc
    · rw [hbehind]
      exact List.takeWhile_append_dropWhile.symm
  obtain ⟨piece, later, hpieces⟩ := List.exists_cons_of_ne_nil
    (Chars.splitOn_ne_nil ',' (arguments ++ ')' :: after ++ behind))
  have hcomma : ',' ∉ before ++ (name ++ ['(']) := by
    intro hmem
    rcases List.mem_append.1 hmem with hmem | hmem
    · exact absurd (List.all_eq_true.1 hbefore _ hmem) (by decide)
    rcases List.mem_append.1 hmem with hmem | hmem
    · exact (hname _ hmem).2 rfl
    · exact absurd (List.mem_singleton.1 hmem) (by decide)
  refine ⟨before ++ (name ++ ['('] ++ piece), later, ?_, ?_⟩
  · rw [htext, h.shape]
    have hsplit := Chars.splitOn_append hcomma hpieces
    simp only [List.append_assoc, List.cons_append, List.nil_append] at hsplit ⊢
    exact hsplit
  · have hin := Identifier.Rules.prefix_cut hbefore hlead
      (List.append_ne_nil_of_right_ne_nil _ (List.cons_ne_nil _ _)) piece
    exact hin.subset (List.mem_append_right _ (List.mem_cons_self ..))

/-! ## Pieces that are protected -/

namespace Identifier.Rules

variable {r : Rules} {u : Use} {item : String}

/-- An expression stays as it is but for blanks. -/
theorem tidied_protect_of_paren (hparen : '(' ∈ (cut item.toList).1) :
    Chars.tidied (r.protect u item).toList = Chars.tidied item.toList := by
  unfold protect
  rw [String.toList_ofList, protectChars_eq, protectWord, if_pos hparen]
  unfold cut
  rw [Chars.breakAt_append]
  exact Chars.tidied_tidied item.toList

theorem mem_quoteSegments {q : Char} {text : List Char} (hstar : text ≠ ['*']) :
    q ∈ quoteSegments q text := by
  refine List.mem_of_mem_head? ?_
  rw [quoteSegments_eq, if_neg hstar, Chars.head?_squeezeChar]
  split_ifs <;> rfl

/-- A word that is more than stars gets quotes, unless all of it is replaced by a star. -/
theorem quote_mem_protectWord {q : Char} (hquote : r.quote = some q) {word : List Char}
    (hparen : '(' ∉ word) (hclean : q ∉ word) {c : Char} (hc : c ∈ word) (hstar : c ≠ '*')
    (hdot : c ≠ '.') : r.protectWord u true word = ['*'] ∨ q ∈ r.protectWord u true word := by
  have hquoted (text : List Char) : r.quoteChars text = ['*'] ∨ q ∈ r.quoteChars text := by
    unfold quoteChars
    rw [hquote]
    show quoteSegments q text = ['*'] ∨ q ∈ quoteSegments q text
    by_cases htext : text = ['*']
    · exact .inl (by rw [quoteSegments, if_pos htext, htext])
    · exact .inr (mem_quoteSegments htext)
  unfold protectWord
  rw [if_neg hparen]
  split
  · rw [protectPath_eq]
    split
    · -- the character is in a segment, which is quoted because of it
      refine .inr ?_
      rw [← Chars.intercalate_splitOn '.' word] at hc
      obtain ⟨piece, hpiece, hcpiece⟩ := (mem_path hc).resolve_left hdot
      have hsegment : r.strip piece ∈ r.segments word := List.mem_map.2 ⟨piece, hpiece, rfl⟩
      have hcsegment : c ∈ r.strip piece := by
        refine mem_strip.2 ⟨hcpiece, fun heq => hclean ?_⟩
        rw [← Option.some.inj (heq.symm.trans hquote), ← Chars.intercalate_splitOn '.' word]
        exact hc
      have hmore : r.strip piece ≠ ['*'] := fun heq =>
        hstar (List.mem_singleton.1 (heq ▸ hcsegment))
      unfold aliasPath
      refine mem_path_of_mem (List.mem_map.2 ⟨_, hsegment, if_neg hmore⟩) ?_
      unfold quoteChars
      rw [hquote]
      exact mem_quoteSegments hmore
    · exact hquoted _
  · rw [protectName_eq]
    split
    · exact hquoted _
    · next hname => exact .inl (by simpa using hname)

/-- A piece without quotes that is no expression and more than stars does not stay as it is where
identifiers are quoted. -/
theorem tidied_protect_ne {q : Char} (hquote : r.quote = some q) (hq : Chars.isBlank q = false)
    (hquoting : u.quoting.getD r.quoting = true) (hparen : '(' ∉ (cut item.toList).1)
    (hclean : q ∉ item.toList) {c : Char} (hc : c ∈ (cut item.toList).1)
    (hsolid : Chars.isBlank c = false) (hstar : c ≠ '*') (hdot : c ≠ '.') :
    Chars.tidied (r.protect u item).toList ≠ Chars.tidied item.toList := by
  intro heq
  have hword : ∀ d ∈ (cut item.toList).1, Chars.isBlank d = false → d ∈ item.toList := by
    intro d hd hdsolid
    exact (Chars.mem_tidied_iff hdsolid).1 (mem_tidied_of_mem_cut hd)
  have hfilter : (r.protectWord u true (cut item.toList).1).filter Chars.isSolid =
      (cut item.toList).1.filter Chars.isSolid := by
    have hitem : Chars.tidied item.toList = (cut item.toList).1 ++ (cut item.toList).2 :=
      (Chars.breakAt_append ..).symm
    have hsame := congrArg (List.filter Chars.isSolid) heq
    rw [Chars.filter_tidied Chars.isSolid_of_isBlank, hitem, protect, String.toList_ofList,
      protectChars_eq, hquoting, List.filter_append, List.filter_append] at hsame
    exact List.append_cancel_right hsame
  have hmem {d : Char} (hd : Chars.isBlank d = false) {cs : List Char} (h : d ∈ cs) :
      d ∈ cs.filter Chars.isSolid := by
    refine List.mem_filter.2 ⟨h, ?_⟩
    rw [Chars.isSolid, hd]
    rfl
  rcases quote_mem_protectWord (u := u) hquote hparen (fun hmem => hclean (hword q hmem hq)) hc
    hstar hdot with hall | hquoted
  · have hstars := hmem hsolid hc
    rw [← hfilter, hall] at hstars
    exact hstar (List.mem_singleton.1 (List.mem_filter.1 hstars).1)
  · have hin := hmem hq hquoted
    rw [hfilter] at hin
    exact hclean (hword q (List.mem_filter.1 hin).1 hq)

end Identifier.Rules

/-! ## Calls with a list of columns -/

/-- The calls that take a list of columns as one text. -/
inductive ColumnsCall where
  | select (quoting : Option Bool)
  | groupBy
  | orderBy (direction : String)

namespace ColumnsCall

/-- The call with its list. -/
def on (columns : String) : ColumnsCall → ClauseCall
  | select quoting => .select columns quoting
  | groupBy => .groupBy columns
  | orderBy direction => .orderBy columns direction

/-- The call uses its list: a random order needs no columns. -/
def UsesList : ColumnsCall → Prop
  | orderBy direction => OrderDirection.parse? direction ≠ some .random
  | _ => True

/-- The call puts its list into one entry. -/
def isOrder : ColumnsCall → Bool
  | orderBy _ => true
  | _ => false

/-- What a SELECT shows of an item of the list. The select list is protected by the builder that the
statement is compiled from, all else when the call is made. -/
def shown (style : Style) (b final : Builder) (item : String) : ColumnsCall → String
  | select quoting => final.protect style false quoting true item
  | groupBy => b.column style item
  | orderBy _ => b.orderColumn style item

/-- Whether the columns of the call are quoted. -/
def quoting (style : Style) : ColumnsCall → Bool
  | select quoting => quoting.getD style.rules.quoting
  | _ => style.rules.quoting

/-- What a SELECT shows of the list. -/
def entry (style : Style) (b final : Builder) (columns : String) (call : ColumnsCall) : String :=
  Text.join ", " ((Text.listItems columns).map fun item => call.shown style b final item)

/-- A piece of the list is shown, and as it is but for blanks. -/
structure Spares (style : Style) (b final : Builder) (call : ColumnsCall) (piece : List Char) :
    Prop where
  some : Chars.trim piece ≠ []
  same : Chars.tidied (call.shown style b final (String.ofList (Chars.trim piece))).toList =
    Chars.tidied piece

variable {style : Style} {b final : Builder} {call : ColumnsCall} {columns : String}

/-! ### Single pieces -/

/-- An item is protected, unless it is an alias to order by. -/
theorem shown_cases (style : Style) (b final : Builder) (call : ColumnsCall) (item : String) :
    (∃ u : Identifier.Use, call.shown style b final item = style.rules.protect u item ∧
        u.quoting.getD style.rules.quoting = call.quoting style) ∨
      call.isOrder = true ∧ item ∈ b.aliases ∧ call.shown style b final item = item := by
  cases call with
  | select quoting => exact .inl ⟨_, rfl, rfl⟩
  | groupBy => exact .inl ⟨_, rfl, rfl⟩
  | orderBy direction =>
    unfold shown Builder.orderColumn
    dsimp only
    split
    · next halias => exact .inr ⟨rfl, List.contains_iff_mem.1 halias, rfl⟩
    · exact .inl ⟨_, rfl, rfl⟩

theorem cut_trim (cs : List Char) : cut (Chars.trim cs) = cut cs := by
  unfold cut
  rw [Chars.trim_trim]

/-- A piece with a parenthesis in its first word is spared. -/
theorem spares_of_paren {piece : List Char} (hparen : '(' ∈ (cut piece).1) :
    call.Spares style b final piece := by
  refine ⟨fun hnone => ?_, ?_⟩
  · unfold cut at hparen
    rw [hnone] at hparen
    cases hparen
  rcases shown_cases style b final call (String.ofList (Chars.trim piece)) with
    ⟨u, hshown, -⟩ | ⟨-, -, hshown⟩
  · rw [hshown, Identifier.Rules.tidied_protect_of_paren, String.toList_ofList, Chars.tidied_trim]
    rw [String.toList_ofList, cut_trim]
    exact hparen
  · rw [hshown, String.toList_ofList, Chars.tidied_trim]

/-- A piece is not spared where identifiers are quoted, if it has neither quotes nor a parenthesis
in its first word, and something else than stars and dots there. -/
theorem not_spares_of_quoting {q : Char} (hquote : style.rules.quote = some q)
    (hq : Chars.isBlank q = false) (hquoting : call.quoting style = true) {piece : List Char}
    (hparen : '(' ∉ (cut piece).1) (hclean : q ∉ piece) {c : Char} (hc : c ∈ (cut piece).1)
    (hsolid : Chars.isBlank c = false) (hstar : c ≠ '*') (hdot : c ≠ '.')
    (halias : call.isOrder = true → String.ofList (Chars.trim piece) ∉ b.aliases) :
    ¬call.Spares style b final piece := by
  intro hspares
  obtain ⟨u, hshown, hu⟩ : ∃ u : Identifier.Use,
      call.shown style b final (String.ofList (Chars.trim piece)) =
        style.rules.protect u (String.ofList (Chars.trim piece)) ∧
      u.quoting.getD style.rules.quoting = call.quoting style :=
    (shown_cases style b final call _).resolve_right fun h => halias h.1 h.2.1
  have htext : (String.ofList (Chars.trim piece)).toList = Chars.trim piece := String.toList_ofList
  have hne : Chars.tidied (style.rules.protect u (String.ofList (Chars.trim piece))).toList ≠
      Chars.tidied (String.ofList (Chars.trim piece)).toList := by
    refine Identifier.Rules.tidied_protect_ne hquote hq (hu.trans hquoting) ?_ ?_ ?_ hsolid hstar
      hdot
    · rw [htext, cut_trim]
      exact hparen
    · rw [htext]
      exact fun hmem => hclean (Chars.mem_of_mem_trim hmem)
    · rw [htext, cut_trim]
      exact hc
  rw [htext, Chars.tidied_trim, ← hshown] at hne
  exact hne hspares.same

/-! ### All pieces -/

/-- A list whose pieces are all spared is shown but for its layout. -/
theorem sameLayout_entry
    (h : ∀ piece ∈ Chars.splitOn ',' columns.toList, call.Spares style b final piece) :
    Text.SameLayout (call.entry style b final columns) columns := by
  have hitems : Text.listItems columns = (Chars.splitOn ',' columns.toList).map
      fun piece => String.ofList (Chars.trim piece) := by
    rw [Text.listItems_eq, List.filter_eq_self.2 fun piece hpiece => ?_]
    simpa using (h piece hpiece).some
  unfold Text.SameLayout entry
  rw [hitems, List.map_map, Chars.layout_join, List.map_map]
  · exact List.map_congr_left fun piece hpiece => (h piece hpiece).same
  · exact fun hnil => Chars.splitOn_ne_nil _ _ (List.map_eq_nil_iff.1 hnil)
  · intro part hpart hcomma
    obtain ⟨piece, hpiece, rfl⟩ := List.mem_map.1 hpart
    -- a comma would be in the piece as well
    have hblank : Chars.isBlank ',' = false := by decide
    rw [← Chars.mem_tidied_iff hblank] at hcomma
    have hmem : ',' ∈ Chars.tidied piece := (h piece hpiece).same ▸ hcomma
    exact Chars.not_mem_of_mem_splitOn hpiece ((Chars.mem_tidied_iff hblank).1 hmem)

/-- Where no commas are put in, nothing but spared pieces gives the list again. -/
theorem spares_of_sameLayout
    (hcomma : ∀ item ∈ Text.listItems columns, ',' ∉ (call.shown style b final item).toList)
    (hsome : Text.listItems columns ≠ [])
    (h : Text.SameLayout (call.entry style b final columns) columns) :
    ∀ piece ∈ Chars.splitOn ',' columns.toList, call.Spares style b final piece := by
  unfold Text.SameLayout entry at h
  rw [Chars.layout_join (fun hnil => hsome (List.map_eq_nil_iff.1 hnil)) fun part hpart => ?_,
    List.map_map, Text.listItems_eq, List.map_map, Chars.layout] at h
  · -- as many pieces are shown as there are, so none of them is blank
    have hlength := congrArg List.length h
    rw [List.length_map, List.length_map] at hlength
    have hall := List.length_filter_eq_length_iff.1 hlength
    rw [List.filter_eq_self.2 hall] at h
    exact fun piece hpiece => ⟨by simpa using hall piece hpiece, List.map_inj_left.1 h piece hpiece⟩
  · obtain ⟨item, hitem, rfl⟩ := List.mem_map.1 hpart
    exact hcomma item hitem

/-- With clear rules no comma comes in. -/
theorem comma_not_mem_shown (hr : style.rules.Clear) (hquote : style.rules.quote ≠ some ',')
    (htable : ',' ∉ style.rules.tablePrefix.toList) {item : String} (hitem : ',' ∉ item.toList) :
    ',' ∉ (call.shown style b final item).toList := by
  have hpart {part : List Char} (hpart : part ⊆ Chars.tidied item.toList) : ',' ∉ part :=
    fun hmem => hitem ((Chars.mem_tidied_iff (by decide)).1 (hpart hmem))
  rcases shown_cases style b final call item with ⟨u, hshown, -⟩ | ⟨-, -, hshown⟩
  · rw [hshown, Identifier.Rules.protect, String.toList_ofList, Identifier.Rules.protectChars_eq]
    refine fun hmem => (List.mem_append.1 hmem).elim (fun hword => ?_)
      (hpart (List.dropWhile_subset _))
    rcases Identifier.Rules.mem_protectWord hr hword with h | h | h
    · exact hquote h
    · exact htable h
    · exact hpart (List.takeWhile_subset _) h
  · rw [hshown]
    exact hitem

/-! ### In a SELECT -/

/-- Entries that are added to a list stay together if nothing is merged into it. A single entry
stays anyway. -/
theorem infix_of_added {α : Type} {before added : List α} {all merged : List α}
    (hin : before ++ added <+: all) (hmerged : all ⊆ merged)
    (h : added.length = 1 ∨ merged = all) : added <:+: merged := by
  rcases h with hsingle | rfl
  · obtain ⟨x, rfl⟩ := List.length_eq_one_iff.1 hsingle
    refine (List.singleton_infix_iff x _).2 (hmerged (hin.subset ?_))
    exact List.mem_append_right _ (List.mem_cons_self ..)
  · exact (List.suffix_append before added).isInfix.trans hin.isInfix

/-- What a call shows of its list is a stretch of every SELECT that is compiled later, unless a
reset comes in between. -/
theorem within_statement (huses : call.UsesList) {later : List ClauseCall} (hreset : .reset ∉ later)
    (ending : ChainEnd) :
    let made := ClauseCall.run style ((call.on columns).step style b) later
    let final := ending.builder style made
    call.entry style b final.merge columns ≠ "" →
      ((Text.listItems columns).length = 1 ∨ call.isOrder = true ∨ final.snapshot = .empty) →
      Text.Within (call.entry style b final.merge columns) (ending.statement style made) := by
  intro made final hsome hjoined
  have hextends : ((call.on columns).step style b).Extends final :=
    (ClauseCall.extends_run style _ hreset).trans (ending.extends_builder style made)
  have hkept : final.Keeps final.merge := Builder.keeps_merge final
  have hmerged : final.snapshot = .empty → final.merge = final := fun h => if_pos h
  rw [ending.statement_eq]
  have hitems : Text.listItems columns ≠ [] := by
    intro hnone
    unfold entry at hsome
    rw [hnone] at hsome
    exact hsome rfl
  cases call with
  | select quoting =>
    have hlist : ClauseList.select.separator? = some ", " := rfl
    refine Builder.within_stretch hlist ?_ fun hnil => hitems (List.map_eq_nil_iff.1 hnil)
    have hadded : (Text.listItems columns).map (fun text => (⟨text, quoting⟩ : SelectItem)) <:+:
        final.merge.live.select := by
      have hbefore := Builder.live_select b columns quoting ▸ hextends.select
      refine infix_of_added hbefore hkept.select ?_
      rw [List.length_map]
      exact hjoined.imp_right fun h => congrArg (·.live.select) (hmerged (h.resolve_left nofun))
    have hshown := hadded.map fun item : SelectItem =>
      final.merge.protect style false item.quoting true item.text
    rw [List.map_map] at hshown
    exact hshown
  | groupBy =>
    have hlist : ClauseList.groups.separator? = some ", " := rfl
    refine Builder.within_stretch hlist ?_ fun hnil => hitems (List.map_eq_nil_iff.1 hnil)
    refine infix_of_added (Builder.live_groupBy style b columns ▸ hextends.groups) hkept.groups ?_
    rw [List.length_map]
    exact hjoined.imp_right fun h => congrArg (·.live.groups) (hmerged (h.resolve_left nofun))
  | orderBy direction =>
    obtain ⟨more, hmem⟩ := Builder.exists_mem_orders style b huses hsome
    have hentry : entry style b final.merge columns (.orderBy direction) ++ more ∈
        ClauseList.orders.entries style final.merge :=
      (hextends.keeps.trans hkept).orders hmem
    have hstretch : Text.Within (entry style b final.merge columns (.orderBy direction))
        (entry style b final.merge columns (.orderBy direction) ++ more) :=
      Text.Within.append List.infix_rfl more
    exact hstretch.trans (Builder.within_selectText hentry)

/-! ### Function calls -/

variable {name arguments after : List Char} {text : String}

/-- What a SELECT shows of a function call is not empty. -/
theorem entry_ne_empty (hcall : Text.FunctionCall name arguments after text) (style : Style)
    (b final : Builder) (call : ColumnsCall) : call.entry style b final text ≠ "" := by
  obtain ⟨first, later, hpieces, hparen⟩ := hcall.exists_splitOn
  have hspares : call.Spares style b final first := spares_of_paren hparen
  have hitem : String.ofList (Chars.trim first) ∈ Text.listItems text := by
    rw [Text.listItems_eq, hpieces]
    refine List.mem_map.2 ⟨first, List.mem_filter.2 ⟨List.mem_cons_self .., ?_⟩, rfl⟩
    simpa using hspares.some
  have hshown : Text.isBlank (call.shown style b final (String.ofList (Chars.trim first))) =
      false := by
    have hsolid : Chars.isBlank '(' = false := by decide
    have hmem : '(' ∈ Chars.tidied first := mem_tidied_of_mem_cut hparen
    rw [← hspares.same, Chars.mem_tidied_iff hsolid] at hmem
    unfold Text.isBlank
    exact List.all_eq_false.2 ⟨'(', hmem, Bool.eq_false_iff.1 hsolid⟩
  have hmem : call.shown style b final (String.ofList (Chars.trim first)) ∈
      (Text.listItems text).map fun item => call.shown style b final item :=
    List.mem_map.2 ⟨_, hitem, rfl⟩
  have hin : Text.Within (call.shown style b final (String.ofList (Chars.trim first)))
      (call.entry style b final text) :=
    (Text.stands_join hmem (by decide : Text.Unquoted ", ") (by decide)).within
  exact hin.ne_empty hshown

/-- **Function calls in lists.** What a call shows of a function call is a stretch of every SELECT
that is compiled later without a reset in between; if the function call has a comma and is not to
order by, then the snapshot has to be empty, as merging drops what occurs twice. It is the function
call as it was written, but for its layout, if all pieces behind the first comma are spared, and
otherwise it is not, unless the rules bring in commas. A piece with a parenthesis in its first word
is spared. Where identifiers are quoted, one without quotes and without such a parenthesis is not,
if more than stars and dots are in its first word and it is no alias to order by. -/
theorem function_calls_kept (hcall : Text.FunctionCall name arguments after text) (style : Style)
    (b : Builder) (call : ColumnsCall) (huses : call.UsesList) {later : List ClauseCall}
    (hreset : .reset ∉ later) (ending : ChainEnd) :
    let made := ClauseCall.run style ((call.on text).step style b) later
    let final := ending.builder style made
    let entry := call.entry style b final.merge text
    let pieces := (Chars.splitOn ',' text.toList).tail
    ((',' ∉ text.toList ∨ call.isOrder = true ∨ final.snapshot = .empty) →
        Text.Within entry (ending.statement style made)) ∧
      ((∀ piece ∈ pieces, call.Spares style b final.merge piece) → Text.SameLayout entry text) ∧
      (style.rules.Clear → style.rules.quote ≠ some ',' → ',' ∉ style.rules.tablePrefix.toList →
        Text.SameLayout entry text → ∀ piece ∈ pieces, call.Spares style b final.merge piece) ∧
      (∀ piece ∈ pieces, '(' ∈ (cut piece).1 → call.Spares style b final.merge piece) ∧
      ∀ q, style.rules.quote = some q → Chars.isBlank q = false → call.quoting style = true →
        ∀ piece ∈ pieces, '(' ∉ (cut piece).1 → q ∉ piece →
          (∃ c ∈ (cut piece).1, Chars.isBlank c = false ∧ c ≠ '*' ∧ c ≠ '.') →
          (call.isOrder = true → String.ofList (Chars.trim piece) ∉ b.aliases) →
          ¬call.Spares style b final.merge piece := by
  intro made final entry pieces
  obtain ⟨first, later', hpieces, hparen⟩ := hcall.exists_splitOn
  have hfirst : call.Spares style b final.merge first := spares_of_paren hparen
  have htail : pieces = later' := congrArg List.tail hpieces
  have hsome : Text.isBlank text = false := by
    refine Bool.eq_false_iff.2 fun hblank => ?_
    have hnil := Chars.trim_eq_nil_iff.2 hblank
    rw [hcall.shape] at hnil
    exact hcall.named (List.append_eq_nil_iff.1 hnil).1
  refine ⟨fun hjoined => ?_, fun hall => ?_, fun hr hquote htable hsame => ?_,
    fun piece _ => spares_of_paren,
    fun q hquote hq hquoting piece _ hparen hclean hword halias => ?_⟩
  · refine within_statement huses hreset ending (entry_ne_empty hcall style b _ call) ?_
    refine hjoined.imp_left fun hcomma => ?_
    rw [Text.listItems_of_no_comma hcomma hsome]
    rfl
  · refine sameLayout_entry fun piece hpiece => ?_
    rw [hpieces] at hpiece
    rcases List.mem_cons.1 hpiece with rfl | hpiece
    · exact hfirst
    · exact hall piece (htail ▸ hpiece)
  · have hitems : Text.listItems text ≠ [] := by
      intro hnone
      refine entry_ne_empty hcall style b final.merge call ?_
      unfold ColumnsCall.entry
      rw [hnone]
      rfl
    have hall := spares_of_sameLayout (fun item hitem => comma_not_mem_shown hr hquote htable
      (Text.comma_not_mem_listItems hitem)) hitems hsame
    exact fun piece hpiece => hall piece (List.mem_of_mem_tail hpiece)
  · obtain ⟨c, hc, hsolid, hstar, hdot⟩ := hword
    exact not_spares_of_quoting hquote hq hquoting hparen hclean hc hsolid hstar hdot halias

/-- Quotes are put around identifiers, and a prefix before tables. -/
def callStyle : Style :=
  ⟨.mysql, ⟨"app_", "", some '\u0060', true⟩⟩

/-- The second argument is a function call itself. -/
def nestedCall : String :=
  " COALESCE( t.a ,\tMAX(t.b))  AS n"

def nestedMade : Builder :=
  ClauseCall.run callStyle (((select none).on nestedCall).step callStyle .empty) [.fromTables "t"]

theorem functionCall_nestedCall : Text.FunctionCall "COALESCE".toList " t.a ,\tMAX(t.b)".toList
    "  AS n".toList nestedCall := by
  constructor <;> decide +kernel

/-- The path in the second argument takes neither quotes nor a prefix, and that in the first one
does not, either. -/
theorem function_calls_kept_nested :
    (select none).UsesList ∧ ClauseCall.reset ∉ [.fromTables "t"] ∧
      Text.Within "COALESCE( t.a, MAX(t.b)) AS n"
        (ChainEnd.statement callStyle nestedMade (.get none (some 5) none)) ∧
      Text.SameLayout "COALESCE( t.a, MAX(t.b)) AS n" nestedCall := by
  have hreset : ClauseCall.reset ∉ [.fromTables "t"] := by simp
  obtain ⟨hwithin, hsame, -, hparens, -⟩ := function_calls_kept functionCall_nestedCall callStyle
    .empty (select none) trivial hreset (.get none (some 5) none)
  have hpieces : ∀ piece ∈ (Chars.splitOn ',' nestedCall.toList).tail, '(' ∈ (cut piece).1 := by
    decide +kernel
  have hentry : (select none).entry callStyle .empty
      ((ChainEnd.get none (some 5) none).builder callStyle nestedMade).merge nestedCall =
        "COALESCE( t.a, MAX(t.b)) AS n" := by
    decide +kernel
  exact ⟨trivial, hreset, hentry ▸ hwithin (.inr (.inr (by decide +kernel))),
    hentry ▸ hsame fun piece hpiece => hparens piece hpiece (hpieces piece hpiece)⟩

/-- The second argument has no parenthesis before the one that closes the call. -/
def concatCall : String :=
  "CONCAT(first, last) AS n"

/-- The statement has a quote where the call has none, so no stretch of it is the call. -/
theorem function_call_quoted :
    Text.FunctionCall "CONCAT".toList "first, last".toList " AS n".toList concatCall ∧
      ((Builder.empty.select concatCall none).compile callStyle).1 =
        "SELECT CONCAT(first, `last)` AS n" ∧
      ∀ part, Text.Within part ((Builder.empty.select concatCall none).compile callStyle).1 →
        ¬Text.SameLayout part concatCall := by
  have hstatement : ((Builder.empty.select concatCall none).compile callStyle).1 =
      "SELECT CONCAT(first, `last)` AS n" := by
    decide +kernel
  have hcall :
      Text.FunctionCall "CONCAT".toList "first, last".toList " AS n".toList concatCall := by
    constructor <;> decide +kernel
  refine ⟨hcall, hstatement, fun part hin hsame => ?_⟩
  -- but for blanks the text would be a stretch of the statement
  have hapart : ¬concatCall.toList.filter Chars.isSolid <:+:
      "SELECT CONCAT(first, `last)` AS n".toList.filter Chars.isSolid := by
    decide +kernel
  rw [hstatement] at hin
  have hstretch := List.IsInfix.filter Chars.isSolid hin
  rw [hsame.filter_eq] at hstretch
  exact hapart hstretch

end ColumnsCall

end SqlGateway
