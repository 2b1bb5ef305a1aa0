import Mathlib.Data.List.Infix
import SqlGateway.Proofs.Query.Additions
import SqlGateway.Proofs.Query.Standing
import SqlGateway.Proofs.Sql.Protection

/-!
# References to aliases

A table expression may introduce an alias, and a column that is referred to by the alias must not
take the table prefix. Most clauses protect their columns when they are added, so they know the
aliases that have been introduced so far; the select list is protected when the statement is
compiled, and so knows them all. Clause calls only add, so what was introduced stays known, and what
was added is shown, up to the end of the chain.

Main definitions:

* `Identifier.Rules.PathOf`: an item that is a path with a given name in front.
* `Identifier.Rules.Unprefixed`: the forms of such an item that have no prefix.
* `ClauseCall.references`: the columns that a call refers to, and where the clause has them.
* `ChainEnd`: the calls that compile a chain to a SELECT.

Main results:

* `ClauseCall.shownIn_entries`: what a call makes of a reference to an alias that it knows.
* `Builder.within_stretch`: entries that follow each other are part of the SELECT as they are joined.
* `ClauseCall.references_unprefixed`: references to aliases in a SELECT.
-/

namespace SqlGateway

/-! ## Paths that begin with an alias -/

namespace Identifier.Rules

/-- The first word of the item is a path whose first segment, quotes aside, is the name. -/
structure PathOf (r : Rules) (name item : String) : Prop where
  paren : '(' ∉ (cut item.toList).1
  segments : ∃ column rest, r.segments (cut item.toList).1 = name.toList :: column :: rest

/-- The item as it is, or its segments without a prefix, in quotes or not. -/
def Unprefixed (r : Rules) (item shown : String) : Prop :=
  shown = item ∨ ∃ quoting,
    shown = String.ofList (r.aliasPath quoting (r.segments (cut item.toList).1))

variable {r : Rules} {name item : String}

theorem PathOf.dot_mem (h : r.PathOf name item) : '.' ∈ (cut item.toList).1 := by
  obtain ⟨column, rest, hsegments⟩ := h.segments
  rw [← two_le_length_segments_iff (r := r), hsegments]
  exact Nat.le_add_left 2 rest.length

/-- A path keeps its dots. -/
theorem dot_mem_aliasPath (quoting : Bool) (part next : List Char) (rest : List (List Char)) :
    '.' ∈ r.aliasPath quoting (part :: next :: rest) := by
  unfold aliasPath
  cases quoting <;>
    exact path_cons_cons .. ▸ List.mem_append_right _ (List.mem_cons_self ..)

theorem Unprefixed.ne_empty {shown : String} (h : r.Unprefixed item shown)
    (hpath : r.PathOf name item) : shown ≠ "" := by
  rintro rfl
  rcases h with rfl | ⟨quoting, hshown⟩
  · exact List.not_mem_nil hpath.dot_mem
  · obtain ⟨column, rest, hsegments⟩ := hpath.segments
    have hdot := dot_mem_aliasPath (r := r) quoting name.toList column rest
    rw [← hsegments, ← String.toList_ofList (l := r.aliasPath _ _), ← hshown] at hdot
    exact List.not_mem_nil hdot

/-- Where the alias is known, protection adds no prefix. -/
theorem protect_of_known {u : Use} (hpath : r.PathOf name item) (hname : name ∈ u.aliases) :
    r.protect u item = String.ofList (r.aliasPath (u.quoting.getD r.quoting)
      (r.segments (cut item.toList).1)) ++ String.ofList (cut item.toList).2 := by
  obtain ⟨column, rest, hsegments⟩ := hpath.segments
  have hknown : String.ofList ((r.segments (cut item.toList).1).headD []) ∈ u.aliases := by
    rw [hsegments, List.headD_cons, String.ofList_toList]
    exact hname
  unfold protect
  rw [protectChars_eq, protectWord, if_neg hpath.paren, if_pos hpath.dot_mem, protectPath_eq,
    if_pos hknown, String.ofList_append]

theorem exists_protect {u : Use} (hpath : r.PathOf name item) (hname : name ∈ u.aliases) :
    ∃ shown after, r.Unprefixed item shown ∧ r.protect u item = shown ++ after :=
  ⟨_, _, .inr ⟨_, rfl⟩, protect_of_known hpath hname⟩

/-- An expression stays as it is from its beginning to a place without spaces or tabs before it. -/
theorem exists_protect_expression (r : Rules) (u : Use) {lead rest : String}
    (hparen : '(' ∈ lead.toList) (hgap : ∀ c ∈ lead.toList, ¬(c = ' ' ∨ c = '\t'))
    (hfirst : ∀ c, lead.toList.head? = some c → Chars.isBlank c = false)
    (hrest : ∃ c ∈ rest.toList, Chars.isBlank c = false) :
    ∃ after, r.protect u (lead ++ rest) = lead ++ after := by
  have htext : Chars.squeezeGaps (Chars.trim (lead ++ rest).toList) =
      lead.toList ++ Chars.squeezeGaps (Chars.trimEnd rest.toList) := by
    rw [String.toList_append, Chars.trim_append (List.ne_nil_of_mem hparen) hfirst hrest,
      Chars.squeezeGaps_append_of_no_gap hgap]
  -- the first word ends at a gap, and so not before the parenthesis
  have hword : '(' ∈ (cut (lead ++ rest).toList).1 := by
    have hkeep : ∀ c ∈ lead.toList, decide (c ≠ ' ') = true := fun c hc =>
      decide_eq_true fun heq => hgap c hc (.inl heq)
    rw [cut, htext, Chars.breakAt, List.takeWhile_append_of_pos hkeep]
    exact List.mem_append_left _ hparen
  refine ⟨String.ofList (Chars.squeezeGaps (Chars.trimEnd rest.toList)), ?_⟩
  unfold protect
  rw [protectChars_eq, protectWord, if_pos hword]
  unfold cut
  rw [Chars.breakAt_append, htext, String.ofList_append, String.ofList_toList]

/-- Besides quotes, the form of a path has what is in the path. -/
theorem mem_of_mem_aliasPath {quoting : Bool} {text : List Char} {c : Char}
    (h : c ∈ r.aliasPath quoting (r.segments text)) : r.quote = some c ∨ c = '.' ∨ c ∈ text := by
  have hsegment {part : List Char} (hpart : part ∈ r.segments text) (hc : c ∈ part) :
      c ∈ text := by
    obtain ⟨piece, hpiece, rfl⟩ := List.mem_map.1 hpart
    have hmem : c ∈ path (Chars.splitOn '.' text) := mem_path_of_mem hpiece (mem_strip.1 hc).1
    rwa [path, Chars.intercalate_splitOn] at hmem
  unfold aliasPath at h
  rcases mem_path h with hdot | ⟨part, hpart, hc⟩
  · exact .inr (.inl hdot)
  by_cases hquote : r.quote = some c
  · exact .inl hquote
  refine .inr (.inr ?_)
  cases quoting with
  | false => exact hsegment hpart hc
  | true =>
    obtain ⟨bare, hbare, rfl⟩ := List.mem_map.1 hpart
    split at hc
    · exact hsegment hbare hc
    · -- what is no quote is still there when the quotes are taken off again
      have hstripped : c ∈ r.strip (r.quoteChars bare) := mem_strip.2 ⟨hc, hquote⟩
      rw [strip_quoteChars] at hstripped
      exact hsegment hbare (mem_strip.1 hstripped).1

/-- The form of a path has no spaces or tabs, unless the quote is one. -/
theorem not_gap_of_mem_aliasPath (hquote : ∀ q, r.quote = some q → Chars.isBlank q = false)
    {quoting : Bool} {c : Char}
    (hc : c ∈ r.aliasPath quoting (r.segments (cut item.toList).1)) : ¬(c = ' ' ∨ c = '\t') := by
  rcases mem_of_mem_aliasPath hc with hq | rfl | hword
  · exact Chars.not_gap_of_isBlank (hquote c hq)
  · decide
  rintro (rfl | rfl)
  · exact Chars.not_mem_breakAt_fst ' ' _ hword
  · have hsqueezed : '\t' ∈ Chars.squeezeGaps (Chars.trim item.toList) :=
      List.takeWhile_subset _ hword
    rcases Chars.eq_space_or_mem_of_mem_squeezeGapsFrom hsqueezed with h | h
    · cases h
    · exact h.2 rfl

end Identifier.Rules

/-! ## Aliases on their way -/

/-- The aliases that the call introduces. -/
def ClauseCall.introduces : ClauseCall → List String
  | fromTables tables => (Text.listItems tables).filterMap Identifier.alias?
  | join table _ _ => (Identifier.alias? table).toList
  | _ => []

namespace Builder

theorem mem_aliases_trackAlias {b : Builder} {table name : String}
    (h : Identifier.alias? table = some name) : name ∈ (b.trackAlias table).live.aliases := by
  unfold trackAlias
  rw [h]
  unfold addAlias add
  dsimp only
  split
  · next hknown => exact List.contains_iff_mem.1 hknown
  · exact List.mem_concat_self

theorem mem_aliases_fromTables (style : Style) (b : Builder) {tables name : String}
    (h : name ∈ (Text.listItems tables).filterMap Identifier.alias?) :
    name ∈ (b.fromTables style tables).live.aliases := by
  obtain ⟨table, htable, halias⟩ := List.mem_filterMap.1 h
  obtain ⟨c, -, hlater⟩ :=
    exists_extends_of_mem (fun b table => b.extends_fromTable style table) htable b
  have hknown : name ∈ (c.fromTable style table).live.aliases :=
    (extends_addTable _ _).keeps.aliases (mem_aliases_trackAlias halias)
  exact hlater.keeps.aliases hknown

end Builder

namespace ClauseCall

theorem mem_aliases_step (style : Style) (b : Builder) {call : ClauseCall} {name : String}
    (h : name ∈ call.introduces) : name ∈ (call.step style b).live.aliases := by
  unfold introduces at h
  split at h
  · exact b.mem_aliases_fromTables style h
  · next table condition kind =>
    have hknown := Builder.mem_aliases_trackAlias (b := b) (Option.mem_toList.1 h)
    exact (Builder.extends_addJoin _ _).keeps.aliases hknown
  · cases h

/-- **What was introduced stays known.** -/
theorem mem_aliases_run (style : Style) (b : Builder) {calls : List ClauseCall}
    (hreset : .reset ∉ calls) {name : String} (h : name ∈ calls.flatMap introduces) :
    name ∈ (run style b calls).live.aliases := by
  induction calls generalizing b with
  | nil => cases h
  | cons call calls ih =>
    have hcalls : .reset ∉ calls := fun hmem => hreset (List.mem_cons_of_mem _ hmem)
    rw [List.flatMap_cons] at h
    rcases List.mem_append.1 h with h | h
    · -- known after its own call, and kept by the later ones
      exact (extends_run style _ hcalls).keeps.aliases (mem_aliases_step style b h)
    · exact ih _ hcalls h

end ClauseCall

/-! ## References -/

/-- The lists of clauses in which columns are referred to. -/
inductive ClauseList where
  | select
  | joins
  | wheres
  | likes
  | groups
  | havings
  | orders
  deriving DecidableEq

namespace ClauseList

/-- The entries of a list as a SELECT shows them, where the snapshot has been merged. -/
def entries (style : Style) (b : Builder) : ClauseList → List String
  | select => b.live.select.map fun item => b.protect style false item.quoting true item.text
  | joins => b.live.joins
  | wheres => Fragment.texts b.live.wheres
  | likes => Fragment.texts b.live.likes
  | groups => b.live.groups
  | havings => Fragment.texts b.live.havings
  | orders => b.live.orders

end ClauseList

/-- A column that a call refers to. -/
structure Reference where
  list : ClauseList
  /-- What the entry of the call has in front of it. -/
  before : String
  item : String
  deriving DecidableEq

/-- The entries show the reference in its place, and without a prefix. -/
def Reference.ShownIn (rules : Identifier.Rules) (ref : Reference) (entries : List String) : Prop :=
  ∃ shown after, rules.Unprefixed ref.item shown ∧ ref.before ++ shown ++ after ∈ entries

namespace Builder

/-- A column to order by. -/
def orderColumn (style : Style) (b : Builder) (column : String) : String :=
  if b.aliases.contains column then column else b.column style column

/-- What a join has in front of its condition. -/
def joinLead (style : Style) (b : Builder) (table kind : String) : String :=
  (match JoinKind.parse? kind with
    | some kind => kind.words ++ " JOIN "
    | none => "JOIN ") ++ b.table style table ++ " ON "

theorem join_eq (style : Style) (b : Builder) (table condition kind : String) :
    b.join style table condition kind = (b.trackAlias table).addJoin
      ((b.trackAlias table).joinLead style table kind ++
        JoinCondition.render style (b.trackAlias table) condition) :=
  rfl

end Builder

/-- Items that are rendered one after the other with commas, each with what comes before it. -/
def listed (render : String → String) (before : String) : List String → List (String × String)
  | [] => []
  | item :: items => (before, item) :: listed render (before ++ render item ++ ", ") items

/-- The column of an aggregate. A blank one is refused. -/
def aggregated (kind : Aggregate) (column : String) : List Reference :=
  if Text.trim column = "" then [] else [⟨.select, kind.word ++ "(", Text.trim column⟩]

/-- The columns that a call refers to. -/
def ClauseCall.references (style : Style) (b : Builder) : ClauseCall → List Reference
  | select columns _ => (Text.listItems columns).map fun column => ⟨.select, "", column⟩
  | selectAggregate kind column _ => aggregated kind column
  | selectAggregateNamed kind column _ =>
    match Aggregate.parse? kind with
    | some kind => aggregated kind column
    | none => []
  | join table condition kind =>
    let b := b.trackAlias table
    let lead := b.joinLead style table kind
    match JoinCondition.split? condition.toList with
    | some c =>
      let left := String.ofList c.left
      [⟨.joins, lead, left⟩,
        ⟨.joins, lead ++ b.column style left ++ String.ofList c.between, String.ofList c.right⟩]
    | none => []
  | whereValue _ key _ => [⟨.wheres, "", key⟩]
  | whereAll pairs => pairs.map fun (key, _) => ⟨.wheres, "", key⟩
  | whereIn _ _ key values =>
    if Text.isBlank key ∨ values.isEmpty then [] else [⟨.wheres, "", key⟩]
  | havingValue _ key _ => [⟨.havings, "", key⟩]
  | like _ _ key _ _ => [⟨.likes, "", key⟩]
  | groupBy columns => (Text.listItems columns).map fun column => ⟨.groups, "", column⟩
  | orderBy columns direction =>
    if OrderDirection.parse? direction = some .random then []
    else (listed (b.orderColumn style) "" (Text.listItems columns)).map
      fun (before, column) => ⟨.orders, before, column⟩
  | _ => []

/-- The builder whose aliases count for what the call refers to: that at the end of the chain for
the select list, and that at the call for all else. A join knows the alias of its own table. -/
def ClauseCall.protector (b final : Builder) : ClauseCall → Builder
  | select .. => final
  | join table .. => b.trackAlias table
  | _ => b

/-! ## What a call makes of a reference -/

namespace Builder

variable {style : Style} {b : Builder} {name item : String}

theorem mem_aliases_of_live (h : name ∈ b.live.aliases) : name ∈ b.aliases := by
  unfold aliases Clauses.mergedLists
  rw [List.mem_eraseDups]
  exact List.mem_append_right _ h

/-- A column is protected with the aliases that the builder knows. -/
theorem exists_column (hpath : style.rules.PathOf name item) (hname : name ∈ b.live.aliases) :
    ∃ shown after, style.rules.Unprefixed item shown ∧ b.column style item = shown ++ after :=
  Identifier.Rules.exists_protect hpath (mem_aliases_of_live hname)

theorem exists_orderColumn (hpath : style.rules.PathOf name item)
    (hname : name ∈ b.live.aliases) : ∃ shown after, style.rules.Unprefixed item shown ∧
      b.orderColumn style item = shown ++ after := by
  unfold orderColumn
  split
  · exact ⟨item, "", .inl rfl, String.append_empty.symm⟩
  · exact exists_column hpath hname

/-- Every condition begins with its column. -/
theorem exists_condition (style : Style) (b : Builder) (key : String) (value : Value) :
    ∃ after, b.condition style key value = b.column style key ++ after := by
  unfold condition
  dsimp only
  split
  · split
    · exact ⟨"", String.append_empty.symm⟩
    · exact ⟨_, rfl⟩
  · split
    · exact ⟨_, String.append_assoc⟩
    · exact ⟨_, by rw [String.append_assoc, String.append_assoc]⟩

theorem exists_membership (style : Style) (b : Builder) (negated : Bool) (key : String)
    (values : List Value) :
    ∃ after, b.membership style negated key values = b.column style key ++ after := by
  unfold membership
  simp only [String.append_assoc]
  exact ⟨_, rfl⟩

theorem exists_likeness (style : Style) (b : Builder) (negated : Bool) (key text : String)
    (side : LikeSide) :
    ∃ after, b.likeness style negated key text side = b.column style key ++ after := by
  unfold likeness
  simp only [String.append_assoc]
  exact ⟨_, rfl⟩

end Builder

/-- The rendered items are in what is joined from them, each behind what comes before it. -/
theorem exists_of_mem_listed {render : String → String} {items : List String}
    {lead before item : String} (h : (before, item) ∈ listed render lead items) :
    ∃ after, lead ++ Text.join ", " (items.map render) = before ++ (render item ++ after) := by
  induction items generalizing lead with
  | nil => cases h
  | cons first items ih =>
    -- a comma comes after the first item, unless it is the last as well
    have hjoin : ∃ more, Text.join ", " ((first :: items).map render) = render first ++ more ∧
        (items ≠ [] → more = ", " ++ Text.join ", " (items.map render)) := by
      unfold Text.join
      cases items with
      | nil => exact ⟨"", String.append_empty.symm, absurd rfl⟩
      | cons next items =>
        rw [List.map_cons, List.map_cons, String.intercalate_cons_cons]
        exact ⟨_, String.append_assoc, fun _ => rfl⟩
    obtain ⟨more, hjoin, hmore⟩ := hjoin
    unfold listed at h
    rcases List.mem_cons.1 h with heq | h
    · cases heq
      exact ⟨more, by rw [hjoin]⟩
    · obtain ⟨after, hafter⟩ := ih h
      have hne : items ≠ [] := by
        rintro rfl
        cases h
      exact ⟨after, by rw [hjoin, hmore hne, ← hafter]; simp only [String.append_assoc]⟩

/-- Entries that are added are shown at the end, but the select list is protected only then. -/
theorem ClauseList.entries_subset {style : Style} {b c : Builder} (h : b.Keeps c)
    (list : ClauseList) (hlist : list ≠ .select) : list.entries style b ⊆ list.entries style c := by
  cases list with
  | select => exact absurd rfl hlist
  | joins => exact h.joins
  | wheres => exact List.map_subset _ h.wheres
  | likes => exact List.map_subset _ h.likes
  | groups => exact h.groups
  | havings => exact List.map_subset _ h.havings
  | orders => exact h.orders

namespace Reference

variable {style : Style} {ref : Reference}

/-- An entry with a column in it that is protected with the alias shows it without a prefix. -/
theorem shownIn_of_column {b : Builder} {name : String} {entries : List String} (after : String)
    (hpath : style.rules.PathOf name ref.item) (hname : name ∈ b.live.aliases)
    (hentry : ref.before ++ (b.column style ref.item ++ after) ∈ entries) :
    ref.ShownIn style.rules entries := by
  obtain ⟨shown, tail, hshown, hcolumn⟩ := Builder.exists_column hpath hname
  refine ⟨shown, tail ++ after, hshown, ?_⟩
  rw [hcolumn] at hentry
  simpa only [String.append_assoc] using hentry

/-- An entry that begins with its column, once it has been added. -/
theorem shownIn_of_begins {b c final : Builder} {name item text : String} {list : ClauseList}
    (hlist : list ≠ .select) (hkeeps : c.Keeps final) (hpath : style.rules.PathOf name item)
    (hname : name ∈ b.live.aliases) (htext : ∃ after, text = b.column style item ++ after)
    (hentry : text ∈ list.entries style c) :
    ShownIn style.rules ⟨list, "", item⟩ (list.entries style final) := by
  obtain ⟨after, rfl⟩ := htext
  refine shownIn_of_column after hpath hname ?_
  rw [String.empty_append]
  exact ClauseList.entries_subset hkeeps list hlist hentry

end Reference

/-! ### The calls -/

namespace Builder

theorem mem_entries_addWhere (style : Style) (b : Builder) (connector : Connector)
    (text : String) : text ∈ ClauseList.wheres.entries style (b.addWhere connector text) :=
  List.mem_map.2 ⟨_, List.mem_concat_self, rfl⟩

theorem mem_entries_addLike (style : Style) (b : Builder) (connector : Connector)
    (text : String) : text ∈ ClauseList.likes.entries style (b.addLike connector text) :=
  List.mem_map.2 ⟨_, List.mem_concat_self, rfl⟩

theorem mem_entries_addHaving (style : Style) (b : Builder) (connector : Connector)
    (text : String) : text ∈ ClauseList.havings.entries style (b.addHaving connector text) :=
  List.mem_map.2 ⟨_, List.mem_concat_self, rfl⟩

theorem mem_entries_addGroup (style : Style) (b : Builder) (column : String) :
    column ∈ ClauseList.groups.entries style (b.addGroup column) :=
  List.mem_concat_self

variable {style : Style} {name : String} {ref : Reference}

/-- A column of the select list is protected at the end. -/
theorem shownIn_select {b final : Builder} {columns : String} {quoting : Option Bool}
    (hpath : style.rules.PathOf name ref.item)
    (href : ref ∈ (ClauseCall.select columns quoting).references style b)
    (hkeeps : (b.select columns quoting).Keeps final) (hname : name ∈ final.live.aliases) :
    ref.ShownIn style.rules (ref.list.entries style final) := by
  obtain ⟨column, hcolumn, rfl⟩ := List.mem_map.1 href
  obtain ⟨c, -, hadd⟩ := exists_extends_of_mem
    (f := fun b text => b.addSelect ⟨text, quoting⟩) (fun b _ => b.extends_addSelect _) hcolumn b
  have hitem : (⟨column, quoting⟩ : SelectItem) ∈ final.live.select :=
    (hadd.keeps.trans hkeeps).select List.mem_concat_self
  obtain ⟨shown, after, hshown, hprotect⟩ := Identifier.Rules.exists_protect
    (u := ⟨final.aliases, false, quoting, true⟩) hpath (mem_aliases_of_live hname)
  refine ⟨shown, after, hshown, ?_⟩
  rw [String.empty_append, ← hprotect]
  exact List.mem_map.2 ⟨_, hitem, rfl⟩

/-- An aggregate is protected when it is added. A second pass leaves it, as it has a parenthesis. -/
theorem exists_protect_aggregate {b : Builder} {item : String}
    (hquote : ∀ q, style.rules.quote = some q → Chars.isBlank q = false)
    (hpath : style.rules.PathOf name item) (hname : name ∈ b.live.aliases) (kind : Aggregate)
    (last : String) (u : Identifier.Use) :
    ∃ shown after, style.rules.Unprefixed item shown ∧
      style.rules.protect u (kind.word ++ "(" ++ b.column style item ++ ") AS " ++ last) =
        kind.word ++ "(" ++ shown ++ after := by
  have hcolumn : b.column style item = _ :=
    Identifier.Rules.protect_of_known hpath (mem_aliases_of_live hname)
  have hgap : ∀ c ∈ style.rules.aliasPath (none.getD style.rules.quoting)
      (style.rules.segments (Identifier.Rules.cut item.toList).1), ¬(c = ' ' ∨ c = '\t') :=
    fun c hc => Identifier.Rules.not_gap_of_mem_aliasPath hquote hc
  generalize htail : String.ofList (Identifier.Rules.cut item.toList).2 = tail at hcolumn
  generalize hform : String.ofList (style.rules.aliasPath _ _) = form at hcolumn
  have hupper : kind.word.toList.all Char.isUpper = true := by
    cases kind <;> decide
  have hword : ∀ c ∈ kind.word.toList, ¬(c = ' ' ∨ c = '\t') := by
    intro c hc
    have hc := List.all_eq_true.1 hupper c hc
    rintro (rfl | rfl) <;> exact absurd hc (by decide)
  have hlead : (kind.word ++ "(" ++ form).toList = kind.word.toList ++ '(' :: form.toList := by
    rw [String.append_assoc, String.toList_append, String.toList_append]
    rfl
  -- neither the word nor the path has a gap, so the second pass takes both into its first word,
  -- where the parenthesis tells it to leave them
  obtain ⟨after, hafter⟩ : ∃ after, style.rules.protect u
      (kind.word ++ "(" ++ form ++ (tail ++ ") AS " ++ last)) =
        kind.word ++ "(" ++ form ++ after := by
    refine style.rules.exists_protect_expression u ?_ ?_ ?_ ⟨')', ?_, by decide⟩
    · rw [hlead]
      exact List.mem_append_right _ (List.mem_cons_self ..)
    · rw [hlead, ← hform, String.toList_ofList]
      intro c hc
      rcases List.mem_append.1 hc with hc | hc
      · exact hword c hc
      rcases List.mem_cons.1 hc with rfl | hc
      · decide
      · exact hgap c hc
    · rw [hlead]
      intro c hc
      cases kind <;> cases hc <;> decide
    · simp
  refine ⟨form, after, .inr ⟨_, hform.symm⟩, ?_⟩
  rw [← hafter, hcolumn]
  simp only [String.append_assoc]

/-- An aggregate that has a reference is not refused. -/
theorem selectAggregate_of_mem {kind : Aggregate} {column : String}
    (href : ref ∈ aggregated kind column) (style : Style) (b : Builder)
    (alias? : Option String) :
    ∃ last, ref = ⟨.select, kind.word ++ "(", Text.trim column⟩ ∧
      b.selectAggregate style kind column alias? =
        .ok (b.addSelect
          ⟨kind.word ++ "(" ++ b.column style (Text.trim column) ++ ") AS " ++ last, none⟩) := by
  unfold aggregated at href
  split at href
  · cases href
  · rename_i hsome
    unfold selectAggregate
    dsimp only
    rw [if_neg hsome]
    exact ⟨_, List.mem_singleton.1 href, rfl⟩

theorem shownIn_selectAggregate {b : Builder} {kind : Aggregate} {column : String}
    (alias? : Option String)
    (hquote : ∀ q, style.rules.quote = some q → Chars.isBlank q = false)
    (hpath : style.rules.PathOf name ref.item) (href : ref ∈ aggregated kind column)
    (hname : name ∈ b.live.aliases) : ∃ c, b.selectAggregate style kind column alias? = .ok c ∧
      ∀ final, c.Keeps final → ref.ShownIn style.rules (ref.list.entries style final) := by
  obtain ⟨last, rfl, hadd⟩ := selectAggregate_of_mem href style b alias?
  refine ⟨_, hadd, fun final hkeeps => ?_⟩
  obtain ⟨shown, after, hshown, hprotect⟩ :=
    exists_protect_aggregate hquote hpath hname kind last ⟨final.aliases, false, none, true⟩
  refine ⟨shown, after, hshown, ?_⟩
  rw [← hprotect]
  exact List.mem_map.2
    ⟨_, hkeeps.select List.mem_concat_self, rfl⟩

/-- Both sides of the condition of a join are protected, with the alias of its table. -/
theorem shownIn_join {b final : Builder} {table condition kind : String}
    (hpath : style.rules.PathOf name ref.item)
    (href : ref ∈ (ClauseCall.join table condition kind).references style b)
    (hkeeps : (b.join style table condition kind).Keeps final)
    (hname : name ∈ (b.trackAlias table).live.aliases) :
    ref.ShownIn style.rules (ref.list.entries style final) := by
  unfold ClauseCall.references at href
  dsimp only at href
  cases hsplit : JoinCondition.split? condition.toList with
  | none =>
    rw [hsplit] at href
    cases href
  | some c =>
    rw [hsplit] at href
    have hentry : (b.trackAlias table).joinLead style table kind ++
        ((b.trackAlias table).column style (String.ofList c.left) ++ String.ofList c.between ++
          (b.trackAlias table).column style (String.ofList c.right)) ∈
        ClauseList.joins.entries style final := by
      refine hkeeps.joins (List.mem_append_right _ (List.mem_singleton.2 ?_))
      rw [JoinCondition.render, hsplit]
      rfl
    rcases List.mem_cons.1 href with rfl | href
    · rw [String.append_assoc] at hentry
      exact Reference.shownIn_of_column _ hpath hname hentry
    · obtain rfl := List.mem_singleton.1 href
      refine Reference.shownIn_of_column "" hpath hname ?_
      rw [String.append_empty]
      simp only [← String.append_assoc] at hentry ⊢
      exact hentry

/-- The columns to order by are put together in one entry, with the direction behind them. -/
theorem exists_mem_orders (style : Style) (b : Builder) {columns direction : String}
    (hnormal : OrderDirection.parse? direction ≠ some .random)
    (hsome : Text.join ", " ((Text.listItems columns).map (b.orderColumn style)) ≠ "") :
    ∃ more, Text.join ", " ((Text.listItems columns).map (b.orderColumn style)) ++ more ∈
      (b.orderBy style columns direction).live.orders := by
  unfold orderBy
  dsimp only
  rw [if_neg hnormal]
  unfold orderColumn at hsome ⊢
  rw [if_neg hsome]
  split
  · exact ⟨_, List.mem_append_right _ (List.mem_singleton.2 (String.append_assoc ..).symm)⟩
  · exact ⟨"", List.mem_append_right _ (List.mem_singleton.2 String.append_empty)⟩

theorem shownIn_orderBy {b final : Builder} {columns direction : String}
    (hpath : style.rules.PathOf name ref.item)
    (href : ref ∈ (ClauseCall.orderBy columns direction).references style b)
    (hkeeps : (b.orderBy style columns direction).Keeps final) (hname : name ∈ b.live.aliases) :
    ref.ShownIn style.rules (ref.list.entries style final) := by
  unfold ClauseCall.references at href
  dsimp only at href
  split at href
  · cases href
  rename_i hnormal
  obtain ⟨⟨before, column⟩, hlisted, rfl⟩ := List.mem_map.1 href
  obtain ⟨after, hjoin⟩ := exists_of_mem_listed hlisted
  obtain ⟨shown, tail, hshown, hcolumn⟩ := exists_orderColumn hpath hname
  rw [String.empty_append, hcolumn] at hjoin
  -- a path is never empty, so the entry is not left out
  have hsome : Text.join ", " ((Text.listItems columns).map (b.orderColumn style)) ≠ "" := by
    intro hnone
    rw [hjoin, String.append_eq_empty_iff, String.append_eq_empty_iff,
      String.append_eq_empty_iff] at hnone
    exact hshown.ne_empty hpath hnone.2.1.1
  obtain ⟨more, hmem⟩ := exists_mem_orders style b hnormal hsome
  refine ⟨shown, tail ++ after ++ more, hshown, ?_⟩
  show before ++ shown ++ (tail ++ after ++ more) ∈ final.live.orders
  rw [hjoin] at hmem
  have hmem := hkeeps.orders hmem
  simpa only [String.append_assoc] using hmem

end Builder

/-- **What a call makes of a reference** to an alias that it knows: the SELECT shows it without a
prefix, in the place that the call has for it. -/
theorem ClauseCall.shownIn_entries {style : Style}
    (hquote : ∀ q, style.rules.quote = some q → Chars.isBlank q = false)
    {b final : Builder} {call : ClauseCall} (hkeeps : (call.step style b).Keeps final)
    {ref : Reference} (href : ref ∈ call.references style b) {name : String}
    (hpath : style.rules.PathOf name ref.item)
    (hname : name ∈ (call.protector b final).live.aliases) :
    ref.ShownIn style.rules (ref.list.entries style final) := by
  have haggregate {kind : Aggregate} {column : String} (alias? : Option String)
      (href : ref ∈ aggregated kind column) (hname : name ∈ b.live.aliases)
      (happly : call.apply style b = b.selectAggregate style kind column alias?) :
      ref.ShownIn style.rules (ref.list.entries style final) := by
    obtain ⟨c, hc, hshown⟩ := Builder.shownIn_selectAggregate alias? hquote hpath href hname
    rw [step_of_apply (happly.trans hc)] at hkeeps
    exact hshown final hkeeps
  cases call with
  | select columns quoting => exact Builder.shownIn_select hpath href hkeeps hname
  | selectAggregate kind column alias? => exact haggregate alias? href hname rfl
  | selectAggregateNamed kind column alias? =>
    unfold references at href
    dsimp only at href
    split at href
    · next parsed hparse =>
      refine haggregate alias? href hname ?_
      show b.selectAggregateNamed style kind column alias? = _
      rw [Builder.selectAggregateNamed, hparse]
    · cases href
  | join table condition kind => exact Builder.shownIn_join hpath href hkeeps hname
  | whereValue connector key value =>
    obtain rfl := List.mem_singleton.1 href
    exact Reference.shownIn_of_begins (by decide) hkeeps hpath hname
      (b.exists_condition style key value) (b.mem_entries_addWhere style connector _)
  | whereAll pairs =>
    obtain ⟨⟨key, value⟩, hpair, rfl⟩ := List.mem_map.1 href
    obtain ⟨c, hc, hadd⟩ := Builder.exists_extends_of_mem
      (f := fun b (p : String × Value) => b.whereValue style .and p.1 p.2)
      (fun b _ => b.extends_addWhere _ _) hpair b
    exact Reference.shownIn_of_begins (by decide) (hadd.keeps.trans hkeeps) hpath
      (hc.keeps.aliases hname) (c.exists_condition style key value)
      (c.mem_entries_addWhere style .and _)
  | whereIn connector negated key values =>
    unfold references at href
    dsimp only at href
    split at href
    · cases href
    rename_i hsome
    obtain rfl := List.mem_singleton.1 href
    have hstep : step style b (.whereIn connector negated key values) =
        b.addWhere connector (b.membership style negated key values) :=
      if_neg hsome
    rw [hstep] at hkeeps
    exact Reference.shownIn_of_begins (by decide) hkeeps hpath hname
      (b.exists_membership style negated key values) (b.mem_entries_addWhere style connector _)
  | havingValue connector key value =>
    obtain rfl := List.mem_singleton.1 href
    exact Reference.shownIn_of_begins (by decide) hkeeps hpath hname
      (b.exists_condition style key value) (b.mem_entries_addHaving style connector _)
  | like connector negated key text side =>
    obtain rfl := List.mem_singleton.1 href
    exact Reference.shownIn_of_begins (by decide) hkeeps hpath hname
      (b.exists_likeness style negated key text side) (b.mem_entries_addLike style connector _)
  | groupBy columns =>
    obtain ⟨column, hcolumn, rfl⟩ := List.mem_map.1 href
    obtain ⟨c, hc, hadd⟩ := Builder.exists_extends_of_mem
      (f := fun b column => b.addGroup (b.column style column))
      (fun b _ => b.extends_addGroup _) hcolumn b
    exact Reference.shownIn_of_begins (by decide) (hadd.keeps.trans hkeeps) hpath
      (hc.keeps.aliases hname) ⟨"", String.append_empty.symm⟩ (c.mem_entries_addGroup style _)
  | orderBy columns direction => exact Builder.shownIn_orderBy hpath href hkeeps hname
  -- the rest refers to no columns
  | fromTables | setDistinct | whereRaw | havingRaw | setLimit | setOffset | set | setRaw =>
    cases href
  | setRecord | queueInserts | queueUpdates | startCache | stopCache | flushCache | reset =>
    cases href

/-! ## Entries in a SELECT -/

namespace Text

/-- What is joined begins with what is joined of the first parts. -/
theorem exists_join_append (sep : String) {parts : List String} (hne : parts ≠ [])
    (more : List String) : ∃ behind, join sep (parts ++ more) = join sep parts ++ behind := by
  unfold join
  induction parts with
  | nil => exact absurd rfl hne
  | cons part parts ih =>
    cases parts with
    | nil =>
      cases more with
      | nil => exact ⟨"", String.append_empty.symm⟩
      | cons next more =>
        rw [String.intercalate_singleton, List.singleton_append, String.intercalate_cons_cons]
        exact ⟨_, String.append_assoc⟩
    | cons next parts =>
      obtain ⟨behind, hbehind⟩ := ih (List.cons_ne_nil _ _)
      refine ⟨behind, ?_⟩
      rw [List.cons_append, List.cons_append, String.intercalate_cons_cons,
        String.intercalate_cons_cons, ← List.cons_append, hbehind, ← String.append_assoc]

/-- A stretch of the parts is a stretch of what is joined from them. -/
theorem within_join {parts all : List String} (hin : parts <:+: all) (hne : parts ≠ [])
    (sep : String) : Within (join sep parts) (join sep all) := by
  obtain ⟨before, after, rfl⟩ := hin
  rw [List.append_assoc]
  induction before with
  | nil =>
    obtain ⟨behind, hbehind⟩ := exists_join_append sep hne after
    rw [List.nil_append, hbehind]
    exact Within.append List.infix_rfl behind
  | cons first before ih =>
    have hrest : before ++ (parts ++ after) ≠ [] :=
      List.append_ne_nil_of_right_ne_nil _ (List.append_ne_nil_of_left_ne_nil hne _)
    obtain ⟨next, rest, hsplit⟩ := List.exists_cons_of_ne_nil hrest
    rw [List.cons_append, hsplit]
    rw [hsplit] at ih
    unfold join at ih ⊢
    rw [String.intercalate_cons_cons]
    exact ih.prepend _

end Text

/-- What stands between the entries of a list, if they are joined as they are. -/
def ClauseList.separator? : ClauseList → Option String
  | select | groups | orders => some ", "
  | joins => some " "
  | wheres | likes | havings => none

namespace Builder

variable {style : Style} {b : Builder} {list : ClauseList}

/-- Entries that follow each other are part of the SELECT as they are joined. -/
theorem within_stretch {sep : String} (hsep : list.separator? = some sep) {parts : List String}
    (hin : parts <:+: list.entries style b.merge) (hne : parts ≠ []) :
    Text.Within (Text.join sep parts) (b.selectText style) := by
  have hjoined {all : List String} (hin : parts <:+: all) (lead : String) :
      Text.Within (Text.join sep parts)
        (if all.isEmpty then "" else lead ++ Text.join sep all) := by
    rw [if_neg fun hnone => hne (List.infix_nil.1 (List.isEmpty_iff.1 hnone ▸ hin))]
    exact (Text.within_join hin hne sep).prepend lead
  have htail (h : Text.Within (Text.join sep parts) (b.merge.selectTail style)) :
      Text.Within (Text.join sep parts) (b.selectText style) := h.prepend _
  -- every list is joined in a part of its own, with the parts of the others around it
  cases list with
  | select =>
    cases hsep
    refine Text.Within.append (Text.Within.prepend ?_ _) _
    have hsome : ¬(b.merge.live.select.map fun item =>
        b.merge.protect style false item.quoting true item.text).isEmpty = true := fun hnone =>
      hne (List.infix_nil.1 (List.isEmpty_iff.1 hnone ▸ hin))
    rw [if_neg hsome]
    exact Text.within_join hin hne _
  | joins =>
    cases hsep
    have hentries := hjoined hin " "
    exact htail (((((hentries.prepend _).append _).append _).append _).append _ |>.append _)
  | groups =>
    cases hsep
    have hentries := hjoined hin " GROUP BY "
    exact htail ((((hentries.prepend _).append _).append _).append _)
  | orders =>
    cases hsep
    have hentries := hjoined hin " ORDER BY "
    exact htail ((hentries.prepend _).append _)
  | wheres | likes | havings => cases hsep

/-- Every entry is part of the SELECT. -/
theorem within_selectText {entry : String} (h : entry ∈ list.entries style b.merge) :
    Text.Within entry (b.selectText style) := by
  have halone {sep : String} (hsep : list.separator? = some sep) :
      Text.Within entry (b.selectText style) := by
    have hin : [entry] <:+: list.entries style b.merge := (List.singleton_infix_iff entry _).2 h
    have hjoined := within_stretch hsep hin (List.cons_ne_nil _ _)
    rwa [Text.join, String.intercalate_singleton] at hjoined
  cases list with
  | select | joins | groups | orders => exact halone rfl
  | wheres =>
    refine (stands_selectText (List.mem_append_left _ ?_)).within
    exact List.mem_append_left _ h
  | likes =>
    refine (stands_selectText (List.mem_append_left _ ?_)).within
    exact List.mem_append_right _ h
  | havings => exact (stands_selectText (List.mem_append_right _ h)).within

end Builder

/-- The calls that compile a chain of clause calls to a SELECT. -/
inductive ChainEnd where
  | compile
  | get (table? : Option String) (limit? offset? : Option Nat)

namespace ChainEnd

/-- The builder with what the call itself adds. -/
def builder (style : Style) (b : Builder) : ChainEnd → Builder
  | compile => b
  | get table? limit? offset? =>
    let b := b.fromArgument style table?
    { b with limit := limit? <|> b.limit, offset := offset? <|> b.offset }

def statement (style : Style) (b : Builder) : ChainEnd → String
  | compile => (b.compile style).1
  | get table? limit? offset? => (b.get style table? limit? offset?).statement

/-- The aliases that the call introduces. -/
def introduces : ChainEnd → List String
  | compile => []
  | get table? .. =>
    match Text.nonBlank? table? with
    | some tables => (Text.listItems tables).filterMap Identifier.alias?
    | none => []

theorem statement_eq (style : Style) (b : Builder) (ending : ChainEnd) :
    ending.statement style b = (ending.builder style b).selectText style := by
  cases ending <;> rfl

theorem extends_builder (style : Style) (b : Builder) (ending : ChainEnd) :
    b.Extends (ending.builder style b) := by
  cases ending with
  | compile => exact .refl b
  | get table? => exact b.extends_fromArgument style table?

theorem mem_aliases_builder (style : Style) (b : Builder) {ending : ChainEnd} {name : String}
    (h : name ∈ ending.introduces) : name ∈ (ending.builder style b).live.aliases := by
  cases ending with
  | compile => cases h
  | get table? limit? offset? =>
    show name ∈ (b.fromArgument style table?).live.aliases
    unfold introduces at h
    unfold Builder.fromArgument
    dsimp only at h
    cases hsome : Text.nonBlank? table? with
    | none =>
      rw [hsome] at h
      cases h
    | some tables =>
      rw [hsome] at h
      exact b.mem_aliases_fromTables style h

end ChainEnd

namespace ClauseCall

/-- The aliases that a call of a chain knows when it protects what it refers to: for the select list
all that the chain introduces, else those that have been introduced, by the call itself too. -/
def aliasesSeen (earlier later : List ClauseCall) (ending : ChainEnd) : ClauseCall → List String
  | select columns quoting =>
    (earlier ++ select columns quoting :: later).flatMap introduces ++ ending.introduces
  | call => earlier.flatMap introduces ++ call.introduces

theorem run_append (style : Style) (b : Builder) (earlier : List ClauseCall) (call : ClauseCall)
    (later : List ClauseCall) : run style b (earlier ++ call :: later) =
      run style (call.step style (run style b earlier)) later :=
  List.foldl_append

/-- The aliases that a call has seen are those that it protects with. -/
theorem mem_aliases_protector (style : Style) (b : Builder) {earlier later : List ClauseCall}
    {call : ClauseCall} (hreset : .reset ∉ earlier ++ call :: later) (ending : ChainEnd)
    {name : String} (hname : name ∈ call.aliasesSeen earlier later ending)
    {final : Builder}
    (hfinal : final = (ending.builder style (run style b (earlier ++ call :: later))).merge)
    {ref : Reference} (href : ref ∈ call.references style (run style b earlier)) :
    name ∈ (call.protector (run style b earlier) final).live.aliases := by
  have hearlier : .reset ∉ earlier := fun hmem => hreset (List.mem_append_left _ hmem)
  have hbefore (h : name ∈ earlier.flatMap introduces) :
      name ∈ (run style b earlier).live.aliases := mem_aliases_run style b hearlier h
  cases call with
  | select columns quoting =>
    show name ∈ final.live.aliases
    rw [hfinal]
    rcases List.mem_append.1 hname with h | h
    · have hknown := mem_aliases_run style b hreset h
      exact ((ending.extends_builder style _).keeps.trans (Builder.keeps_merge _)).aliases hknown
    · exact (Builder.keeps_merge _).aliases (ending.mem_aliases_builder style _ h)
  | join table condition kind =>
    rcases List.mem_append.1 hname with h | h
    · exact (Builder.extends_trackAlias _ table).keeps.aliases (hbefore h)
    · exact Builder.mem_aliases_trackAlias (Option.mem_toList.1 h)
  | fromTables => cases href
  | _ =>
    -- no other call introduces an alias, so it comes from before
    rcases List.mem_append.1 hname with h | h
    · exact hbefore h
    · cases h

/-- **References to aliases** take no prefix, where the alias is known. In a chain of clause calls
without a reset, ended by a call that compiles it, the SELECT shows each column that is referred to
by an alias in the place that the call has for it, and without a prefix, if the alias was introduced
by then; the select list comes last, and so knows every alias of the chain. -/
theorem references_unprefixed (style : Style)
    (hquote : ∀ q, style.rules.quote = some q → Chars.isBlank q = false)
    (b : Builder) (earlier : List ClauseCall) (call : ClauseCall) (later : List ClauseCall)
    (hreset : .reset ∉ earlier ++ call :: later) (ending : ChainEnd) (ref : Reference)
    (href : ref ∈ call.references style (run style b earlier)) (name : String)
    (hpath : style.rules.PathOf name ref.item)
    (hname : name ∈ call.aliasesSeen earlier later ending) :
    let last := run style b (earlier ++ call :: later)
    ∃ shown after, style.rules.Unprefixed ref.item shown ∧
      ref.before ++ shown ++ after ∈ ref.list.entries style (ending.builder style last).merge ∧
      Text.Within (ref.before ++ shown ++ after) (ending.statement style last) := by
  intro last
  have hlater : .reset ∉ later := fun hmem =>
    hreset (List.mem_append_right _ (List.mem_cons_of_mem _ hmem))
  -- between the call and the SELECT nothing is dropped
  have hkeeps : (call.step style (run style b earlier)).Keeps
      (ending.builder style last).merge := by
    have hrun : (call.step style (run style b earlier)).Keeps last := by
      show Builder.Keeps _ (run style b (earlier ++ call :: later))
      rw [run_append]
      exact (extends_run style _ hlater).keeps
    exact (hrun.trans (ending.extends_builder style last).keeps).trans (Builder.keeps_merge _)
  have hknown := mem_aliases_protector style b hreset ending hname rfl href
  obtain ⟨shown, after, hshown, hentry⟩ := shownIn_entries hquote hkeeps href hpath hknown
  refine ⟨shown, after, hshown, hentry, ?_⟩
  rw [ending.statement_eq]
  exact Builder.within_selectText hentry

/-- MySQL with a table prefix. -/
def prefixedStyle : Style :=
  ⟨.mysql, ⟨"app_", "", some '\u0060', true⟩⟩

/-- The last call of the chain introduces the alias that the first one refers to. -/
theorem references_unprefixed_selected :
    let sql := "SELECT `t`.`id` FROM `app_tags` t WHERE `n` = 1"
    let chain : List ClauseCall := [.select "t.id" none, .whereValue .and "n" (.int 1)]
    let ending : ChainEnd := .get (some "tags t") none none
    ending.statement prefixedStyle (run prefixedStyle .empty chain) = sql ∧
      .reset ∉ chain ∧
      ⟨.select, "", "t.id"⟩ ∈ (select "t.id" none).references prefixedStyle .empty ∧
      prefixedStyle.rules.PathOf "t" "t.id" ∧
      "t" ∈ (select "t.id" none).aliasesSeen [] chain.tail ending ∧
      ∃ shown after, prefixedStyle.rules.Unprefixed "t.id" shown ∧
        "" ++ shown ++ after ∈ ClauseList.select.entries prefixedStyle
          (ending.builder prefixedStyle (run prefixedStyle .empty chain)).merge ∧
        Text.Within ("" ++ shown ++ after) sql := by
  intro sql chain ending
  have hsql : ending.statement prefixedStyle (run prefixedStyle .empty chain) = sql := by
    decide +kernel
  have hreset : ClauseCall.reset ∉ chain := by
    simp [chain]
  have href : (⟨.select, "", "t.id"⟩ : Reference) ∈
      (select "t.id" none).references prefixedStyle .empty := by
    decide +kernel
  have hpath : prefixedStyle.rules.PathOf "t" "t.id" :=
    ⟨by decide +kernel, ['i', 'd'], [], by decide +kernel⟩
  have hname : "t" ∈ (select "t.id" none).aliasesSeen [] chain.tail ending := by
    decide +kernel
  have hquote : ∀ q, prefixedStyle.rules.quote = some q → Chars.isBlank q = false := by
    intro q hq
    cases hq
    decide
  have hshown := references_unprefixed prefixedStyle hquote .empty [] (.select "t.id" none)
    chain.tail hreset ending _ href "t" hpath hname
  refine ⟨hsql, hreset, href, hpath, hname, ?_⟩
  rw [← hsql]
  exact hshown

/-- A condition that stands before the table whose alias it refers to takes the prefix. -/
theorem references_unprefixed_forward :
    let chain : List ClauseCall := [.whereValue .and "u.id" (.int 1), .fromTables "users u"]
    let last := run prefixedStyle .empty chain
    ChainEnd.compile.statement prefixedStyle last =
        "SELECT * FROM `app_users` u WHERE `app_u`.`id` = 1" ∧
      .reset ∉ chain ∧ "u" ∈ chain.flatMap introduces ∧
      ⟨.wheres, "", "u.id"⟩ ∈
        (whereValue .and "u.id" (.int 1)).references prefixedStyle .empty ∧
      prefixedStyle.rules.PathOf "u" "u.id" ∧
      ¬∃ shown after, prefixedStyle.rules.Unprefixed "u.id" shown ∧
        "" ++ shown ++ after ∈ ClauseList.wheres.entries prefixedStyle
          (ChainEnd.compile.builder prefixedStyle last).merge := by
  intro chain last
  refine ⟨by decide +kernel, by simp [chain], by decide +kernel, List.mem_singleton.2 rfl,
    ⟨by decide +kernel, ['i', 'd'], [], by decide +kernel⟩, ?_⟩
  rintro ⟨shown, after, hshown, hentry⟩
  have hentries : ClauseList.wheres.entries prefixedStyle
      (ChainEnd.compile.builder prefixedStyle last).merge = ["`app_u`.`id` = 1"] := by
    decide +kernel
  rw [hentries, List.mem_singleton, String.empty_append] at hentry
  -- the entry begins with the prefix, and no form without one does
  have hlead : shown.toList <+: "`app_u`.`id` = 1".toList :=
    ⟨after.toList, by rw [← String.toList_append, hentry]⟩
  have hforms : shown = "u.id" ∨ shown = "`u`.`id`" := by
    rcases hshown with hshown | ⟨quoting, hshown⟩
    · exact .inl hshown
    cases quoting with
    | false => exact .inl (hshown.trans (by decide +kernel))
    | true => exact .inr (hshown.trans (by decide +kernel))
  rcases hforms with rfl | rfl <;> exact absurd hlead (by decide +kernel)

end ClauseCall

end SqlGateway
