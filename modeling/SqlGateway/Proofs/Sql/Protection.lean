import Mathlib.Data.Bool.AllAny
import SqlGateway.Proofs.Sql.Quoting
import SqlGateway.Proofs.Text.Tidy

/-!
# Protecting twice

A caller may hand in an identifier that has been protected already. Quotes are dropped before they
are put on again, and a prefix is not taken twice, so a second pass finds the same segments; but the
prefix can turn the table of a column into a known alias, and a path that begins with an alias
quotes its segments one by one. The two forms of a path differ in stars alone: one leaves every
segment bare that is a star, the other the last one if it begins with a star.

Main definition:

* `Identifier.Rules.Reclassified`: the second pass takes the other form, and there is such a star.

Main results:

* `Identifier.Rules.protectWord_protectWord_iff`: what a second pass does to the first word.
* `Identifier.Rules.protect_idempotent_iff`: protection is idempotent but for such paths.
-/

namespace SqlGateway.Identifier.Rules

/-! ## The two forms of a path -/

/-- The form of a path that begins with an alias. -/
def aliasPath (r : Rules) (quoting : Bool) (parts : List (List Char)) : List Char :=
  path (if quoting then parts.map fun p => if p = ['*'] then p else r.quoteChars p else parts)

/-- The form of all other paths. -/
def tablePath (r : Rules) (quoting : Bool) (parts : List (List Char)) : List Char :=
  if quoting then r.quoteChars (path parts) else path parts

/-- The segments with the prefix where the table is named. -/
def prefixedParts (r : Rules) (u : Use) (parts : List (List Char)) : List (List Char) :=
  if r.tablePrefix = "" then parts else parts.modify (tableIndex u parts.length) r.prefixed

theorem protectPath_eq (r : Rules) (u : Use) (quoting : Bool) (text : List Char) :
    r.protectPath u quoting text =
      if String.ofList ((r.segments text).headD []) ∈ u.aliases then
        r.aliasPath quoting (r.segments text)
      else r.tablePath quoting (r.prefixedParts u (r.segments text)) := by
  unfold protectPath
  simp only [List.contains_iff_mem]
  rfl

/-- What holds of all elements and of the new one holds after a change. -/
theorem forall_mem_modify {α : Type} {P : α → Prop} {f : α → α} {xs : List α}
    (hall : ∀ x ∈ xs, P x) (hnew : ∀ x ∈ xs, P (f x)) (i : Nat) : ∀ x ∈ xs.modify i f, P x := by
  induction xs generalizing i with
  | nil =>
    rw [List.modify_nil]
    exact hall
  | cons x xs ih =>
    obtain ⟨hx, hxs⟩ := List.forall_mem_cons.1 hall
    obtain ⟨hfx, hfxs⟩ := List.forall_mem_cons.1 hnew
    cases i with
    | zero => exact List.forall_mem_cons.2 ⟨hfx, hxs⟩
    | succ i => exact List.forall_mem_cons.2 ⟨hx, ih hxs hfxs i⟩

theorem strip_aliasPath {r : Rules} (hdot : r.quote ≠ some '.') {parts : List (List Char)}
    (hparts : ∀ part ∈ parts, r.strip part = part) (quoting : Bool) :
    r.strip (r.aliasPath quoting parts) = path parts := by
  unfold aliasPath
  rw [strip_path hdot]
  congr 1
  cases quoting with
  | false => exact map_strip hparts
  | true =>
    rw [if_pos rfl, List.map_map]
    refine (List.map_congr_left fun part hpart => ?_).trans (List.map_id parts)
    show r.strip (if part = ['*'] then part else r.quoteChars part) = part
    split
    · exact hparts part hpart
    · rw [strip_quoteChars, hparts part hpart]

theorem strip_tablePath {r : Rules} (hdot : r.quote ≠ some '.') {parts : List (List Char)}
    (hparts : ∀ part ∈ parts, r.strip part = part) (quoting : Bool) :
    r.strip (r.tablePath quoting parts) = path parts := by
  have hpath : r.strip (path parts) = path parts := by
    rw [strip_path hdot, map_strip hparts]
  unfold tablePath
  split
  · rw [strip_quoteChars, hpath]
  · exact hpath

theorem bare_prefixedParts {r : Rules} (hr : r.Clear) {parts : List (List Char)}
    (hparts : r.Bare parts) (u : Use) : r.Bare (r.prefixedParts u parts) := by
  unfold prefixedParts
  split
  · exact hparts
  refine ⟨fun hnil => hparts.ne_nil (List.modify_eq_nil_iff.1 hnil), ?_, ?_⟩
  · refine forall_mem_modify hparts.dot (fun part hpart hdot => ?_) _
    rcases mem_prefixed hdot with hdot | hdot
    · exact (hr.tablePrefix '.' hdot).1 rfl
    · exact hparts.dot part hpart hdot
  · exact forall_mem_modify hparts.strip (fun part hpart =>
      strip_prefixed hr.bare_tablePrefix (hparts.strip part hpart)) _

theorem prefixedParts_prefixedParts {r : Rules} (hr : r.Clear) (u : Use)
    (parts : List (List Char)) :
    r.prefixedParts u (r.prefixedParts u parts) = r.prefixedParts u parts := by
  unfold prefixedParts
  split
  · rfl
  · rw [List.length_modify, List.modify_modify_eq]
    congr 1
    exact funext (prefixed_prefixed hr)

/-! ## Two segments in both forms -/

/-- A second segment that begins with a star gets no quotes, whatever follows the star. -/
theorem quoteSegments_pair {q : Char} {table column : List Char} (hq : q ≠ '.')
    (htable : '.' ∉ table) (hcolumn : '.' ∉ column) (hquote : q ∉ column) :
    quoteSegments q (path [table, column]) =
      quoted q table ++ '.' ::
        (if column.head? = some '*' then column else quoted q column) := by
  have hdot : ∀ part ∈ [table, column], '.' ∉ part := by simp [htable, hcolumn]
  by_cases hhead : column.head? = some '*'
  · rw [if_pos hhead]
    have hlosing : quoteSegments q (path [table, column]) = path [quoted q table, column] := by
      have hstarred := quoteSegments_starred hq [] hdot ⟨column, by simp, hhead⟩
      rwa [Chars.squeezeChar_of_not_mem hquote] at hstarred
    rw [hlosing, path_cons_cons, path_singleton]
  · rw [if_neg hhead, quoteSegments_path hq (List.cons_ne_nil _ _) hdot (by simp) (by simpa),
      List.map_cons, List.map_singleton, path_cons_cons, path_singleton]

section

variable {r : Rules} {q : Char} (hquote : r.quote = some q) {table column : List Char}
  (hparts : r.Bare [table, column])
include hquote hparts

theorem aliasPath_pair : r.aliasPath true [table, column] =
    (if table = ['*'] then table else quoted q table) ++ '.' ::
      (if column = ['*'] then column else quoted q column) := by
  have hname {name : List Char} (hdot : '.' ∉ name) :
      (if name = ['*'] then name else r.quoteChars name) =
        if name = ['*'] then name else quoted q name := by
    unfold quoteChars
    rw [hquote]
    split
    · rfl
    · exact quoteSegments_name hdot ‹_›
  obtain ⟨htable, hcolumn⟩ := List.forall_mem_cons.1 hparts.dot
  have hcolumn := hcolumn column (List.mem_singleton_self column)
  unfold aliasPath
  rw [if_pos rfl, List.map_cons, List.map_singleton, path_cons_cons, path_singleton, hname htable,
    hname hcolumn]

theorem tablePath_pair (hq : q ≠ '.') : r.tablePath true [table, column] =
    quoted q table ++ '.' :: (if column.head? = some '*' then column else quoted q column) := by
  obtain ⟨htable, hcolumn⟩ := List.forall_mem_cons.1 hparts.dot
  have hcolumn := hcolumn column (List.mem_singleton_self column)
  have hqcolumn : q ∉ column := fun hmem =>
    strip_eq_self_iff.1 (hparts.strip column (List.mem_cons_of_mem _ (List.mem_singleton_self _)))
      q hmem hquote
  unfold tablePath quoteChars
  rw [if_pos rfl, hquote]
  exact quoteSegments_pair hq htable hcolumn hqcolumn

end

/-- Of a path with two segments both forms are the same, unless a star comes first or begins a
longer second segment. -/
theorem aliasPath_eq_tablePath_iff {r : Rules} (hr : r.Clear) {table column : List Char}
    (hparts : r.Bare [table, column]) (quoting : Bool) :
    r.aliasPath quoting [table, column] = r.tablePath quoting [table, column] ↔
      ¬(quoting = true ∧ r.quote ≠ none ∧
        (table = ['*'] ∨ column.head? = some '*' ∧ column ≠ ['*'])) := by
  -- the forms differ in quotes alone, and the quotes of each segment depend on its stars
  cases quoting with
  | false => exact iff_of_true rfl fun h => Bool.false_ne_true h.1
  | true =>
    cases hquote : r.quote with
    | none =>
      refine iff_of_true ?_ fun h => h.2.1 rfl
      unfold aliasPath tablePath quoteChars
      rw [hquote]
      simp
    | some q =>
      obtain ⟨hqdot, hqstar, -, -⟩ := hr.quote q hquote
      have hstar : some '*' ≠ some q := fun h => hqstar (Option.some_inj.1 h).symm
      rw [aliasPath_pair hquote hparts, tablePath_pair hquote hparts hqdot]
      by_cases htable : table = ['*']
      · -- the star is bare at the start of one form, and in quotes in the other
        refine iff_of_false (fun h => ?_) fun h => h ⟨rfl, Option.some_ne_none q, .inl htable⟩
        have hheads := congrArg List.head? h
        rw [if_pos htable, htable, List.head?_append, List.head?_append, head?_quoted] at hheads
        exact hstar hheads
      rw [if_neg htable, List.append_right_inj, List.cons_inj_right]
      by_cases hcolumn : column = ['*']
      · rw [hcolumn]
        exact iff_of_true rfl fun h => h.2.2.elim htable fun h => h.2 rfl
      rw [if_neg hcolumn]
      by_cases hhead : column.head? = some '*'
      · refine iff_of_false (fun h => ?_) fun h =>
          h ⟨rfl, Option.some_ne_none q, .inr ⟨hhead, hcolumn⟩⟩
        rw [if_pos hhead] at h
        have hheads := congrArg List.head? h
        rw [head?_quoted, hhead] at hheads
        exact hstar hheads.symm
      · rw [if_neg hhead]
        exact iff_of_true rfl fun h => h.2.2.elim htable fun h => hhead h.1

/-! ## A second pass over a path -/

/-- Quotes fall away, so the second pass sees the segments that the first one has prefixed. -/
theorem segments_protectPath {r : Rules} (hr : r.Clear) (u : Use) (quoting : Bool)
    (text : List Char) :
    r.segments (r.protectPath u quoting text) =
      if String.ofList ((r.segments text).headD []) ∈ u.aliases then r.segments text
      else r.prefixedParts u (r.segments text) := by
  have hbare := r.bare_segments text
  rw [protectPath_eq]
  split
  · exact segments_eq hr.quote_ne_dot hbare (strip_aliasPath hr.quote_ne_dot hbare.strip quoting)
  · have hbare := bare_prefixedParts hr hbare u
    exact segments_eq hr.quote_ne_dot hbare (strip_tablePath hr.quote_ne_dot hbare.strip quoting)

theorem prefixedParts_pair {r : Rules} {u : Use} (hnonempty : r.tablePrefix ≠ "")
    (hcolumn : u.endsInColumn = true) (table column : List Char) :
    r.prefixedParts u [table, column] = [r.prefixed table, column] := by
  unfold prefixedParts tableIndex
  rw [if_neg hnonempty, hcolumn]
  rfl

/-- Only a path of two segments can get an alias in front, where the first names the table. -/
theorem pair_of_prefixedParts {r : Rules} {u : Use} {parts : List (List Char)}
    (hlength : 2 ≤ parts.length) (hunknown : String.ofList (parts.headD []) ∉ u.aliases)
    (hknown : String.ofList ((r.prefixedParts u parts).headD []) ∈ u.aliases) :
    r.tablePrefix ≠ "" ∧ u.endsInColumn = true ∧ ∃ table column, parts = [table, column] := by
  unfold prefixedParts at hknown
  split at hknown
  · exact absurd hknown hunknown
  rename_i hnonempty
  refine ⟨hnonempty, ?_⟩
  match parts, hlength with
  | table :: column :: rest, _ =>
    cases hindex : tableIndex u (table :: column :: rest).length with
    | succ i =>
      rw [hindex] at hknown
      exact absurd hknown hunknown
    | zero =>
      unfold tableIndex at hindex
      rw [List.length_cons, List.length_cons] at hindex
      have hcolumn : u.endsInColumn = true := by
        by_contra hcolumn
        rw [if_neg hcolumn] at hindex
        omega
      have hrest : rest.length = 0 := by
        by_contra hrest
        split at hindex <;> [omega; split at hindex <;> omega]
      exact ⟨hcolumn, table, column, by rw [List.length_eq_zero_iff.1 hrest]⟩

theorem segments_of_not_mem {r : Rules} {text : List Char} (h : '.' ∉ text) :
    r.segments text = [r.strip text] := by
  unfold segments
  rw [Chars.splitOn_eq, List.splitOn_eq_singleton h, List.map_singleton]

theorem two_le_length_segments_iff {r : Rules} {text : List Char} :
    2 ≤ (r.segments text).length ↔ '.' ∈ text := by
  constructor
  · intro hlength
    by_contra hdot
    rw [segments_of_not_mem hdot, List.length_singleton] at hlength
    omega
  · intro hdot
    unfold segments
    rw [List.length_map]
    match hpieces : Chars.splitOn '.' text with
    | [] => exact absurd hpieces (Chars.splitOn_ne_nil '.' text)
    | [piece] =>
      have htext := Chars.intercalate_splitOn '.' text
      rw [hpieces, List.intercalate_singleton] at htext
      have hpiece := Chars.not_mem_of_mem_splitOn (hpieces ▸ List.mem_singleton_self piece)
      exact absurd (htext ▸ hdot) hpiece
    | piece :: next :: rest => exact Nat.le_add_left 2 rest.length

/-- A path stays a path. -/
theorem dot_mem_protectPath {r : Rules} (hr : r.Clear) (u : Use) (quoting : Bool)
    {word : List Char} (h : '.' ∈ word) : '.' ∈ r.protectPath u quoting word := by
  rw [← two_le_length_segments_iff (r := r), segments_protectPath hr]
  have hlength : 2 ≤ (r.segments word).length := two_le_length_segments_iff.2 h
  split
  · exact hlength
  · unfold prefixedParts
    split
    · exact hlength
    · rw [List.length_modify]
      exact hlength

/-- A second pass takes the path of a column for one that begins with an alias, and is in doubt
about a star: it drops the quotes of the first segment, or puts quotes around a second segment that
the first pass has left bare. -/
structure Reclassified (r : Rules) (u : Use) (quoting : Bool) (word table column : List Char) :
    Prop where
  quoting : quoting = true
  quote : r.quote ≠ none
  tablePrefix : r.tablePrefix ≠ ""
  endsInColumn : u.endsInColumn = true
  paren : '(' ∉ word
  segments : r.segments word = [table, column]
  unknown : String.ofList table ∉ u.aliases
  known : String.ofList (r.prefixed table) ∈ u.aliases
  star : r.prefixed table = ['*'] ∨ column.head? = some '*' ∧ column ≠ ['*']

theorem protectPath_protectPath_iff {r : Rules} (hr : r.Clear) (u : Use) (quoting : Bool)
    {word : List Char} (hparen : '(' ∉ word) (hdot : '.' ∈ word) :
    r.protectPath u quoting (r.protectPath u quoting word) = r.protectPath u quoting word ↔
      ¬∃ table column, r.Reclassified u quoting word table column := by
  have hbare := bare_prefixedParts hr (r.bare_segments word) u
  rw [protectPath_eq r u quoting (r.protectPath u quoting word), segments_protectPath hr,
    protectPath_eq r u quoting word]
  -- the passes agree if both find an alias in front, or if neither does; what is left is an alias
  -- that the prefix of the first pass has made
  by_cases hlead : String.ofList ((r.segments word).headD []) ∈ u.aliases
  · simp only [if_pos hlead, true_iff]
    rintro ⟨table, column, h⟩
    rw [h.segments] at hlead
    exact h.unknown hlead
  simp only [if_neg hlead]
  by_cases hknown : String.ofList ((r.prefixedParts u (r.segments word)).headD []) ∈ u.aliases
  · obtain ⟨hnonempty, hcolumn, table, column, hparts⟩ :=
      pair_of_prefixedParts (two_le_length_segments_iff.2 hdot) hlead hknown
    rw [if_pos hknown, hparts, prefixedParts_pair hnonempty hcolumn]
    rw [hparts, prefixedParts_pair hnonempty hcolumn] at hbare hknown
    rw [hparts] at hlead
    rw [aliasPath_eq_tablePath_iff hr hbare]
    refine not_congr ⟨fun ⟨hquoting, hquote, hstar⟩ => ⟨table, column, ?_⟩, ?_⟩
    · exact ⟨hquoting, hquote, hnonempty, hcolumn, hparen, hparts, hlead, hknown, hstar⟩
    · rintro ⟨table', column', h⟩
      have hsame := hparts.symm.trans h.segments
      simp only [List.cons.injEq, and_true] at hsame
      obtain ⟨rfl, rfl⟩ := hsame
      exact ⟨h.quoting, h.quote, h.star⟩
  · rw [if_neg hknown, prefixedParts_prefixedParts hr]
    refine iff_of_true rfl ?_
    rintro ⟨table, column, h⟩
    rw [h.segments, prefixedParts_pair h.tablePrefix h.endsInColumn] at hknown
    exact hknown h.known

/-! ## A second pass over a name -/

/-- The name with its prefix, and without quotes. -/
def bareName (r : Rules) (u : Use) (name : List Char) : List Char :=
  if r.tablePrefix ≠ "" ∧ ((r.afterSwap? name).isSome ∨ u.bareIsTable) then r.prefixed name
  else name

theorem protectName_eq (r : Rules) (u : Use) (quoting : Bool) (word : List Char) :
    r.protectName u quoting word =
      if quoting ∧ r.bareName u (r.strip word) ≠ ['*'] then
        r.quoteChars (r.bareName u (r.strip word))
      else r.bareName u (r.strip word) :=
  rfl

theorem bareName_bareName {r : Rules} (hr : r.Clear) (u : Use) (name : List Char) :
    r.bareName u (r.bareName u name) = r.bareName u name := by
  unfold bareName
  by_cases hname : r.tablePrefix ≠ "" ∧ ((r.afterSwap? name).isSome ∨ u.bareIsTable)
  · rw [if_pos hname, prefixed_prefixed hr, ite_self]
  · rw [if_neg hname, if_neg hname]

theorem strip_bareName {r : Rules} (hunquoted : ∀ c ∈ r.tablePrefix.toList, r.quote ≠ some c)
    (u : Use) {name : List Char} (h : r.strip name = name) :
    r.strip (r.bareName u name) = r.bareName u name := by
  unfold bareName
  split
  · exact strip_prefixed hunquoted h
  · exact h

theorem strip_protectName {r : Rules} (hunquoted : ∀ c ∈ r.tablePrefix.toList, r.quote ≠ some c)
    (u : Use) (quoting : Bool) (word : List Char) :
    r.strip (r.protectName u quoting word) = r.bareName u (r.strip word) := by
  have hbare := strip_bareName hunquoted u (r.strip_strip word)
  rw [protectName_eq]
  split
  · rw [strip_quoteChars, hbare]
  · exact hbare

theorem protectName_protectName {r : Rules} (hr : r.Clear) (u : Use) (quoting : Bool)
    (word : List Char) :
    r.protectName u quoting (r.protectName u quoting word) = r.protectName u quoting word := by
  rw [protectName_eq, strip_protectName hr.bare_tablePrefix, bareName_bareName hr, ← protectName_eq]

theorem bareName_ne_nil {r : Rules} (u : Use) {name : List Char} (h : name ≠ []) :
    r.bareName u name ≠ [] := by
  unfold bareName
  split
  · rename_i hnonempty
    obtain ⟨rest, hrest, -⟩ := r.prefixed_eq_append name
    rw [hrest]
    exact List.append_ne_nil_of_left_ne_nil (String.toList_eq_nil_iff.not.2 hnonempty.1) _
  · exact h

/-- A name is left, unless it is nothing but quotes and they are dropped. -/
theorem protectName_ne_nil {r : Rules} (u : Use) {quoting : Bool} {word : List Char}
    (hword : word ≠ []) (hquotes : quoting = false → r.strip word ≠ []) :
    r.protectName u quoting word ≠ [] := by
  rw [protectName_eq]
  split
  · cases hquote : r.quote with
    | none =>
      unfold quoteChars strip
      rw [hquote]
      exact bareName_ne_nil u hword
    | some q =>
      unfold quoteChars
      rw [hquote]
      exact quoteSegments_ne_nil q _
  · rename_i hplain
    cases quoting with
    | false => exact bareName_ne_nil u (hquotes rfl)
    | true =>
      have hstar : r.bareName u (r.strip word) = ['*'] := by
        by_contra hstar
        exact hplain ⟨rfl, hstar⟩
      rw [hstar]
      exact List.cons_ne_nil _ _

/-! ## A second pass over a word -/

/-- What protection makes of the first word. -/
def protectWord (r : Rules) (u : Use) (quoting : Bool) (word : List Char) : List Char :=
  if '(' ∈ word then word
  else if '.' ∈ word then r.protectPath u quoting word
  else r.protectName u quoting word

/-- Besides quotes, protection brings in the prefix alone. -/
theorem mem_protectWord {r : Rules} (hr : r.Clear) {u : Use} {quoting : Bool} {word : List Char}
    {c : Char} (hc : c ∈ r.protectWord u quoting word) :
    r.quote = some c ∨ c ∈ r.tablePrefix.toList ∨ c ∈ word := by
  by_cases hquote : r.quote = some c
  · exact .inl hquote
  refine .inr ?_
  -- without quotes the word is given by its segments, and only the prefix is added to them
  have hstripped : c ∈ r.strip (r.protectWord u quoting word) := mem_strip.2 ⟨hc, hquote⟩
  unfold protectWord at hstripped
  split at hstripped
  · exact .inr (mem_strip.1 hstripped).1
  split at hstripped
  · rename_i hdot
    rw [← path_segments hr.quote_ne_dot, segments_protectPath hr] at hstripped
    rcases mem_path hstripped with rfl | ⟨part, hpart, hcpart⟩
    · exact .inr hdot
    have hword : ∀ part ∈ r.segments word, ∀ c ∈ part, c ∈ r.tablePrefix.toList ∨ c ∈ word := by
      intro part hpart c hc
      have hmem := mem_path_of_mem hpart hc
      rw [path_segments hr.quote_ne_dot] at hmem
      exact .inr (mem_strip.1 hmem).1
    split at hpart
    · exact hword part hpart c hcpart
    unfold prefixedParts at hpart
    split at hpart
    · exact hword part hpart c hcpart
    · refine forall_mem_modify hword (fun part hpart c hc => ?_) _ part hpart c hcpart
      exact (mem_prefixed hc).elim .inl (hword part hpart c)
  · rw [strip_protectName hr.bare_tablePrefix] at hstripped
    unfold bareName at hstripped
    split at hstripped
    · exact (mem_prefixed hstripped).imp_right fun h => (mem_strip.1 h).1
    · exact .inr (mem_strip.1 hstripped).1

theorem protectWord_protectWord_iff {r : Rules} (hr : r.Clear) (u : Use) (quoting : Bool)
    (word : List Char) :
    r.protectWord u quoting (r.protectWord u quoting word) = r.protectWord u quoting word ↔
      ¬∃ table column, r.Reclassified u quoting word table column := by
  by_cases hparen : '(' ∈ word
  · have hword : r.protectWord u quoting word = word := if_pos hparen
    rw [hword, hword]
    exact iff_of_true rfl fun ⟨_, _, h⟩ => h.paren hparen
  -- the second pass takes the same branch, as neither quotes nor prefix have `(` or `.`
  have hparen' : '(' ∉ r.protectWord u quoting word := by
    intro hmem
    rcases mem_protectWord hr hmem with h | h | h
    · exact hr.quote_ne_paren h
    · exact (hr.tablePrefix '(' h).2.1 rfl
    · exact hparen h
  by_cases hdot : '.' ∈ word
  · have hword : r.protectWord u quoting word = r.protectPath u quoting word := by
      unfold protectWord
      rw [if_neg hparen, if_pos hdot]
    rw [hword] at hparen' ⊢
    rw [protectWord, if_neg hparen', if_pos (dot_mem_protectPath hr u quoting hdot)]
    exact protectPath_protectPath_iff hr u quoting hparen hdot
  · have hdot' : '.' ∉ r.protectWord u quoting word := by
      intro hmem
      rcases mem_protectWord hr hmem with h | h | h
      · exact hr.quote_ne_dot h
      · exact (hr.tablePrefix '.' h).1 rfl
      · exact hdot h
    have hword : r.protectWord u quoting word = r.protectName u quoting word := by
      unfold protectWord
      rw [if_neg hparen, if_neg hdot]
    rw [hword] at hparen' hdot' ⊢
    rw [protectWord, if_neg hparen', if_neg hdot']
    refine iff_of_true (protectName_protectName hr u quoting word) fun ⟨table, column, h⟩ => ?_
    have hsegments := h.segments
    rw [segments_of_not_mem hdot] at hsegments
    cases hsegments

/-- A word is left, unless it is nothing but quotes and they are dropped. -/
theorem protectWord_ne_nil {r : Rules} (hr : r.Clear) (u : Use) {quoting : Bool}
    {word : List Char} (hword : word ≠ []) (hquotes : quoting = false → r.strip word ≠ []) :
    r.protectWord u quoting word ≠ [] := by
  unfold protectWord
  split
  · exact hword
  split
  · rename_i hdot
    exact List.ne_nil_of_mem (dot_mem_protectPath hr u quoting hdot)
  · exact protectName_ne_nil u hword hquotes

/-! ## A second pass over an identifier -/

/-- The first word of an identifier, and the rest with the space before it. -/
def cut (text : List Char) : List Char × List Char :=
  Chars.breakAt ' ' (Chars.squeezeGaps (Chars.trim text))

theorem protectChars_eq (r : Rules) (u : Use) (text : List Char) :
    r.protectChars u text =
      r.protectWord u (u.quoting.getD r.quoting) (cut text).1 ++ (cut text).2 := by
  unfold protectChars protectWord cut
  dsimp only
  split
  · rfl
  split <;> rfl

theorem protect_trim (r : Rules) (u : Use) (item : String) :
    r.protect u (Text.trim item) = r.protect u item := by
  unfold protect protectChars Text.trim
  rw [String.toList_ofList, Chars.trim_trim]

theorem tidy_cut (text : List Char) : Chars.Tidy ((cut text).1 ++ (cut text).2) := by
  unfold cut
  rw [Chars.breakAt_append]
  exact Chars.tidy_squeezeGaps_trim text

/-- Where spaces and tabs are the only blanks, the first word has none. -/
theorem isBlank_of_mem_cut {text : List Char}
    (hblank : ∀ c ∈ text, Chars.isBlank c = true → c = ' ' ∨ c = '\t') :
    ∀ c ∈ (cut text).1, Chars.isBlank c = false := by
  intro c hc
  by_contra h
  have hspace : c ≠ ' ' := fun h => Chars.not_mem_breakAt_fst ' ' _ (h ▸ hc)
  have hsqueezed : c ∈ Chars.squeezeGaps (Chars.trim text) := List.takeWhile_subset _ hc
  obtain ⟨hmem, htab⟩ :=
    (Chars.eq_space_or_mem_of_mem_squeezeGapsFrom hsqueezed).resolve_left hspace
  rcases hblank c (Chars.mem_of_mem_trim hmem) (eq_true_of_ne_false h) with h | h
  · exact hspace h
  · exact htab h

/-- What was put together from a word without blanks and the rest is cut there again. -/
theorem cut_protectWord {r : Rules} (hr : r.Clear) (u : Use) {quoting : Bool} {text : List Char}
    (hblank : ∀ c ∈ text, Chars.isBlank c = true → c = ' ' ∨ c = '\t')
    (hquotes : quoting = false → (cut text).1 ≠ [] → r.strip (cut text).1 ≠ []) :
    cut (r.protectWord u quoting (cut text).1 ++ (cut text).2) =
      (r.protectWord u quoting (cut text).1, (cut text).2) := by
  have hword := isBlank_of_mem_cut hblank
  have hsolid : ∀ c ∈ r.protectWord u quoting (cut text).1, Chars.isBlank c = false := by
    intro c hc
    rcases mem_protectWord hr hc with h | h | h
    · exact (hr.quote c h).2.2.2
    · exact (hr.tablePrefix c h).2.2.1
    · exact hword c h
  have hspace : ∀ c, (cut text).2.head? = some c → c = ' ' := fun c => Chars.head?_breakAt_snd
  have hempty : r.protectWord u quoting (cut text).1 = [] → (cut text).2 = [] := by
    intro hnil
    have hwordNil : (cut text).1 = [] := by
      by_contra hne
      exact protectWord_ne_nil hr u hne (fun hquoting => hquotes hquoting hne) hnil
    -- a rest without a word before it would begin the text with a blank
    cases htail : (cut text).2 with
    | nil => rfl
    | cons c tail =>
      have hc := hspace c (by rw [htail]; rfl)
      have hsolid := (tidy_cut text).first c (by rw [hwordNil, htail]; rfl)
      rw [hc] at hsolid
      cases hsolid
  have htidy := (tidy_cut text).replaceWord hword hsolid hempty
  rw [cut, htidy.squeezeGaps_trim]
  refine Chars.breakAt_word_append (fun hmem => ?_) hspace
  cases hsolid ' ' hmem

/-- **Protection a second time** changes nothing, unless the first pass has prefixed the table of a
column to the name of a known alias and there is a star on whose quotes the two forms of a path
differ. -/
theorem protect_idempotent_iff {r : Rules} (hr : r.Clear) (u : Use) (item : String)
    (hblank : ∀ c ∈ item.toList, Chars.isBlank c = true → c = ' ' ∨ c = '\t')
    (hquotes : u.quoting.getD r.quoting = false → (cut item.toList).1 ≠ [] →
      r.strip (cut item.toList).1 ≠ []) :
    r.protect u (r.protect u item) = r.protect u item ↔
      ¬∃ table column,
        r.Reclassified u (u.quoting.getD r.quoting) (cut item.toList).1 table column := by
  have hcut := cut_protectWord hr u hblank hquotes
  unfold protect
  rw [String.ofList_inj, String.toList_ofList, protectChars_eq r u item.toList, protectChars_eq,
    hcut, List.append_left_inj]
  exact protectWord_protectWord_iff hr u _ _

/-- A name in which the prefix is replaced, with blanks of both kinds and an alias after it. -/
theorem protect_idempotent_iff_swapped :
    let r : Rules := ⟨"app_", "tbl_", some '\u0060', true⟩
    let u : Use := ⟨["u"], true, none, false⟩
    let item := " shop.tbl_users \t u "
    r.Clear ∧ (∀ c ∈ item.toList, Chars.isBlank c = true → c = ' ' ∨ c = '\t') ∧
      r.strip (cut item.toList).1 ≠ [] ∧ r.protect u item = "`shop`.`app_users` u" ∧
      r.protect u (r.protect u item) = r.protect u item := by
  have hclear : Clear ⟨"app_", "tbl_", some '\u0060', true⟩ := by
    refine ⟨?_, List.all_iff_forall_prop.1 (by decide), .inr (.inr (by decide))⟩
    rintro q ⟨⟩
    decide
  have hblank : ∀ c ∈ " shop.tbl_users \t u ".toList,
      Chars.isBlank c = true → c = ' ' ∨ c = '\t' :=
    List.all_iff_forall_prop.1 (by decide)
  have hquotes : strip ⟨"app_", "tbl_", some '\u0060', true⟩
      (cut " shop.tbl_users \t u ".toList).1 ≠ [] := by
    decide +kernel
  refine ⟨hclear, hblank, hquotes, by decide +kernel, ?_⟩
  refine (protect_idempotent_iff hclear _ _ hblank fun _ _ => hquotes).2 ?_
  rintro ⟨table, column, h⟩
  cases h.endsInColumn

/-- Two paths in which no segment begins with a star, and which change when they are protected
again: the first pass puts an alias in front, and the second treats the star in another way. -/
theorem protect_twice_reclassified :
    let r : Rules := ⟨"app_", "", some '\u0060', true⟩
    let u : Use := ⟨["app_x"], false, none, true⟩
    let item := "x.`*b`"
    let r' : Rules := ⟨"*", "", some '\u0060', true⟩
    let u' : Use := ⟨["*"], false, none, true⟩
    let item' := ".y"
    (r.Clear ∧ (∀ s ∈ Chars.splitOn '.' item.toList, s.head? ≠ some '*') ∧
      r.protect u item = "`app_x`.*b" ∧ r.protect u (r.protect u item) = "`app_x`.`*b`") ∧
    (r'.Clear ∧ (∀ s ∈ Chars.splitOn '.' item'.toList, s.head? ≠ some '*') ∧
      r'.protect u' item' = "`*`.`y`" ∧ r'.protect u' (r'.protect u' item') = "*.`y`") := by
  refine ⟨⟨⟨?_, List.all_iff_forall_prop.1 (by decide), .inl rfl⟩, ?_⟩,
    ⟨⟨?_, List.all_iff_forall_prop.1 (by decide), .inl rfl⟩, ?_⟩⟩
  · rintro q ⟨⟩
    decide
  · decide +kernel
  · rintro q ⟨⟩
    decide
  · decide +kernel

end SqlGateway.Identifier.Rules
