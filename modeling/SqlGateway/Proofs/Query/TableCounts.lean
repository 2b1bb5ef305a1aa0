import SqlGateway.Proofs.Query.Terminals
import SqlGateway.Proofs.Sql.PrefixPlace
import SqlGateway.Proofs.Text.Layout

/-!
# Counting the rows of a table, in two ways

The rows of a table can be counted without a builder, or by a new builder. Both ways send one
statement, and the statements differ in the table alone. The first one protects it as what may be
followed by a column, and the second one as what is followed by nothing. So of a path they put the
prefix on segments that are next to each other, and the second one puts it nowhere if the path
begins with its own alias. A name without dots gets it either way.

Main definitions:

* `Identifier.Use.source`: the use of a table that a select is made from.
* `Identifier.Rules.SameTable`: the two uses are the same for a table.
* `Style.tableCount`: the statement that counts the rows of a table.

Main results:

* `Identifier.Rules.placed_eq_placed_iff`: the paths that get the same prefix.
* `Identifier.Rules.protect_eq_source`, `Identifier.Rules.sameTable_of_protect_eq`: the tables that
  are protected alike.
* `Session.table_counts`: what is sent, and when it is the same.
-/

namespace SqlGateway

namespace Identifier

/-- The use as a table that a select is made from, with the alias that the table introduces. -/
def Use.source (table : String) : Use :=
  ⟨(alias? (Text.trim table)).toList, true, none, false⟩

namespace Rules

variable {r : Rules} {table : String} {segments : List (List Char)}

/-! ## The place of the prefix -/

/-- Two places of a list are changed alike only if neither of them changes. -/
theorem modify_eq_modify_iff {α : Type} {f : α → α} {xs : List α} {i j : Nat} (hij : i ≠ j) :
    xs.modify i f = xs.modify j f ↔ xs[i]?.map f = xs[i]? ∧ xs[j]?.map f = xs[j]? := by
  constructor
  · intro heq
    have hat (k : Nat) : (xs.modify i f)[k]? = (xs.modify j f)[k]? := by rw [heq]
    have hi := hat i
    have hj := hat j
    rw [List.getElem?_modify_eq, List.getElem?_modify_ne f xs hij.symm] at hi
    rw [List.getElem?_modify_eq, List.getElem?_modify_ne f xs hij] at hj
    exact ⟨hi, hj.symm⟩
  · rintro ⟨hi, hj⟩
    have hsame {k : Nat} (hk : xs[k]?.map f = xs[k]?) : xs.modify k f = xs := by
      refine List.ext_getElem? fun m => ?_
      by_cases hm : k = m
      · rw [← hm, List.getElem?_modify_eq]
        exact hk
      · rw [List.getElem?_modify_ne f xs hm]
    rw [hsame hi, hsame hj]

/-- The source of a select takes the prefix one segment further on than a table that may be followed
by a column. -/
theorem place?_source (hpath : 2 ≤ segments.length) (hled : ¬AliasLed (.source table) segments) :
    r.place? (.source table) segments = (r.place? .table segments).map (· + 1) := by
  have htable : ¬AliasLed .table segments := fun h => List.not_mem_nil h.2
  unfold place?
  by_cases hnone : r.tablePrefix = ""
  · rw [if_pos (.inl hnone), if_pos (.inl hnone)]
    rfl
  rw [if_neg (not_or.2 ⟨hnone, hled⟩), if_neg (not_or.2 ⟨hnone, htable⟩)]
  match segments, hpath with
  | first :: next :: rest, _ =>
    have hplaces : tablePlace (.source table) (rest.length + 2) =
        tablePlace .table (rest.length + 2) + 1 := rfl
    -- there always is a segment after the one before a column
    have hnext : tablePlace .table (rest.length + 2) + 1 < rest.length + 2 := by
      match rest.length with
      | 0 => decide
      | 1 => decide
      | n + 2 =>
        show 2 + 1 < n + 2 + 2
        omega
    simp only [List.length_cons, hplaces, hnext, Nat.lt_of_succ_lt hnext, ↓reduceIte,
      Option.map_some]

/-- Of a path the two uses put the prefix in the same places exactly if it is in both places
already. -/
theorem placed_eq_placed_iff {i : Nat} (hpath : 2 ≤ segments.length)
    (hled : ¬AliasLed (.source table) segments) (hplace : r.place? .table segments = some i) :
    r.placed .table segments = r.placed (.source table) segments ↔
      segments[i]?.map r.withPrefix = segments[i]? ∧
        segments[i + 1]?.map r.withPrefix = segments[i + 1]? := by
  have hsource : r.place? (.source table) segments = some (i + 1) := by
    rw [place?_source hpath hled, hplace]
    rfl
  unfold placed
  rw [hplace, hsource]
  exact modify_eq_modify_iff (Nat.ne_of_lt (Nat.lt_succ_self i))

/-- Of a name without dots it does not matter which aliases are known. -/
theorem protect_name_congr {u v : Use} {item : String} (hname : '.' ∉ (cut item.toList).1)
    (htable : u.bareIsTable = v.bareIsTable) (hquoting : u.quoting = v.quoting) :
    r.protect u item = r.protect v item := by
  have hword (quoting : Bool) : r.protectWord u quoting (cut item.toList).1 =
      r.protectWord v quoting (cut item.toList).1 := by
    unfold protectWord protectName
    rw [if_neg hname, if_neg hname, htable]
  unfold protect
  rw [protectChars_eq, protectChars_eq, hword, hquoting]

/-! ## Two uses of a table -/

/-- A table is protected in the same way whether it may be followed by a column or is the source of
a select: it is an expression, or both uses put the prefix in the same places; and if it is a path
that begins with its own alias, there is no star on whose quotes the forms of a path differ. -/
def SameTable (r : Rules) (table : String) : Prop :=
  let word := (cut table.toList).1
  let segments := r.segments word
  '(' ∈ word ∨ r.placed .table segments = r.placed (.source table) segments ∧
    (AliasLed (.source table) segments →
      r.aliasPath r.quoting segments = r.tablePath r.quoting segments)

instance (r : Rules) (table : String) : Decidable (r.SameTable table) :=
  inferInstanceAs (Decidable (_ ∨ _ ∧ (_ → _)))

theorem sameTable_of_name (hname : '.' ∉ (cut table.toList).1) : r.SameTable table := by
  refine .inr ⟨?_, fun hled => ?_⟩
  · rw [segments_of_not_mem hname, placed_name, placed_name]
    unfold bareName
    simp [Use.source, Use.table]
  · rw [segments_of_not_mem hname] at hled
    exact absurd hled.1 (by simp)

/-- The two uses of a path are the same exactly if the prefix is already in both places. -/
theorem sameTable_path_iff {i : Nat} (hparen : '(' ∉ (cut table.toList).1)
    (hpath : '.' ∈ (cut table.toList).1)
    (hled : ¬AliasLed (.source table) (r.segments (cut table.toList).1))
    (hplace : r.place? .table (r.segments (cut table.toList).1) = some i) :
    r.SameTable table ↔
      (r.segments (cut table.toList).1)[i]?.map r.withPrefix =
          (r.segments (cut table.toList).1)[i]? ∧
        (r.segments (cut table.toList).1)[i + 1]?.map r.withPrefix =
          (r.segments (cut table.toList).1)[i + 1]? := by
  rw [← placed_eq_placed_iff (two_le_length_segments_iff.2 hpath) hled hplace]
  exact ⟨fun h => (h.resolve_left hparen).1, fun h => .inr ⟨h, fun hled' => absurd hled' hled⟩⟩

/-- Segments that are put together of the same path are the same. -/
theorem eq_of_path_eq {parts parts' : List (List Char)} (h : r.Bare parts) (h' : r.Bare parts')
    (heq : path parts = path parts') : parts = parts' := by
  have hsplit {parts : List (List Char)} (h : r.Bare parts) :
      (path parts).splitOn '.' = parts :=
    List.splitOn_intercalate '.' h.dot h.ne_nil
  rw [← hsplit h, heq, hsplit h']

/-- A prefix without dots and quotes leaves segments without them. -/
theorem bare_placed (hlead : ∀ c ∈ r.tablePrefix.toList, c ≠ '.' ∧ r.quote ≠ some c)
    (h : r.Bare segments) (u : Use) : r.Bare (r.placed u segments) := by
  refine ⟨?_, ?_, strip_placed (fun c hc => (hlead c hc).2) u h.strip⟩
  · unfold placed
    split
    · exact h.ne_nil
    · exact fun hnil => h.ne_nil (List.modify_eq_nil_iff.1 hnil)
  · unfold placed
    split
    · exact h.dot
    · rw [← prefixed_eq_withPrefix]
      refine forall_mem_modify h.dot (fun part hpart hdot => ?_) _
      rcases mem_prefixed hdot with hdot | hdot
      · exact (hlead '.' hdot).1 rfl
      · exact h.dot part hpart hdot

/-- What the two uses make of a word that is no expression. -/
theorem protectWord_table (r : Rules) (quoting : Bool) {word : List Char} (hparen : '(' ∉ word) :
    r.protectWord .table quoting word =
      r.tablePath quoting (r.placed .table (r.segments word)) := by
  have hled : ¬AliasLed .table (r.segments word) := fun h => List.not_mem_nil h.2
  rw [protectWord_eq r .table quoting hparen, if_neg hled]

theorem protect_eq_source (h : r.SameTable table) :
    r.protect .table table = r.protect (.source table) table := by
  have hword : r.protectWord .table r.quoting (cut table.toList).1 =
      r.protectWord (.source table) r.quoting (cut table.toList).1 := by
    by_cases hparen : '(' ∈ (cut table.toList).1
    · unfold protectWord
      rw [if_pos hparen, if_pos hparen]
    obtain ⟨hplaced, hforms⟩ := h.resolve_left hparen
    rw [protectWord_table r _ hparen, protectWord_eq r _ _ hparen, hplaced]
    split
    · rename_i hled
      rw [placed_of_aliasLed r hled, hforms hled]
    · rfl
  unfold protect
  rw [String.ofList_inj, protectChars_eq, protectChars_eq]
  exact congrArg (· ++ (cut table.toList).2) hword

/-- The two uses protect a table alike only if they are the same for it. -/
theorem sameTable_of_protect_eq (hdot : r.quote ≠ some '.')
    (hlead : ∀ c ∈ r.tablePrefix.toList, c ≠ '.' ∧ r.quote ≠ some c)
    (heq : r.protect .table table = r.protect (.source table) table) : r.SameTable table := by
  by_cases hparen : '(' ∈ (cut table.toList).1
  · exact .inl hparen
  have hbare := r.bare_segments (cut table.toList).1
  have hplaced := bare_placed hlead hbare .table
  have hword : r.protectWord .table r.quoting (cut table.toList).1 =
      r.protectWord (.source table) r.quoting (cut table.toList).1 := by
    unfold protect at heq
    rw [String.ofList_inj, protectChars_eq, protectChars_eq] at heq
    exact List.append_cancel_right heq
  rw [protectWord_table r _ hparen, protectWord_eq r _ _ hparen] at hword
  -- without quotes the words are put together of the segments with the prefix in its place
  have hstrip := congrArg r.strip hword
  rw [strip_tablePath hdot hplaced.strip] at hstrip
  refine .inr ?_
  by_cases hled : AliasLed (.source table) (r.segments (cut table.toList).1)
  · rw [if_pos hled] at hword hstrip
    rw [strip_aliasPath hdot hbare.strip] at hstrip
    have hsame := eq_of_path_eq hplaced hbare hstrip
    rw [hsame] at hword
    rw [placed_of_aliasLed r hled]
    exact ⟨hsame, fun _ => hword.symm⟩
  · have hsource := bare_placed hlead hbare (.source table)
    rw [if_neg hled, strip_tablePath hdot hsource.strip] at hstrip
    exact ⟨eq_of_path_eq hplaced hsource hstrip, fun h => absurd h hled⟩

end Rules

end Identifier

/-! ## The two counts -/

/-- The statement that counts the rows of a table, which is protected already. -/
def Style.tableCount (style : Style) (table : String) : String :=
  style.dialect.count ++ style.rules.protect .column "numrows" ++ " FROM " ++ table

theorem Style.isBlank_tableCount (style : Style) (table : String) :
    Text.isBlank (style.tableCount table) = false := by
  have hcount : Text.isBlank style.dialect.count = false := by
    unfold Dialect.count
    decide
  unfold tableCount
  simp only [Text.isBlank_append, hcount, Bool.false_and]

namespace Builder

/-- A new builder that has got one table. -/
def ofTable (style : Style) (table : String) : Builder :=
  { empty with live := { Clauses.empty with
    tables := [style.rules.protect (.source table) table]
    aliases := (Identifier.alias? (Text.trim table)).toList } }

theorem fromArgument_empty (style : Style) {table : String} (hsome : Text.isBlank table = false)
    (hcomma : ',' ∉ table.toList) :
    Builder.empty.fromArgument style (some table) = ofTable style table := by
  have hargument : Text.nonBlank? (some table) = some table := by
    simp [Text.nonBlank?, hsome]
  have htrim := style.rules.protect_trim (.source table) table
  unfold fromArgument fromTables
  rw [hargument]
  dsimp only
  rw [Text.listItems_of_no_comma hcomma hsome, List.foldl_cons, List.foldl_nil]
  unfold fromTable ofTable trackAlias
  rw [← htrim]
  unfold Identifier.Use.source
  cases Identifier.alias? (Text.trim table) <;> rfl

/-- A new builder counts the rows of the source that is its table. -/
theorem countResults_empty (style : Style) {table : String} (hsome : Text.isBlank table = false)
    (hcomma : ',' ∉ table.toList) :
    (Builder.empty.countResults style (some table)).statement =
      style.tableCount (style.rules.protect (.source table) table) := by
  have hname : (ofTable style table).column style "numrows" =
      style.rules.protect .column "numrows" :=
    Identifier.Rules.protect_name_congr (by decide +kernel) rfl rfl
  have htail : (ofTable style table).merge.selectTail style =
      " FROM " ++ style.rules.protect (.source table) table := by
    have hmerge : (ofTable style table).merge = ofTable style table := if_pos rfl
    rw [hmerge]
    show " FROM " ++ style.rules.protect (.source table) table ++ "" ++ "" ++ "" ++ "" ++ "" ++
      "" = _
    simp only [String.append_empty]
  unfold countResults
  rw [fromArgument_empty style hsome hcomma]
  dsimp only
  unfold countText Style.tableCount
  rw [hname, htail, ← String.append_assoc]

end Builder

variable {C E : Type} [Connection C] [Backend C E]

open Session (SentOnce)

theorem Session.sentOnce_read (s : Session (Traced C)) (w : World E) {sql : String}
    (hblank : Text.isBlank sql = false) :
    let r := (Session.read sql : Action (Session (Traced C)) E Cursor).run (s, w)
    SentOnce (PrefixSwap.apply s.config.tablePrefix s.config.swapPrefix sql) s w r.1 r.2.1 := by
  intro r
  have hr : r = _ := Action.run_bind_pure_apply (Session.query sql []) QueryOutcome.cursor (s, w)
  have hquery := Session.sentOnce_query [] hblank s w
  rw [Session.finalText_nil] at hquery
  rw [hr]
  exact hquery.map _

/-- A table with a name is counted by one read. -/
theorem Session.run_countAll (s : Session C) (w : World E) {table : String} (hsome : table ≠ "") :
    (Session.countAll table : Action (Session C) E Nat).run (s, w) =
      let q := (Session.read ((⟨s.dialect, s.rules⟩ : Style).tableCount
        (s.rules.protect .table table)) : Action (Session C) E Cursor).run (s, w)
      (q.1.map fun c => Session.countOf c "numrows", q.2) := by
  unfold Session.countAll
  rw [if_neg hsome, Action.run_bind_apply, Action.run_subject_apply]
  exact Action.run_bind_pure_apply _ (fun c : Cursor => Session.countOf c "numrows") _

theorem Session.sentOnce_countAll (s : Session (Traced C)) (w : World E) {table : String}
    (hsome : table ≠ "") :
    SentOnce (PrefixSwap.apply s.config.tablePrefix s.config.swapPrefix
        ((⟨s.dialect, s.rules⟩ : Style).tableCount (s.rules.protect .table table))) s w
      ((Session.countAll table : Action (Session (Traced C)) E Nat).run (s, w)).1
      ((Session.countAll table : Action (Session (Traced C)) E Nat).run (s, w)).2.1 := by
  rw [Session.run_countAll s w hsome]
  dsimp only
  exact (Session.sentOnce_read s w (Style.isBlank_tableCount _ _)).map fun c =>
    Session.countOf c "numrows"

theorem Database.sentOnce_count (f : Style → Builder → Read) (s : Session (Traced C)) (b : Builder)
    (w : World E) {sql : String} (hsql : (f ⟨s.dialect, s.rules⟩ b).statement = sql)
    (hblank : Text.isBlank sql = false) :
    let r := (Database.count f : Action (Database (Traced C)) E Nat).run (⟨s, some b⟩, w)
    SentOnce (PrefixSwap.apply s.config.tablePrefix s.config.swapPrefix sql) s w r.1
      r.2.1.session := by
  intro r
  have hr : r = _ := Action.run_bind_pure_apply (Database.read f)
    (fun c : Cursor => if c.numRows = 0 then 0 else Session.countOf c "numrows") _
  rw [hr]
  exact (Database.sentOnce_read f s b w hsql hblank).map _

namespace Session

/-- **Two counts of a table.** Each of them sends one statement, with the prefix in its place, and
the statements differ in the table at most. They are the same exactly if both uses of the table are:
so for any name without dots. Of a path that does not begin with its alias, the builder prefixes the
segment after the one that is prefixed without it, and the two are the same only if both
segments have the prefix already. -/
theorem table_counts (s : Session (Traced C)) (w : World E) {table : String}
    (hsome : Text.isBlank table = false) (hcomma : ',' ∉ table.toList) :
    let direct := (countAll table : Action (Session (Traced C)) E Nat).run (s, w)
    let built := (Database.count fun style b => b.countResults style (some table) :
      Action (Database (Traced C)) E Nat).run (⟨s, some .empty⟩, w)
    let style : Style := ⟨s.dialect, s.rules⟩
    let sent := PrefixSwap.apply s.config.tablePrefix s.config.swapPrefix
    let text := style.tableCount (s.rules.protect .table table)
    let builtText := style.tableCount (s.rules.protect (.source table) table)
    let word := (Identifier.Rules.cut table.toList).1
    let segments := s.rules.segments word
    SentOnce (sent text) s w direct.1 direct.2.1 ∧
      SentOnce (sent builtText) s w built.1 built.2.1.session ∧
      (s.rules.SameTable table → text = builtText) ∧
      ((∀ c ∈ s.rules.tablePrefix.toList, c ≠ '.' ∧ s.rules.quote ≠ some c) →
        s.rules.quote ≠ some '.' → text = builtText → s.rules.SameTable table) ∧
      ('.' ∉ word → s.rules.SameTable table) ∧
      ('(' ∉ word → '.' ∈ word → ¬Identifier.Rules.AliasLed (.source table) segments →
        ∀ i, s.rules.place? .table segments = some i →
          s.rules.place? (.source table) segments = some (i + 1) ∧
            (s.rules.SameTable table ↔
              segments[i]?.map s.rules.withPrefix = segments[i]? ∧
                segments[i + 1]?.map s.rules.withPrefix = segments[i + 1]?)) := by
  have hname : table ≠ "" := by
    rintro rfl
    cases hsome
  have hbuilt := Builder.countResults_empty ⟨s.dialect, s.rules⟩ hsome hcomma
  refine ⟨sentOnce_countAll s w hname, Database.sentOnce_count _ s .empty w hbuilt
    (Style.isBlank_tableCount _ _), fun hsame => ?_, fun hlead hdot htext => ?_,
    Identifier.Rules.sameTable_of_name, fun hparen hpath hled i hplace => ⟨?_, ?_⟩⟩
  · exact congrArg (Style.tableCount _) (Identifier.Rules.protect_eq_source hsame)
  · refine Identifier.Rules.sameTable_of_protect_eq hdot hlead ?_
    exact (String.append_right_inj _).1 htext
  · rw [Identifier.Rules.place?_source (Identifier.Rules.two_le_length_segments_iff.2 hpath) hled,
      hplace]
    rfl
  · exact Identifier.Rules.sameTable_path_iff hparen hpath hled hplace

/-- A session with a prefix. -/
def prefixedSession : Session (Traced Scripted) :=
  .create { ConnectionConfig.ofKind "mock" with tablePrefix := "app_" }
    (Traced.untouched (Scripted.ofDialect .mysql))

/-- A path with an alias, in which both segments have the prefix. -/
theorem table_counts_prefixed :
    let table := " app_main.app_users  u"
    let direct := (countAll table : Action (Session (Traced Scripted)) Script Nat).run
      (prefixedSession, ⟨.empty, default⟩)
    let built := (Database.count fun style b => b.countResults style (some table) :
      Action (Database (Traced Scripted)) Script Nat).run
        (⟨prefixedSession, some .empty⟩, ⟨.empty, default⟩)
    let sql := "SELECT COUNT(*) AS `numrows` FROM `app_main`.`app_users` u"
    Text.isBlank table = false ∧ ',' ∉ table.toList ∧ prefixedSession.rules.SameTable table ∧
      SentOnce sql prefixedSession (⟨.empty, default⟩ : World Script) direct.1 direct.2.1 ∧
      SentOnce sql prefixedSession (⟨.empty, default⟩ : World Script) built.1
        built.2.1.session := by
  intro table
  dsimp only
  have hsome : Text.isBlank table = false := by decide +kernel
  have hcomma : ',' ∉ table.toList := by decide +kernel
  have hsame : prefixedSession.rules.SameTable table := by decide +kernel
  obtain ⟨hdirect, hbuilt, htext, -⟩ :=
    table_counts prefixedSession (⟨.empty, default⟩ : World Script) hsome hcomma
  have hsent : PrefixSwap.apply prefixedSession.config.tablePrefix
      prefixedSession.config.swapPrefix
      ((⟨prefixedSession.dialect, prefixedSession.rules⟩ : Style).tableCount
        (prefixedSession.rules.protect (.source table) table)) =
          "SELECT COUNT(*) AS `numrows` FROM `app_main`.`app_users` u" := by
    decide +kernel
  rw [htext hsame, hsent] at hdirect
  rw [hsent] at hbuilt
  exact ⟨hsome, hcomma, hsame, hdirect, hbuilt⟩

/-- Without a builder the schema is prefixed, and with one the table. -/
theorem table_counts_differ :
    let table := "main.users"
    let direct := (countAll table : Action (Session (Traced Scripted)) Script Nat).run
      (prefixedSession, ⟨.empty, default⟩)
    let built := (Database.count fun style b => b.countResults style (some table) :
      Action (Database (Traced Scripted)) Script Nat).run
        (⟨prefixedSession, some .empty⟩, ⟨.empty, default⟩)
    Text.isBlank table = false ∧ ',' ∉ table.toList ∧
      direct.2.1.conn.events.filterMap BackendEvent.statement? =
        ["SELECT COUNT(*) AS `numrows` FROM `app_main`.`users`"] ∧
      built.2.1.session.conn.events.filterMap BackendEvent.statement? =
        ["SELECT COUNT(*) AS `numrows` FROM `main`.`app_users`"] := by
  intro table direct built
  exact ⟨by decide +kernel, by decide +kernel, by decide +kernel, by decide +kernel⟩

end Session

end SqlGateway
