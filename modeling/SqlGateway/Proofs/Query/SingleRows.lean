import SqlGateway.Proofs.Query.Assignments
import SqlGateway.Proofs.Query.BatchInserts
import SqlGateway.Proofs.Sql.EdgeQuotes

/-!
# One record, inserted in two ways

A record can be inserted by its assignments, or as the only row of a batch. Both ways send one
statement with the same table, the same values and the columns in the same order, but they come to
the columns in different ways. An assignment protects its column, so the quotes in its name are
dropped before quotes are put around it. A row only puts quotes around its columns and drops
the double ones. The two agree on a name exactly if its quotes are all at its ends.

Main definitions:

* `Builder.PlainColumns`: the columns of a record are plain names, each of them once.
* `Builder.recordText`: the insert of one record, with its columns written in some way.

Main results:

* `Builder.insertRecord_plain`, `Builder.insertBatch_single`: the two plans.
* `Builder.single_row_sent`: what the two ways send, and when it is the same.
-/

namespace SqlGateway

/-! ## Lists of columns -/

namespace Text

variable {sep : String}

theorem length_join_cons_cons (text next : String) (rest : List String) :
    (join sep (text :: next :: rest)).length =
      text.length + sep.length + (join sep (next :: rest)).length := by
  unfold join
  rw [String.intercalate_cons_cons, String.length_append, String.length_append]

variable {α : Type} {f g : α → String} {xs : List α}

/-- Longer texts make a longer list. -/
theorem length_join_le (h : ∀ x ∈ xs, (f x).length ≤ (g x).length) :
    (join sep (xs.map f)).length ≤ (join sep (xs.map g)).length := by
  induction xs with
  | nil => exact Nat.le_refl _
  | cons x xs ih =>
    obtain ⟨hx, hxs⟩ := List.forall_mem_cons.1 h
    cases xs with
    | nil => exact hx
    | cons y ys =>
      have hrest := ih hxs
      rw [List.map_cons, List.map_cons] at hrest
      rw [List.map_cons, List.map_cons, List.map_cons, List.map_cons, length_join_cons_cons,
        length_join_cons_cons]
      omega

/-- The list is no longer only if none of the texts is. -/
theorem length_eq_of_length_join (h : ∀ x ∈ xs, (f x).length ≤ (g x).length)
    (heq : (join sep (xs.map f)).length = (join sep (xs.map g)).length) :
    ∀ x ∈ xs, (f x).length = (g x).length := by
  induction xs with
  | nil => exact nofun
  | cons x xs ih =>
    obtain ⟨hx, hxs⟩ := List.forall_mem_cons.1 h
    cases xs with
    | nil => exact List.forall_mem_singleton.2 heq
    | cons y ys =>
      have hrest : (join sep ((y :: ys).map f)).length ≤ (join sep ((y :: ys).map g)).length :=
        length_join_le hxs
      rw [List.map_cons, List.map_cons] at hrest
      rw [List.map_cons, List.map_cons, List.map_cons, List.map_cons, length_join_cons_cons,
        length_join_cons_cons] at heq
      refine List.forall_mem_cons.2 ⟨by omega, ih hxs ?_⟩
      rw [List.map_cons, List.map_cons]
      omega

end Text

/-! ## The two statements -/

/-- Pairs with different keys make up a map in their order. -/
theorem OrderedMap.entries_insertAll_empty {α : Type} {pairs : List (String × α)}
    (h : (keysOf pairs).Nodup) : (OrderedMap.empty.insertAll pairs).entries = pairs := by
  have hreverse : (keysOf pairs.reverse).Nodup := by
    rw [keysOf, List.map_reverse]
    exact List.nodup_reverse.2 h
  have hmap : OrderedMap.empty.insertAll pairs = ⟨pairs, h⟩ := by
    refine ext_get? ?_ fun k => ?_
    · rw [keys_insertAll, keys_empty, List.nil_append, eraseDups_eq_self_of_nodup h]
      rfl
    -- no key is put in twice, so it does not matter from which side it is looked up
    · refine Option.ext fun value => ?_
      have hget : (OrderedMap.empty.insertAll pairs).get? k = pairs.reverse.lookup k := by
        rw [get?_insertAll, get?_empty]
        cases pairs.reverse.lookup k <;> rfl
      rw [hget, lookup_eq_some_iff_mem hreverse, List.mem_reverse]
      exact (lookup_eq_some_iff_mem h).symm
  rw [hmap]

namespace Builder

open Identifier.Rules (PlainName)

/-- The columns of a record are plain names, at least one and no two the same without quotes. -/
structure PlainColumns (style : Style) (record : Record) : Prop where
  some : record.entries ≠ []
  plain : ∀ key ∈ record.keys, style.rules.PlainName key.toList
  nodup : (record.keys.map fun key => style.rules.strip key.toList).Nodup

/-- A column with its quotes dropped, in quotes. -/
def strippedColumn (style : Style) (key : String) : String :=
  style.rules.quoteName (String.ofList (style.rules.strip key.toList))

/-- The insert of one record, with its columns written by `column`. -/
def recordText (style : Style) (column : String → String) (table : String) (record : Record) :
    String :=
  style.dialect.insertText
    ⟨table, record.keys.map column, [record.values.map style.dialect.literal]⟩

variable {style : Style} {record : Record}

theorem strippedColumn_eq (style : Style) (key : String) : strippedColumn style key =
    String.ofList (style.rules.quoteChars (style.rules.strip key.toList)) := by
  unfold strippedColumn Identifier.Rules.quoteName
  rw [String.toList_ofList]

theorem isBlank_recordText (style : Style) (column : String → String) (table : String)
    (record : Record) : Text.isBlank (recordText style column table record) = false :=
  Statement.isBlank_insertText (by decide) _

/-- The two statements of a record are the same exactly if all its columns have their quotes at
their ends. -/
theorem recordText_eq_iff (h : PlainColumns style record) (table : String) :
    recordText style (strippedColumn style) table record =
        recordText style style.rules.quoteName table record ↔
      ∀ key ∈ record.keys, style.rules.strip key.toList <:+: key.toList := by
  have hsublist : ∀ key ∈ record.keys,
      (strippedColumn style key).toList.Sublist (style.rules.quoteName key).toList := by
    intro key hkey
    rw [strippedColumn_eq, Identifier.Rules.quoteName, String.toList_ofList, String.toList_ofList]
    exact Identifier.Rules.sublist_quoteChars (h.plain key hkey)
  have hcolumn : ∀ key ∈ record.keys, strippedColumn style key = style.rules.quoteName key ↔
      style.rules.strip key.toList <:+: key.toList := by
    intro key hkey
    rw [strippedColumn_eq, Identifier.Rules.quoteName, String.ofList_inj]
    exact Identifier.Rules.quoteChars_eq_iff (h.plain key hkey)
  constructor
  · intro heq key hkey
    refine (hcolumn key hkey).1 ?_
    -- the columns are the only part in which the statements can differ in length
    have hlength := congrArg String.length heq
    unfold recordText Dialect.insertText Statement.insertText Statement.tuple at hlength
    simp only [String.length_append] at hlength
    have hcolumns : (Text.join ", " (record.keys.map (strippedColumn style))).length =
        (Text.join ", " (record.keys.map style.rules.quoteName)).length := by
      omega
    have hsame := Text.length_eq_of_length_join (fun key hkey => ?_) hcolumns key hkey
    · refine String.toList_inj.1 ((hsublist key hkey).eq_of_length ?_)
      rw [String.length_toList, String.length_toList, hsame]
    · rw [← String.length_toList, ← String.length_toList]
      exact (hsublist key hkey).length_le
  · intro hends
    have hsame : record.keys.map (strippedColumn style) = record.keys.map style.rules.quoteName :=
      List.map_congr_left fun key hkey => (hcolumn key hkey).2 (hends key hkey)
    unfold recordText
    rw [hsame]

/-- The assignments of a record with plain columns. -/
theorem assignments_setRecord (h : PlainColumns style record) :
    (Builder.empty.setRecord style record).live.assignments.entries =
      record.entries.map fun (key, value) =>
        (strippedColumn style key, style.dialect.literal value) := by
  have hpairs : Builder.empty.assignmentsOf style record = record.entries.map fun (key, value) =>
      (strippedColumn style key, style.dialect.literal value) := by
    refine List.map_congr_left fun (key, value) hentry => ?_
    have hkey : key ∈ record.keys := List.mem_map.2 ⟨_, hentry, rfl⟩
    have hprotect := Identifier.Rules.protect_plain (h.plain key hkey) Builder.empty.aliases
    rw [String.ofList_toList, ← strippedColumn_eq] at hprotect
    exact Prod.ext hprotect rfl
  have hkeys : keysOf (Builder.empty.assignmentsOf style record) =
      record.keys.map (strippedColumn style) := by
    rw [hpairs, keysOf, OrderedMap.keys, keysOf, List.map_map, List.map_map]
    rfl
  have hnodup : (keysOf (Builder.empty.assignmentsOf style record)).Nodup := by
    have hstrip : record.keys.map (fun key => style.rules.strip key.toList) =
        (record.keys.map (strippedColumn style)).map
          (fun column => style.rules.strip column.toList) := by
      rw [List.map_map]
      refine List.map_congr_left fun key _ => ?_
      rw [Function.comp_apply, strippedColumn_eq, String.toList_ofList,
        Identifier.Rules.strip_quoteChars, Identifier.Rules.strip_strip]
    rw [hkeys]
    exact List.Nodup.of_map _ (hstrip ▸ h.nodup)
  rw [setRecord_eq, ← hpairs]
  exact OrderedMap.entries_insertAll_empty hnodup

theorem insertRecord_plain (h : PlainColumns style record) (table? : Option String) :
    let b := Builder.empty.setRecord style record
    Builder.empty.insertRecord style table? record =
      .orRefused (Builder.empty.target style table?) b fun table =>
        .sending [recordText style (strippedColumn style) table record] b.afterWrite := by
  intro b
  have hentries := assignments_setRecord h
  have htarget : b.target style table? = Builder.empty.target style table? := by
    show (Builder.empty.setRecord style record).target style table? = _
    rw [setRecord_eq]
    rfl
  have hsome : b.live.assignments.isEmpty = false := by
    rw [OrderedMap.isEmpty, hentries, List.isEmpty_eq_false_iff]
    exact fun hnil => h.some (List.map_eq_nil_iff.1 hnil)
  have htext (table : String) :
      style.dialect.insertText ⟨table, b.live.assignments.entries.map Prod.fst,
        [b.live.assignments.entries.map Prod.snd]⟩ =
          recordText style (strippedColumn style) table record := by
    unfold recordText OrderedMap.keys OrderedMap.values keysOf
    rw [hentries, List.map_map, List.map_map, List.map_map, List.map_map]
    rfl
  show b.insert style table? = _
  unfold insert insertBy needAssignments
  rw [hsome, htarget]
  simp only [← htext]
  rfl

theorem tupleOf_keys (style : Style) (record : Record) :
    tupleOf style record.keys record = record.values.map style.dialect.literal := by
  unfold tupleOf OrderedMap.keys OrderedMap.values keysOf
  rw [List.map_map, List.map_map]
  refine List.map_congr_left fun (key, value) hentry => ?_
  rw [Function.comp_apply, Function.comp_apply, OrderedMap.get?_eq_some_iff.2 hentry]
  rfl

/-- A record that is the only row is queued, and sent alone. -/
theorem insertBatch_single (style : Style) (table? : Option String) (record : Record) :
    let queued := { Builder.empty with batch := insertRows style [record] }
    Builder.empty.insertBatch style table? (some [record]) =
      .orRefused (Builder.empty.target style table?) queued fun table =>
        .sending [recordText style style.rules.quoteName table record] Builder.empty := by
  intro queued
  have heven : EvenRows [record] := by
    refine List.forall_mem_singleton.2 (Bool.and_eq_true_iff.2 ⟨?_, List.all_eq_true.2 ?_⟩)
    · simp [columnsOf, OrderedMap.size, OrderedMap.keys]
    · intro key hkey
      exact Option.isSome_iff_exists.2 (OrderedMap.mem_keys_iff.1 hkey)
  have htexts (table : String) : batchTexts style table (insertRows style [record]) =
      [recordText style style.rules.quoteName table record] := by
    rw [batchTexts_insertRows]
    show [chunkText style table [record] [record]] = _
    unfold chunkText recordText
    rw [List.map_singleton, show columnsOf [record] = record.keys from rfl, tupleOf_keys]
    rfl
  have hplan := Builder.insertBatch_eq style .empty table?
    (show EvenRows ((some [record]).getD []) from heven)
  dsimp only at hplan
  have hsome : insertRows style [record] ≠ [] := List.cons_ne_nil _ _
  rw [hplan, show Builder.empty.batch ++ insertRows style ((some [record]).getD []) =
    insertRows style [record] from rfl, if_neg hsome]
  simp only [htexts]
  rfl

/-! ## What is sent -/

section

variable {C E : Type} [Connection C] [Backend C E]

open Session (SentOnce)

/-- A write with this plan, which needs a table and sends one statement about it. -/
theorem sentOnce_aboutTable (f : Style → Builder → Plan) (s : Session (Traced C)) (b : Builder)
    (w : World E) {table? : Option String} {text : String → String} {queued after : Builder}
    (hplan : f ⟨s.dialect, s.rules⟩ b =
      .orRefused (Builder.empty.target ⟨s.dialect, s.rules⟩ table?) queued fun table =>
        .sending [text table] after)
    (hblank : ∀ table, Text.isBlank (text table) = false) :
    let r := (Database.write f : Action (Database (Traced C)) E Nat).run (⟨s, some b⟩, w)
    (∀ refusal, Builder.empty.target ⟨s.dialect, s.rules⟩ table? = .error refusal →
      r.1 = .error (s.upgrade refusal.error) ∧ r.2.1.session = s) ∧
    ∀ table, Builder.empty.target ⟨s.dialect, s.rules⟩ table? = .ok table →
      SentOnce (PrefixSwap.apply s.config.tablePrefix s.config.swapPrefix (text table)) s w r.1
        r.2.1.session := by
  intro r
  constructor
  · intro refusal hrefusal
    rw [hrefusal] at hplan
    have hr : r = _ := Database.run_write f s b w
    rw [hr, hplan]
    exact ⟨rfl, rfl⟩
  · intro table htable
    rw [htable] at hplan
    exact Database.sentOnce_write f s b w hplan (hblank table)

/-- **One record, inserted in two ways.** Without a table both calls are refused alike. With one,
each of them sends one statement, with the prefix in its place. The statements have the same table
and the same values, and they are the same exactly if the quotes in the columns are all at their
ends: where there are others, the record is inserted without them and the row with them. -/
theorem single_row_sent (s : Session (Traced C)) (w : World E) {record : Record}
    (hrecord : PlainColumns ⟨s.dialect, s.rules⟩ record) (table? : Option String) :
    let style : Style := ⟨s.dialect, s.rules⟩
    let alone := (Database.write fun style b => b.insertRecord style table? record :
      Action (Database (Traced C)) E Nat).run (⟨s, some .empty⟩, w)
    let batched := (Database.write fun style b => b.insertBatch style table? (some [record]) :
      Action (Database (Traced C)) E Nat).run (⟨s, some .empty⟩, w)
    let sent := PrefixSwap.apply s.config.tablePrefix s.config.swapPrefix
    (∀ refusal, Builder.empty.target style table? = .error refusal →
      (alone.1 = .error (s.upgrade refusal.error) ∧ alone.2.1.session = s) ∧
        batched.1 = .error (s.upgrade refusal.error) ∧ batched.2.1.session = s) ∧
    ∀ table, Builder.empty.target style table? = .ok table →
      let text := recordText style (strippedColumn style) table record
      let rowText := recordText style style.rules.quoteName table record
      SentOnce (sent text) s w alone.1 alone.2.1.session ∧
      SentOnce (sent rowText) s w batched.1 batched.2.1.session ∧
      (text = rowText ↔ ∀ key ∈ record.keys, style.rules.strip key.toList <:+: key.toList) := by
  have halone := sentOnce_aboutTable (fun style b => b.insertRecord style table? record) s .empty w
    (insertRecord_plain hrecord table?) fun table => isBlank_recordText ..
  have hbatched := sentOnce_aboutTable (fun style b => b.insertBatch style table? (some [record])) s
    .empty w (insertBatch_single ⟨s.dialect, s.rules⟩ table? record) fun table =>
      isBlank_recordText ..
  exact ⟨fun refusal hrefusal => ⟨halone.1 refusal hrefusal, hbatched.1 refusal hrefusal⟩,
    fun table htable => ⟨halone.2 table htable, hbatched.2 table htable,
      recordText_eq_iff hrecord table⟩⟩

end

/-- A session that quotes with backticks. -/
def quotingSession : Session (Traced Scripted) :=
  .create (ConnectionConfig.ofKind "mock") (Traced.untouched (Scripted.ofDialect .mysql))

def quotingStyle : Style :=
  ⟨quotingSession.dialect, quotingSession.rules⟩

theorem plainColumns_of_quoting {record : Record} (hsome : record.entries ≠ [])
    (hkeys : ∀ key ∈ record.keys, quotingStyle.rules.strip key.toList ≠ [] ∧
      key.toList.all (fun c => !Chars.isBlank c && c != '.' && c != '(' && c != '*') = true)
    (hnodup : (record.keys.map fun key => quotingStyle.rules.strip key.toList).Nodup) :
    PlainColumns quotingStyle record := by
  refine ⟨hsome, fun key hkey => ?_, hnodup⟩
  obtain ⟨hleft, hsolid⟩ := hkeys key hkey
  -- without a stand-in no name begins with it
  refine ⟨hleft, fun c hc => ?_, fun h => h.1 rfl, fun h => h.1 rfl⟩
  have hchar := List.all_eq_true.1 hsolid c hc
  simpa [and_assoc] using hchar

/-- Columns with quotes at their ends, some of them doubled or on one side only. -/
def edgeRecord : Record :=
  .ofList [("`id`", .int 1), ("name``", .text "x")]

theorem plainColumns_edgeRecord : PlainColumns quotingStyle edgeRecord :=
  plainColumns_of_quoting (by decide) (by decide +kernel) (by decide +kernel)

/-- Quotes at the ends make no difference. -/
theorem single_row_sent_edge :
    let alone := (Database.write fun style b => b.insertRecord style (some "t") edgeRecord :
      Action (Database (Traced Scripted)) Script Nat).run
        (⟨quotingSession, some .empty⟩, ⟨.empty, default⟩)
    let batched := (Database.write fun style b =>
      b.insertBatch style (some "t") (some [edgeRecord]) :
        Action (Database (Traced Scripted)) Script Nat).run
          (⟨quotingSession, some .empty⟩, ⟨.empty, default⟩)
    let sql := "INSERT INTO `t` (`id`, `name`) VALUES (1, 'x')"
    PlainColumns quotingStyle edgeRecord ∧
      Session.SentOnce sql quotingSession (⟨.empty, default⟩ : World Script) alone.1
        alone.2.1.session ∧
      Session.SentOnce sql quotingSession (⟨.empty, default⟩ : World Script) batched.1
        batched.2.1.session := by
  dsimp only
  have htable : Builder.empty.target quotingStyle (some "t") = .ok "`t`" := by decide +kernel
  obtain ⟨-, hsent⟩ := single_row_sent quotingSession (⟨.empty, default⟩ : World Script)
    plainColumns_edgeRecord (some "t")
  obtain ⟨halone, hbatched, hsame⟩ := hsent "`t`" htable
  have hends : ∀ key ∈ edgeRecord.keys, quotingStyle.rules.strip key.toList <:+: key.toList := by
    decide +kernel
  have hsql : PrefixSwap.apply quotingSession.config.tablePrefix quotingSession.config.swapPrefix
      (recordText ⟨quotingSession.dialect, quotingSession.rules⟩ quotingSession.rules.quoteName
        "`t`" edgeRecord) = "INSERT INTO `t` (`id`, `name`) VALUES (1, 'x')" := by
    decide +kernel
  rw [hsame.2 hends, hsql] at halone
  rw [hsql] at hbatched
  exact ⟨plainColumns_edgeRecord, halone, hbatched⟩

/-- A column with a quote in the middle of its name. -/
def innerRecord : Record :=
  .ofList [("a`b", .int 1)]

/-- The record is inserted without the quote, and the row with it. -/
theorem single_row_differs :
    let alone := (Database.write fun style b => b.insertRecord style (some "t") innerRecord :
      Action (Database (Traced Scripted)) Script Nat).run
        (⟨quotingSession, some .empty⟩, ⟨.empty, default⟩)
    let batched := (Database.write fun style b =>
      b.insertBatch style (some "t") (some [innerRecord]) :
        Action (Database (Traced Scripted)) Script Nat).run
          (⟨quotingSession, some .empty⟩, ⟨.empty, default⟩)
    PlainColumns quotingStyle innerRecord ∧
      alone.2.1.session.conn.events.filterMap BackendEvent.statement? =
        ["INSERT INTO `t` (`ab`) VALUES (1)"] ∧
      batched.2.1.session.conn.events.filterMap BackendEvent.statement? =
        ["INSERT INTO `t` (`a`b`) VALUES (1)"] := by
  intro alone batched
  have hplain : PlainColumns quotingStyle innerRecord :=
    plainColumns_of_quoting (by decide) (by decide +kernel) (by decide +kernel)
  exact ⟨hplain, by decide +kernel, by decide +kernel⟩

end Builder

end SqlGateway
