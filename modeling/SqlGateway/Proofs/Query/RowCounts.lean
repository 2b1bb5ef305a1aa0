import SqlGateway.Proofs.Query.Terminals
import SqlGateway.Proofs.Session.Answers

/-!
# Counting the rows of a select

A builder's count is its select with a count in the place of the select list, and with the window
of the select at its end. The engine applies the window to the rows that it has found: of a select
these are the rows of the tables, but of a count there is only one, which holds the number. So a
count does not know of the window unless the window leaves that one row out, and then it is zero.

What the engine finds is given by three rules (`EngineRules`), as is that the session answers with
it.

Main definitions:

* `window`: the rows that a limit and an offset keep.
* `Builder.Plain`: a builder whose select neither groups rows nor drops those that occur twice.
* `EngineRules`: what an engine finds for the select and for the count.

Main results:

* `Builder.selectText_eq`, `Builder.countText_eq`: both texts end in the window.
* `PrefixSwap.exists_apply_append`: the swap keeps the word that a text begins with.
* `Database.counts_rows`: the rows, their count, and when the two agree.
-/

namespace SqlGateway

/-! ## Windows -/

/-- The rows that a limit and an offset keep. An offset needs a limit. -/
def window {α : Type} (limit? offset? : Option Nat) (rows : List α) : List α :=
  match limit? with
  | none => rows
  | some limit => (rows.drop (offset?.getD 0)).take limit

/-- The window keeps the first row. -/
def KeepsFirst (limit? offset? : Option Nat) : Prop :=
  ∀ limit, limit? = some limit → 0 < limit ∧ offset?.getD 0 = 0

theorem keepsFirst_none (offset? : Option Nat) : KeepsFirst none offset? :=
  fun _ h => nomatch h

theorem keepsFirst_some {limit : Nat} {offset? : Option Nat} :
    KeepsFirst (some limit) offset? ↔ 0 < limit ∧ offset?.getD 0 = 0 :=
  ⟨fun h => h limit rfl, fun h _ hlimit => Option.some.inj hlimit ▸ h⟩

instance (limit? offset? : Option Nat) : Decidable (KeepsFirst limit? offset?) :=
  match limit? with
  | none => .isTrue (keepsFirst_none offset?)
  | some _ => decidable_of_iff _ keepsFirst_some.symm

theorem window_singleton {α : Type} (limit? offset? : Option Nat) (row : α) :
    window limit? offset? [row] = if KeepsFirst limit? offset? then [row] else [] := by
  cases limit? with
  | none => exact (if_pos (keepsFirst_none offset?)).symm
  | some limit =>
    simp only [window, keepsFirst_some]
    rcases offset?.getD 0 with _ | offset <;> rcases limit with _ | limit <;> simp

theorem length_window_some {α : Type} (limit : Nat) (offset? : Option Nat) (rows : List α) :
    (window (some limit) offset? rows).length = min limit (rows.length - offset?.getD 0) := by
  rw [window, List.length_take, List.length_drop]

/-- The number of all rows, or zero if the window leaves the first row out, is that of the rows in
the window exactly if the window keeps no row, reaches from the first row to the last one, or begins
behind the last one. -/
theorem counted_eq_length_window_iff {α : Type} (limit? offset? : Option Nat) (rows : List α) :
    (if KeepsFirst limit? offset? then rows.length else 0) =
        (window limit? offset? rows).length ↔
      ∀ limit, limit? = some limit → limit = 0 ∨
        rows.length ≤ if offset?.getD 0 = 0 then limit else offset?.getD 0 := by
  cases limit? with
  | none =>
    rw [if_pos (keepsFirst_none offset?)]
    exact ⟨fun _ _ h => (nomatch h), fun _ => rfl⟩
  | some limit =>
    simp only [length_window_some, keepsFirst_some, Option.some.injEq, forall_eq']
    split_ifs <;> omega

/-- What is found in a window of the rows. -/
def Found.windowed (limit? offset? : Option Nat) (found : Found) : Found :=
  ⟨found.names, window limit? offset? found.rows⟩

/-! ## Texts that begin with a word -/

/-- What replaces nothing within a beginning of the text leaves the beginning. -/
theorem Chars.exists_replaceBy_append {rule : List Char → Option Replacement} {lead : List Char}
    (h : ∀ c ∈ lead, ∀ cs, rule (c :: cs) = none) (cs : List Char) :
    ∃ rest, replaceBy rule (lead ++ cs) = lead ++ rest := by
  induction lead with
  | nil => exact ⟨_, rfl⟩
  | cons c lead ih =>
    obtain ⟨rest, hrest⟩ := ih fun d hd => h d (List.mem_cons_of_mem c hd)
    refine ⟨rest, ?_⟩
    rw [replaceBy] at hrest ⊢
    rw [List.cons_append, replaceFrom, h c (List.mem_cons_self ..)]
    exact congrArg (c :: ·) hrest

/-- The swap keeps the word that a text begins with, since nothing stands before it. -/
theorem PrefixSwap.exists_apply_append (tablePrefix standIn : String) {word : String}
    (hword : ∀ c ∈ word.toList, Chars.isWord c = true) (text : String) :
    ∃ rest, apply tablePrefix standIn (word ++ text) = word ++ rest := by
  unfold apply
  split
  · exact ⟨text, rfl⟩
  · have hnone : ∀ c ∈ word.toList, ∀ cs,
        swapRule standIn.toList tablePrefix.toList (c :: cs) = none :=
      fun c hc cs => if_pos (hword c hc)
    obtain ⟨rest, hrest⟩ := Chars.exists_replaceBy_append hnone text.toList
    refine ⟨String.ofList rest, ?_⟩
    rw [String.toList_append, hrest, String.ofList_append, String.ofList_toList]

/-- No statement that begins with SELECT is a write, whatever follows. -/
theorem Statement.isWrite_select (rest : String) : isWrite ("SELECT" ++ rest) = false := by
  unfold isWrite
  rw [String.toList_append]
  rfl

theorem Statement.isWrite_swapped_select (tablePrefix standIn rest : String) :
    isWrite (PrefixSwap.apply tablePrefix standIn ("SELECT" ++ rest)) = false := by
  have hword : "SELECT".toList.all Chars.isWord = true := by decide +kernel
  obtain ⟨rest', hrest⟩ := PrefixSwap.exists_apply_append tablePrefix standIn
    (List.all_eq_true.1 hword) rest
  rw [hrest]
  exact isWrite_select rest'

/-! ## Selects and counts -/

namespace Builder

/-- The builder without a limit. -/
def unlimited (b : Builder) : Builder :=
  { b with limit := none }

/-- The window as it stands at the end of a select. -/
def windowText (style : Style) (b : Builder) : String :=
  match b.limit with
  | none => ""
  | some limit => style.dialect.windowPart limit b.offset

/-- The select neither groups rows nor drops those that occur twice. -/
structure Plain (b : Builder) : Prop where
  distinct : b.distinct = false
  groups : b.live.groups = [] ∧ b.snapshot.groups = []
  havings : b.live.havings = [] ∧ b.snapshot.havings = []

instance (b : Builder) : Decidable b.Plain :=
  decidable_of_iff (b.distinct = false ∧ (b.live.groups = [] ∧ b.snapshot.groups = []) ∧
      b.live.havings = [] ∧ b.snapshot.havings = [])
    ⟨fun ⟨hdistinct, hgroups, hhavings⟩ => ⟨hdistinct, hgroups, hhavings⟩,
      fun h => ⟨h.distinct, h.groups, h.havings⟩⟩

theorem selectTail_eq (style : Style) (b : Builder) :
    b.merge.selectTail style = b.unlimited.merge.selectTail style ++ b.windowText style := by
  have hmerge : b.unlimited.merge = b.merge.unlimited := by
    unfold merge unlimited
    split <;> rfl
  have hwindow : b.windowText style = b.merge.windowText style := by
    unfold merge
    split <;> rfl
  rw [hmerge, hwindow]
  unfold selectTail windowText unlimited
  dsimp only
  exact (congrArg (· ++ _) String.append_empty).symm

theorem selectText_eq (style : Style) (b : Builder) :
    b.selectText style = b.unlimited.selectText style ++ b.windowText style := by
  have hhead : b.merge.selectHead style = b.unlimited.merge.selectHead style := by
    unfold merge unlimited
    split <;> rfl
  unfold selectText
  dsimp only
  rw [selectTail_eq, hhead, String.append_assoc]

theorem countText_eq (style : Style) (b : Builder) :
    b.countText style = b.unlimited.countText style ++ b.windowText style := by
  unfold countText
  rw [selectTail_eq, ← String.append_assoc]
  rfl

theorem exists_selectText (style : Style) (b : Builder) :
    ∃ rest, b.selectText style = "SELECT" ++ rest := by
  unfold selectText selectHead
  dsimp only
  split
  · exact ⟨" DISTINCT " ++ _ ++ _, by simp only [← String.append_assoc]; rfl⟩
  · exact ⟨" " ++ _ ++ _, by simp only [← String.append_assoc]; rfl⟩

theorem exists_countText (style : Style) (b : Builder) :
    ∃ rest, b.countText style = "SELECT" ++ rest := by
  unfold countText Dialect.count
  exact ⟨" COUNT(*) AS " ++ _ ++ _, by simp only [← String.append_assoc]; rfl⟩

/-! ### The table of a call -/

/-- The builder without tables and aliases. -/
def untabled (b : Builder) : Builder :=
  { b with
    live := { b.live with tables := [], aliases := [] }
    snapshot := { b.snapshot with tables := [], aliases := [] } }

theorem untabled_fromTable (style : Style) (b : Builder) (table : String) :
    (b.fromTable style table).untabled = b.untabled := by
  have hadd (b : Builder) (table : String) : (b.addTable table).untabled = b.untabled := by
    unfold addTable add untabled
    cases b.caching <;> rfl
  have halias (b : Builder) (name : String) : (b.addAlias name).untabled = b.untabled := by
    unfold addAlias add untabled
    cases b.caching <;> dsimp only <;> (repeat' split) <;> rfl
  unfold fromTable trackAlias
  rw [hadd]
  split
  · exact halias b _
  · rfl

theorem untabled_fromArgument (style : Style) (b : Builder) (table? : Option String) :
    (b.fromArgument style table?).untabled = b.untabled := by
  have hall (tables : List String) (b : Builder) :
      (tables.foldl (fromTable style) b).untabled = b.untabled := by
    induction tables generalizing b with
    | nil => rfl
    | cons table tables ih => exact (ih _).trans (untabled_fromTable style b table)
  unfold fromArgument
  split
  · exact hall _ b
  · rfl

/-- The table of a call neither changes the window nor groups rows. -/
theorem limit_fromArgument (style : Style) (b : Builder) (table? : Option String) :
    (b.fromArgument style table?).limit = b.limit := by
  have hsame := congrArg Builder.limit (untabled_fromArgument style b table?)
  exact hsame

theorem offset_fromArgument (style : Style) (b : Builder) (table? : Option String) :
    (b.fromArgument style table?).offset = b.offset := by
  have hsame := congrArg Builder.offset (untabled_fromArgument style b table?)
  exact hsame

theorem Plain.fromArgument {b : Builder} (h : b.Plain) (style : Style) (table? : Option String) :
    (b.fromArgument style table?).Plain := by
  have hplain : (b.fromArgument style table?).untabled.Plain := by
    rw [untabled_fromArgument]
    exact ⟨h.distinct, h.groups, h.havings⟩
  exact ⟨hplain.distinct, hplain.groups, hplain.havings⟩

end Builder

/-! ## What the engine finds -/

/-- What an engine finds for the statements of a builder in the form in which they are sent. For the
select without its window these are the rows; for the count without its window, if the select is a
plain one, it is one row, which holds the number of those rows under one name. With its window each
of them gets the rows that the window keeps. -/
structure EngineRules (engine : String → Option Found) (sent : String → String) (style : Style)
    (b : Builder) (name : String) (rows : List (List Value)) : Prop where
  select : ∃ names, engine (sent (b.unlimited.selectText style)) = some ⟨names, rows⟩
  count : b.Plain → ∃ value number,
    engine (sent (b.unlimited.countText style)) = some ⟨[name], [[value]]⟩ ∧
      value.asInt? = some number ∧ number.toInt = rows.length
  window : ∀ limit, b.limit = some limit →
    ∀ text ∈ [b.unlimited.selectText style, b.unlimited.countText style],
      engine (sent (text ++ style.dialect.windowPart limit b.offset)) =
        (engine (sent text)).map (Found.windowed (some limit) b.offset)

namespace EngineRules

variable {engine : String → Option Found} {sent : String → String} {style : Style} {b : Builder}
  {name : String} {rows : List (List Value)}

theorem windowed (h : EngineRules engine sent style b name rows) {text : String}
    (htext : text ∈ [b.unlimited.selectText style, b.unlimited.countText style]) :
    engine (sent (text ++ b.windowText style)) =
      (engine (sent text)).map (Found.windowed b.limit b.offset) := by
  unfold Builder.windowText
  cases hlimit : b.limit with
  | none =>
    rw [String.append_empty]
    exact Option.map_id_fun'.symm ▸ rfl
  | some limit => exact h.window limit hlimit text htext

theorem selectText (h : EngineRules engine sent style b name rows) :
    ∃ names, engine (sent (b.selectText style)) =
      some ⟨names, SqlGateway.window b.limit b.offset rows⟩ := by
  obtain ⟨names, hall⟩ := h.select
  refine ⟨names, ?_⟩
  rw [Builder.selectText_eq, h.windowed (List.mem_cons_self ..), hall]
  rfl

/-- The window of a count keeps its one row or nothing. -/
theorem countText (h : EngineRules engine sent style b name rows) (hplain : b.Plain) :
    ∃ value number, engine (sent (b.countText style)) =
        some ⟨[name], if KeepsFirst b.limit b.offset then [[value]] else []⟩ ∧
      value.asInt? = some number ∧ number.toInt = rows.length := by
  obtain ⟨value, number, hall, hnumber⟩ := h.count hplain
  refine ⟨value, number, ?_, hnumber⟩
  rw [Builder.countText_eq, h.windowed (List.mem_cons_of_mem _ (List.mem_cons_self ..)), hall,
    ← window_singleton]
  rfl

end EngineRules

/-- The first value under one name is the count if the name is the one that is asked for. -/
theorem Cursor.Presents.countOf {c : Cursor} {name : String} {value : Value} {number : Int64}
    (h : c.Presents ⟨[name], [[value]]⟩) (hnumber : value.asInt? = some number) (column : String) :
    Session.countOf c column = if name = column then number.toInt.toNat else 0 := by
  have hvalue : (c.value? column).1 = if column = name then some value else none := by
    rw [h.value? column]
    exact OrderedMap.get?_insert .empty name column value
  unfold Session.countOf
  rw [hvalue]
  by_cases hname : name = column
  · rw [if_pos hname, if_pos hname.symm, Option.bind_some, hnumber]
  · rw [if_neg hname, if_neg (Ne.symm hname)]
    rfl

/-! ## Rows and counts -/

namespace Database

variable {C E : Type} [Connection C] [Backend C E]
variable {s : Session C} {b : Builder} {w : World E} {f : Style → Builder → Read} {found : Found}

/-- A select that the session answers gives a cursor on what was found. -/
theorem read_answers {rest : String}
    (hselect : (f ⟨s.dialect, s.rules⟩ b).statement = "SELECT" ++ rest)
    (h : Session.Answers s w (PrefixSwap.apply s.config.tablePrefix s.config.swapPrefix
      (f ⟨s.dialect, s.rules⟩ b).statement) found) :
    ∃ c, ((read f : Action (Database C) E Cursor).run (⟨s, some b⟩, w)).1 = .ok c ∧
      c.Presents found := by
  rw [run_read]
  dsimp only
  refine Session.read_answers ?_ ?_ ?_
  · rw [hselect, Text.isBlank_append]
    exact Bool.and_eq_false_imp.2 fun h => absurd h (by decide)
  · rw [Session.finalText_nil, hselect]
    exact Statement.isWrite_swapped_select ..
  · rw [Session.finalText_nil]
    exact h

theorem run_count (f : Style → Builder → Read) (d : Database C) (w : World E) :
    ((count f : Action (Database C) E Nat).run (d, w)).1 =
      ((read f : Action (Database C) E Cursor).run (d, w)).1.map fun c =>
        if c.numRows = 0 then 0 else Session.countOf c "numrows" :=
  congrArg Prod.fst (Action.run_bind_pure_apply (read f)
    (fun c : Cursor => if c.numRows = 0 then 0 else Session.countOf c "numrows") (d, w))

/-- A count is read from the one row, and without a row it is zero. -/
theorem count_answers {name : String} {value : Value} {number : Int64} {kept : Prop}
    [Decidable kept] {rest : String}
    (hselect : (f ⟨s.dialect, s.rules⟩ b).statement = "SELECT" ++ rest)
    (h : Session.Answers s w (PrefixSwap.apply s.config.tablePrefix s.config.swapPrefix
      (f ⟨s.dialect, s.rules⟩ b).statement) ⟨[name], if kept then [[value]] else []⟩)
    (hnumber : value.asInt? = some number) :
    ((count f : Action (Database C) E Nat).run (⟨s, some b⟩, w)).1 =
      .ok (if name = "numrows" ∧ kept then number.toInt.toNat else 0) := by
  obtain ⟨c, hc, hpresents⟩ := read_answers hselect h
  rw [run_count, hc]
  refine congrArg Except.ok ?_
  dsimp only
  by_cases hkept : kept
  · rw [if_pos hkept] at hpresents
    have hone : c.numRows = 1 := hpresents.numRows
    rw [if_neg (hone ▸ Nat.one_ne_zero), hpresents.countOf hnumber]
    simp only [hkept, and_true]
  · rw [if_neg hkept] at hpresents
    have hnone : c.numRows = 0 := hpresents.numRows
    rw [if_pos hnone, if_neg fun h => hkept h.2]

/-- **Rows and their count.** On a session that answers with what the engine finds, a plain select
gives the rows in its window. The count of the same builder gives the number of all rows, whatever
the window keeps of them, unless the window leaves the first row out: then it is zero. So the
two agree if there is no window; otherwise exactly if the window keeps no row at all, or begins with
the first row and keeps all of them, or begins behind the last one. -/
theorem counts_rows {engine : String → Option Found} {name : String} {rows : List (List Value)}
    (s : Session C) (w : World E) (b : Builder) (table? : Option String) (hplain : b.Plain)
    (hrules : EngineRules engine
      (PrefixSwap.apply s.config.tablePrefix s.config.swapPrefix) ⟨s.dialect, s.rules⟩
      (b.fromArgument ⟨s.dialect, s.rules⟩ table?) name rows)
    (hanswers : ∀ sql ∈ [(b.get ⟨s.dialect, s.rules⟩ table? none none).statement,
        (b.countResults ⟨s.dialect, s.rules⟩ table?).statement], ∀ found,
      engine (PrefixSwap.apply s.config.tablePrefix s.config.swapPrefix sql) = some found →
        Session.Answers s w (PrefixSwap.apply s.config.tablePrefix s.config.swapPrefix sql)
          found) :
    ∃ c n,
      ((read fun style b => b.get style table? none none :
        Action (Database C) E Cursor).run (⟨s, some b⟩, w)).1 = .ok c ∧
      ((count fun style b => b.countResults style table? :
        Action (Database C) E Nat).run (⟨s, some b⟩, w)).1 = .ok n ∧
      c.numRows = (window b.limit b.offset rows).length ∧
      n = (if name = "numrows" ∧ KeepsFirst b.limit b.offset then rows.length else 0) ∧
      (name = "numrows" →
        (n = c.numRows ↔ ∀ limit, b.limit = some limit → limit = 0 ∨
          rows.length ≤ if b.offset.getD 0 = 0 then limit else b.offset.getD 0)) := by
  have hlimit := b.limit_fromArgument ⟨s.dialect, s.rules⟩ table?
  have hoffset := b.offset_fromArgument ⟨s.dialect, s.rules⟩ table?
  obtain ⟨names, hselect⟩ := hrules.selectText
  obtain ⟨value, number, hcount, hvalue, hnumber⟩ :=
    hrules.countText (hplain.fromArgument ⟨s.dialect, s.rules⟩ table?)
  rw [hlimit, hoffset] at hselect hcount
  obtain ⟨selected, hselected⟩ :=
    (b.fromArgument ⟨s.dialect, s.rules⟩ table?).exists_selectText ⟨s.dialect, s.rules⟩
  obtain ⟨counted, hcounted⟩ :=
    (b.fromArgument ⟨s.dialect, s.rules⟩ table?).exists_countText ⟨s.dialect, s.rules⟩
  obtain ⟨c, hc, hpresents⟩ := read_answers (f := fun style b => b.get style table? none none)
    hselected (hanswers _ (List.mem_cons_self ..) _ hselect)
  have hn := count_answers (f := fun style b => b.countResults style table?) hcounted
    (hanswers _ (List.mem_cons_of_mem _ (List.mem_cons_self ..)) _ hcount) hvalue
  rw [hnumber, Int.toNat_natCast] at hn
  refine ⟨c, _, hc, hn, hpresents.numRows, rfl, ?_⟩
  rintro rfl
  rw [hpresents.numRows]
  simp only [true_and]
  exact counted_eq_length_window_iff b.limit b.offset rows

/-- What an engine finds in a table of three rows, by the statement. A statement stands before those
that it begins with. -/
def threeRowAnswers : List (String × Found) :=
  [("SELECT * FROM `t` LIMIT 5", ⟨["id"], [[.int 7], [.int 8], [.int 9]]⟩),
    ("SELECT * FROM `t` LIMIT 1", ⟨["id"], [[.int 7]]⟩),
    ("SELECT * FROM `t`", ⟨["id"], [[.int 7], [.int 8], [.int 9]]⟩),
    ("SELECT COUNT(*) AS `numrows` FROM `t` LIMIT 5", ⟨["numrows"], [[.int 3]]⟩),
    ("SELECT COUNT(*) AS `numrows` FROM `t` LIMIT 1", ⟨["numrows"], [[.int 3]]⟩),
    ("SELECT COUNT(*) AS `numrows` FROM `t`", ⟨["numrows"], [[.int 3]]⟩)]

def threeRowEngine (sql : String) : Option Found :=
  threeRowAnswers.lookup sql

/-- A session with the engine. -/
def threeRowSession : Session Scripted :=
  .create (ConnectionConfig.ofKind "mock") (Scripted.ofDialect .mysql)

def threeRowWorld : World Script :=
  ⟨.empty, { (default : Script) with
    replies := threeRowAnswers.map fun answer =>
      ⟨answer.1, 0, some (.buffered (.ofRows (answer.2.names.map .named) answer.2.rows))⟩ }⟩

theorem threeRow_answers {sql : String} {found : Found} (h : threeRowEngine sql = some found) :
    threeRowSession.Answers threeRowWorld sql found := by
  obtain ⟨before, after, hsplit, -⟩ := List.lookup_eq_some_iff.1 h
  have hmem : (sql, found) ∈ threeRowAnswers := by
    rw [hsplit]
    exact List.mem_append_right before (List.mem_cons_self ..)
  have hoff : threeRowSession.cacheOn = false := by decide +kernel
  have hopen : ∀ answer ∈ threeRowAnswers,
      (Session.opened answer.1 (threeRowSession, threeRowWorld)).1 = .ok () := by
    decide +kernel
  have hrun : ∀ answer ∈ threeRowAnswers,
      ((Backend.execute answer.1 : Action Scripted Script _).run
        ((Session.opened answer.1 (threeRowSession, threeRowWorld)).2.1.conn,
          (Session.opened answer.1 (threeRowSession, threeRowWorld)).2.2)).1 =
        .ok (some (.buffered (.ofRows (answer.2.names.map .named) answer.2.rows))) := by
    decide +kernel
  have hnames : (found.names.map Column.named).map Column.name = found.names := by
    rw [List.map_map]
    exact List.map_id _
  refine .asked (fun hon => ?_) (hopen (sql, found) hmem) (hrun (sql, found) hmem) hnames
  rw [hoff, Bool.false_and] at hon
  cases hon

/-- A builder with nothing but a limit. -/
def limited (limit : Nat) : Builder :=
  { Builder.empty with limit := some limit }

/-- The engine follows the rules for the statements that it knows. -/
theorem threeRow_rules : ∀ limit ∈ [5, 1], EngineRules threeRowEngine
    (PrefixSwap.apply threeRowSession.config.tablePrefix threeRowSession.config.swapPrefix)
    ⟨threeRowSession.dialect, threeRowSession.rules⟩
    ((limited limit).fromArgument ⟨threeRowSession.dialect, threeRowSession.rules⟩ (some "t"))
    "numrows" [[.int 7], [.int 8], [.int 9]] := by
  intro limit hlimit
  refine ⟨⟨["id"], ?_⟩, fun _ => ⟨.int 3, 3, ?_, rfl, rfl⟩, fun n hn => ?_⟩
  · revert limit
    decide +kernel
  · revert limit
    decide +kernel
  · obtain rfl : limit = n := Option.some.inj hn
    clear hn
    revert limit
    decide +kernel

/-- The window keeps all three rows. -/
theorem counts_rows_limited : ∃ c,
    ((read fun style b => b.get style (some "t") none none :
      Action (Database Scripted) Script Cursor).run
        (⟨threeRowSession, some (limited 5)⟩, threeRowWorld)).1 = .ok c ∧
      ((count fun style b => b.countResults style (some "t") :
        Action (Database Scripted) Script Nat).run
          (⟨threeRowSession, some (limited 5)⟩, threeRowWorld)).1 = .ok 3 ∧
      c.numRows = 3 := by
  obtain ⟨c, n, hc, hn, hrows, hcount, -⟩ := counts_rows threeRowSession threeRowWorld (limited 5)
    (some "t") (by decide) (threeRow_rules 5 (by decide))
    fun sql _ found hfound => threeRow_answers hfound
  rw [hcount] at hn
  exact ⟨c, hc, hn, hrows⟩

/-- The window keeps the first row of three, and the count is still three. -/
theorem counts_rows_differ :
    (limited 1).Plain ∧
      EngineRules threeRowEngine
        (PrefixSwap.apply threeRowSession.config.tablePrefix threeRowSession.config.swapPrefix)
        ⟨threeRowSession.dialect, threeRowSession.rules⟩
        ((limited 1).fromArgument ⟨threeRowSession.dialect, threeRowSession.rules⟩ (some "t"))
        "numrows" [[.int 7], [.int 8], [.int 9]] ∧
      (∀ sql found, threeRowEngine sql = some found →
        threeRowSession.Answers threeRowWorld sql found) ∧
      ((read fun style b => b.get style (some "t") none none :
        Action (Database Scripted) Script Cursor).run
          (⟨threeRowSession, some (limited 1)⟩, threeRowWorld)).1.map Cursor.numRows = .ok 1 ∧
      ((count fun style b => b.countResults style (some "t") :
        Action (Database Scripted) Script Nat).run
          (⟨threeRowSession, some (limited 1)⟩, threeRowWorld)).1 = .ok 3 :=
  ⟨by decide, threeRow_rules 1 (by decide), fun _ _ => threeRow_answers, by decide +kernel,
    by decide +kernel⟩

end Database

end SqlGateway
