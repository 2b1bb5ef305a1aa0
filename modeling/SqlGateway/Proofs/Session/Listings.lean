import SqlGateway.Proofs.Session.Logs

/-!
# Names that are remembered

A session reads the names of the tables, and of the columns of a table, when they are first asked
for, and remembers them. Several operations ask for them, and all of them go through one step, which
answers from what is remembered or else reads and notes (`Session.recollect`). So an operation can
do three things only to what is remembered: it forgets all of it, it leaves it alone, or it adds one
listing that was not there, read by the last statement that it sent.

Main definitions:

* `Listing`: names that may be remembered.
* `Listing.ReadBy`: the names were read by the statement that was logged last.
* `Session.recollect`: the step that asks for a listing.

Main results:

* `Session.catalogue_perform`: what an operation does to the remembered names.
* `Session.names?_after`: names are remembered until all of them are forgotten.
* `Session.readIn_of_names?`: names that are remembered after a run were read in it, and not
  forgotten since.
-/

namespace SqlGateway

variable {C E α β : Type}

/-- Names that a session remembers once it has read them. -/
inductive Listing where
  | tables
  /-- The columns of a table, by the name that it has in the database. -/
  | columns (table : String)
  deriving DecidableEq

namespace Listing

/-- What the error speaks of where the dialect has no statement for the listing. -/
def feature : Listing → String
  | tables => "list_tables"
  | columns _ => "list_fields"

/-- The statement that reads the names. -/
def text? (d : Dialect) : Listing → Option String
  | tables => d.listTables? none
  | columns table => d.listColumns? table

/-- The names as they are remembered. -/
def names? (c : Catalogue) : Listing → Option (List String)
  | tables => c.tables
  | columns table => c.columns.get? table

/-- The catalogue with the names in it. -/
def note (names : List String) (c : Catalogue) : Listing → Catalogue
  | tables => { c with tables := some names }
  | columns table => { c with columns := c.columns.insert table names }

@[simp]
theorem names?_empty (l : Listing) : l.names? .empty = none := by
  cases l <;> rfl

/-- Names that are noted leave all others alone. -/
theorem names?_note (l other : Listing) (names : List String) (c : Catalogue) :
    l.names? (other.note names c) = if l = other then some names else l.names? c := by
  cases l with
  | tables => cases other <;> rfl
  | columns table =>
    cases other with
    | tables => rfl
    | columns noted =>
      show (c.columns.insert noted names).get? table = _
      simp only [OrderedMap.get?_insert, columns.injEq]
      rfl

/-- The names were read by the statement that was logged last. -/
def ReadBy (E : Type) [Connection C] [Backend C E] (l : Listing) (names : List String)
    (s t : Session (Logged C)) : Prop :=
  ∃ d text handle?, l.text? d = some text ∧
    Session.SentLast E (s.finalText text []) handle? s t ∧
    names = Session.firstColumn (Session.cursorOf (s.finalText text []) handle?)

/-- The names were not remembered, so they were read and noted. -/
structure Added (E : Type) [Connection C] [Backend C E] (l : Listing) (names : List String)
    (s t : Session (Logged C)) : Prop where
  unknown : l.names? s.catalogue = none
  noted : t.catalogue = l.note names s.catalogue
  readBy : s.cacheOn = false → l.ReadBy E names s t

/-- Only what was not there is added. -/
theorem Added.names? [Connection C] [Backend C E] {l other : Listing} {names noted : List String}
    {s t : Session (Logged C)} (h : other.Added E noted s t)
    (hnames : l.names? s.catalogue = some names) : l.names? t.catalogue = some names := by
  rw [h.noted, names?_note, if_neg]
  · exact hnames
  · rintro rfl
    rw [h.unknown] at hnames
    cases hnames

end Listing

namespace Session

/-! ## Operations that read no names -/

/-- What is remembered stays as it is. -/
def sameNames (C : Type) : Law (Session C) where
  rel s t := t.catalogue = s.catalogue
  refl _ := rfl
  trans hst htu := htu.trans hst

theorem governs_onConn_sameNames {a : Action C E α} : (sameNames C).Governs (onConn a).run :=
  fun _ => rfl

theorem governs_onStore_sameNames {default : α}
    {f : ResultStore → Disk → α × ResultStore × Disk} :
    (sameNames C).Governs (onStore default f : Effect (Session C) E α) :=
  governs_onStore_of_parts (fun _ _ => rfl) fun _ => rfl

/-- The operation asks for names that are remembered. -/
def Operation.asksNames : Operation → Bool
  | tables _ | tableExists _ | columns _ | columnExists _ _ | primaryKey _ => true
  | _ => false

variable [Connection C] [Backend C E]

theorem tended_sameNames : Tended E (sameNames C) where
  connect _ := governs_onConn_sameNames
  reconnect := governs_onConn_sameNames
  selectDatabase _ := governs_onConn_sameNames
  setCharset _ _ := governs_onConn_sameNames
  close _ := rfl

theorem governs_connect_sameNames :
    (sameNames C).Governs (connect : Action (Session C) E Unit).run :=
  governs_connect tended_sameNames

theorem governs_query_sameNames {sql : String} {binds : List Value} :
    (sameNames C).Governs (query sql binds : Action (Session C) E _).run := by
  have hgroup : (sameNames C).Governs (completeGroup : Action (Session C) E _).run :=
    governs_completeGroup (fun _ _ => rfl) governs_onConn_sameNames governs_onConn_sameNames
  have hsend (sql : String) : (sameNames C).Governs (send sql : Action (Session C) E _).run :=
    governs_send governs_connect_sameNames (fun _ _ _ => rfl)
      (governs_dispatch (fun _ _ _ => rfl) governs_onConn_sameNames (fun _ => rfl) hgroup)
  exact governs_query_of_parts (fun _ => governs_onStore_sameNames) fun sql =>
    .run_bind (hsend sql) fun _ => .run_act (governs_settle_of_parts governs_onStore_sameNames
      fun _ _ => .bind governs_onStore_sameNames fun _ => .pure)

theorem meets_query_sameNames (sql : String) (binds : List Value) :
    (sameNames C).contract.Meets (query sql binds : Action (Session C) E _) :=
  Contract.meets_contract_iff.2 governs_query_sameNames

theorem governs_read_sameNames (sql : String) :
    (sameNames C).Governs (read sql : Action (Session C) E Cursor).run :=
  Contract.meets_contract_iff.1 (meets_read meets_query_sameNames)

theorem governs_columnData_sameNames (table : String) :
    (sameNames C).Governs (columnData table : Action (Session C) E _).run :=
  Contract.meets_contract_iff.1 (meets_columnData meets_query_sameNames)

/-- An operation that asks for no names leaves alone what is remembered, unless it forgets it. -/
theorem governs_perform_sameNames {op : Operation} (hasks : op.asksNames = false)
    (hforget : op ≠ .forgetNames) :
    (sameNames C).Governs (perform op : Action (Session C) E Answer).run := by
  have hquery := meets_query_sameNames (C := C) (E := E)
  cases op with
  | connect => exact .run_bind governs_connect_sameNames fun _ => .run_pure
  | reconnect =>
    exact .run_bind (governs_reconnect governs_connect_sameNames governs_onConn_sameNames)
      fun _ => .run_pure
  | close => exact .run_bind (.run_act (governs_close tended_sameNames)) fun _ => .run_pure
  | query => exact .run_bind governs_query_sameNames fun _ => .run_pure
  | runDirect =>
    exact .run_bind (governs_runDirect governs_connect_sameNames governs_onConn_sameNames)
      fun _ => .run_pure
  | forgetResults => exact .run_bind (.run_act governs_onStore_sameNames) fun _ => .run_pure
  | disableTransactions | setStrict | setCaching | setCacheDir | renewStore | setTablePrefix =>
    exact fun _ => rfl
  | columnData table => exact .run_bind (governs_columnData_sameNames table) fun _ => .run_pure
  | version =>
    exact .run_bind (Contract.meets_contract_iff.1 (meets_version hquery)) fun _ => .run_pure
  | countAll =>
    exact .run_bind (Contract.meets_contract_iff.1 (meets_countAll hquery)) fun _ => .run_pure
  | startGroup | completeGroup | beginManual | commitManual | rollbackManual =>
    exact governs_transactional rfl (fun _ _ => rfl)
      (governs_unless_connect_bind governs_connect_sameNames
        (governs_call governs_onConn_sameNames))
      governs_onConn_sameNames governs_onConn_sameNames
  | forgetNames => exact absurd rfl hforget
  | tables | tableExists | columns | columnExists | primaryKey => cases hasks

/-! ## Asking for names -/

/-- Answers with the names that are remembered, or else reads them and notes them. -/
def recollect (l : Listing) : Action (Session C) E (List String) := do
  let s : Session C ← Action.subject
  match l.names? s.catalogue with
  | some names => return names
  | none =>
    let sql ← need l.feature (l.text? s.dialect)
    let names := firstColumn (← read sql)
    Action.modifySubject fun s : Session C => { s with catalogue := l.note names s.catalogue }
    return names

/-- The prefix does not cut the names of the tables down. -/
def AllTables (withPrefix : Bool) (s : Session C) : Prop :=
  (withPrefix && s.config.tablePrefix ≠ "") = false

theorem run_tables {withPrefix : Bool} {s : Session C} (w : World E) (h : AllTables withPrefix s) :
    (tables withPrefix : Action (Session C) E _).run (s, w) =
      (recollect .tables : Action (Session C) E _).run (s, w) := by
  have hnames : Listing.tables.names? s.catalogue = s.catalogue.tables := rfl
  unfold tables recollect
  rw [Action.run_bind_apply, Action.run_subject_apply, Action.run_bind_apply,
    Action.run_subject_apply]
  dsimp only
  rw [h, hnames]
  cases s.catalogue.tables <;> rfl

theorem run_columns (table : String) (s : Session C) (w : World E) :
    (columns table : Action (Session C) E _).run (s, w) =
      (recollect (.columns (s.rules.tableName table)) : Action (Session C) E _).run (s, w) := by
  have hnames : (Listing.columns (s.rules.tableName table)).names? s.catalogue =
      s.catalogue.columns.get? (s.rules.tableName table) := rfl
  unfold columns recollect
  rw [Action.run_bind_apply, Action.run_subject_apply, Action.run_bind_apply,
    Action.run_subject_apply]
  dsimp only
  rw [hnames]
  cases s.catalogue.columns.get? (s.rules.tableName table) <;> rfl

/-- What is remembered is answered without the backend. -/
theorem run_recollect_known {l : Listing} {s : Session C} (w : World E) {names : List String}
    (h : l.names? s.catalogue = some names) :
    (recollect l : Action (Session C) E _).run (s, w) = (.ok names, s, w) := by
  unfold recollect
  rw [Action.run_bind_apply, Action.run_subject_apply]
  dsimp only
  rw [h]
  rfl

/-- What is not remembered is read and noted, if the dialect has a statement for it. -/
theorem run_recollect_unknown {l : Listing} {s : Session C} (w : World E)
    (h : l.names? s.catalogue = none) {text : String} (htext : l.text? s.dialect = some text) :
    (recollect l : Action (Session C) E _).run (s, w) =
      let r := (read text : Action (Session C) E Cursor).run (s, w)
      match r.1 with
      | .ok c => (.ok (firstColumn c),
          { r.2.1 with catalogue := l.note (firstColumn c) r.2.1.catalogue }, r.2.2)
      | .error e => (.error e, r.2) := by
  have hneed : (need l.feature (some text) : Action (Session C) E String).run (s, w) =
    (.ok text, s, w) := rfl
  unfold recollect
  rw [Action.run_bind_apply, Action.run_subject_apply]
  dsimp only
  rw [h]
  dsimp only
  rw [htext, Action.run_bind_apply, hneed]
  dsimp only
  rw [Action.run_bind_apply]
  cases ((read text : Action (Session C) E Cursor).run (s, w)).1 <;> rfl

/-- Names that are remembered are the answer. Otherwise they are read, and remembered unless that
goes wrong. -/
theorem recollect_cases {l : Listing} {s : Session (Logged C)} {w : World E}
    {r : Except DbError (List String)} {t : Session (Logged C) × World E}
    (hr : (recollect l : Action (Session (Logged C)) E _).run (s, w) = (r, t)) :
    (∃ names, l.names? s.catalogue = some names ∧ r = .ok names ∧ t = (s, w)) ∨
      (r.isOk = false ∧ t.1.catalogue = s.catalogue) ∨
      ∃ names, r = .ok names ∧ l.Added E names s t.1 := by
  cases hnames : l.names? s.catalogue with
  | some names =>
    rw [run_recollect_known w hnames] at hr
    cases hr
    exact .inl ⟨names, rfl, rfl, rfl⟩
  | none =>
    right
    cases htext : l.text? s.dialect with
    | none =>
      unfold recollect at hr
      rw [Action.run_bind_apply, Action.run_subject_apply] at hr
      dsimp only at hr
      rw [hnames, htext] at hr
      cases hr
      exact .inl ⟨rfl, rfl⟩
    | some text =>
      have hsame := governs_read_sameNames (C := Logged C) (E := E) text
      rw [run_recollect_unknown w hnames htext] at hr
      rcases hread : (read text : Action (Session (Logged C)) E Cursor).run (s, w) with
        ⟨e | c, u, v⟩
      · rw [hread] at hr
        cases hr
        exact .inl ⟨rfl, hsame.rel_of_eq hread⟩
      · rw [hread] at hr
        cases hr
        refine .inr ⟨_, rfl, hnames, congrArg (l.note _ ·) (hsame.rel_of_eq hread), fun hoff => ?_⟩
        obtain ⟨handle?, hcursor, hsent⟩ := read_logged hoff hread
        exact ⟨s.dialect, text, handle?, htext, ⟨hsent.log, hsent.connected⟩,
          congrArg firstColumn hcursor⟩

/-! ## What operations do to remembered names -/

/-- From this state the action leaves alone what is remembered, or else it succeeds and adds a
listing. -/
def AddsAtMost (a : Action (Session (Logged C)) E α) (s : Session (Logged C) × World E) : Prop :=
  (a.run s).2.1.catalogue = s.1.catalogue ∨
    (a.run s).1.isOk = true ∧ ∃ l : Listing, ∃ names, l.Added E names s.1 (a.run s).2.1

/-- What is made of the result does not matter. -/
theorem AddsAtMost.answer {a : Action (Session (Logged C)) E α}
    {s : Session (Logged C) × World E} (h : AddsAtMost a s) (f : α → β) :
    AddsAtMost (a >>= fun x => pure (f x)) s := by
  unfold AddsAtMost at h ⊢
  rw [Action.run_bind_pure_apply]
  refine h.imp_right fun ⟨hok, hadded⟩ => ⟨?_, hadded⟩
  revert hok
  cases (a.run s).1 <;> exact id

theorem addsAtMost_recollect (l : Listing) (s : Session (Logged C) × World E) :
    AddsAtMost (recollect l) s := by
  unfold AddsAtMost
  rcases hr : (recollect l : Action (Session (Logged C)) E _).run s with ⟨r, t⟩
  rcases recollect_cases hr with ⟨names, -, -, rfl⟩ | ⟨-, hsame⟩ | ⟨names, rfl, hadded⟩
  · exact .inl rfl
  · exact .inl hsame
  · exact .inr ⟨rfl, l, names, hadded⟩

/-- Names that are cut down by the prefix are not remembered. -/
theorem sameNames_tables {withPrefix : Bool} {s : Session C} (w : World E)
    (h : ¬ AllTables withPrefix s) :
    (sameNames C).rel s ((tables withPrefix : Action (Session C) E _).run (s, w)).2.1 := by
  unfold tables
  rw [Action.run_bind_apply, Action.run_subject_apply]
  dsimp only
  rw [eq_true_of_ne_false h]
  exact Law.Governs.run_bind (Contract.meets_contract_iff.1 meets_need)
    (fun sql => .run_bind (governs_read_sameNames sql) fun _ => .run_pure) (s, w)

/-- Reading about the columns of a table is no obstacle to reading their names. -/
theorem added_of_columnData {table : String} {s u : Session (Logged C)} {w v : World E}
    {fields : List Column}
    (hdata : (columnData table : Action (Session (Logged C)) E _).run (s, w) = (.ok fields, u, v))
    {l : Listing} {names : List String} {t : Session (Logged C)} (h : l.Added E names u t) :
    l.Added E names s t := by
  have hperform {L : Law (Session (Logged C))} (hL : L.Governs
      (perform (.columnData table) : Action (Session (Logged C)) E Answer).run) : L.rel s u := by
    have hrel := hL (s, w)
    rw [perform, state_answer (columnData table) .fields, hdata] at hrel
    exact hrel
  have hcatalogue : u.catalogue = s.catalogue :=
    (governs_columnData_sameNames table).rel_of_eq hdata
  have hquery (sql : String) (binds : List Value) : (keepingReads (Logged C)).contract.Meets
      (query sql binds : Action (Session (Logged C)) E _) :=
    Contract.meets_contract_iff.2 governs_query_keepingReads
  have hconfig : u.config = s.config :=
    ((Contract.meets_contract_iff.1 (meets_columnData hquery)).rel_of_eq hdata).1
  refine ⟨hcatalogue ▸ h.unknown, hcatalogue ▸ h.noted, fun hoff => ?_⟩
  obtain ⟨d, text, handle?, htext, hsent, hnames⟩ :=
    h.readBy (hperform (governs_perform_unkept (by simp)) hoff)
  -- the settings are the ones that there were, so the final text is the same
  have hfinal : u.finalText text [] = s.finalText text [] := by
    rw [finalText_nil, finalText_nil, hconfig]
  rw [hfinal] at hsent hnames
  obtain ⟨asked, hlog⟩ := hsent.log
  obtain ⟨more, hmore⟩ := (hperform (governs_perform_logging _)).2
  refine ⟨d, text, handle?, htext, ⟨⟨more ++ asked, ?_⟩, hsent.connected⟩, hnames⟩
  rw [hlog, ← hmore, List.append_assoc s.conn.log]

/-- All names of tables are remembered. -/
theorem addsAtMost_tables (withPrefix : Bool) (s : Session (Logged C) × World E) :
    AddsAtMost (tables withPrefix) s := by
  by_cases hall : AllTables withPrefix s.1
  · unfold AddsAtMost
    rw [run_tables s.2 hall]
    exact addsAtMost_recollect .tables s
  · exact .inl (sameNames_tables s.2 hall)

theorem addsAtMost_columns (table : String) (s : Session (Logged C) × World E) :
    AddsAtMost (columns table) s := by
  unfold AddsAtMost
  rw [run_columns]
  exact addsAtMost_recollect _ s

theorem addsAtMost_primaryKey (table : String) (s : Session (Logged C) × World E) :
    AddsAtMost (primaryKey table) s := by
  have hsame := governs_columnData_sameNames (C := Logged C) (E := E) table
  unfold AddsAtMost primaryKey
  rw [Action.run_bind_apply]
  rcases hdata : (columnData table : Action (Session (Logged C)) E _).run s with ⟨e | fields, u⟩
  · exact .inl (hsame.rel_of_eq hdata)
  · dsimp only
    split
    · exact .inl (hsame.rel_of_eq hdata)
    · rcases (addsAtMost_columns table u).answer List.head? with hkept | ⟨hok, l, names, hadded⟩
      · exact .inl (hkept.trans (hsame.rel_of_eq hdata))
      · exact .inr ⟨hok, l, names, added_of_columnData hdata hadded⟩

/-- **What an operation does to remembered names.** Unless it is asked to forget them, it leaves
them alone, or it succeeds and adds a listing that was not there. -/
theorem catalogue_perform {op : Operation} (hforget : op ≠ .forgetNames)
    (s : Session (Logged C) × World E) : AddsAtMost (perform op) s := by
  cases op with
  | tables withPrefix => exact (addsAtMost_tables withPrefix s).answer _
  | tableExists table =>
    exact AddsAtMost.answer (a := tableExists table) ((addsAtMost_tables false s).answer _) _
  | columns table => exact (addsAtMost_columns table s).answer _
  | columnExists column table =>
    exact AddsAtMost.answer (a := columnExists column table)
      ((addsAtMost_columns table s).answer _) _
  | primaryKey table => exact (addsAtMost_primaryKey table s).answer _
  | forgetNames => exact absurd rfl hforget
  | _ => exact .inl (governs_perform_sameNames rfl hforget s)

/-- An operation that fails adds nothing. -/
theorem catalogue_of_error {op : Operation} {s : Session (Logged C) × World E} {e : DbError}
    {t : Session (Logged C) × World E}
    (hr : (perform op : Action (Session (Logged C)) E Answer).run s = (.error e, t)) :
    t.1.catalogue = s.1.catalogue := by
  have hforget : op ≠ .forgetNames := by
    rintro rfl
    cases hr
  have hstep := catalogue_perform hforget s
  unfold AddsAtMost at hstep
  rw [hr] at hstep
  exact hstep.resolve_right fun hadded => Bool.false_ne_true hadded.1

/-! ## Runs -/

/-- Remembered names are still remembered. -/
def keepingNames (C : Type) : Law (Session C) where
  rel s t := ∀ (l : Listing) names, l.names? s.catalogue = some names →
    l.names? t.catalogue = some names
  refl _ _ _ := id
  trans hst htu l names hs := htu l names (hst l names hs)

theorem governs_perform_keepingNames {op : Operation} (hforget : op ≠ .forgetNames) :
    (keepingNames (Logged C)).Governs (perform op : Action (Session (Logged C)) E Answer).run := by
  intro s l names hs
  rcases catalogue_perform hforget s with hsame | ⟨-, other, noted, hadded⟩
  · rw [hsame]
    exact hs
  · exact hadded.names? hs

/-- **Names are remembered until they are forgotten**, whatever becomes of the connection. -/
theorem names?_after {ops : List Operation} (hforget : .forgetNames ∉ ops)
    {s : Session (Logged C) × World E} {l : Listing} {names : List String}
    (hs : l.names? s.1.catalogue = some names) :
    l.names? (after ops s).1.catalogue = some names :=
  rel_after (fun _ hop => governs_perform_keepingNames fun heq => hforget (heq ▸ hop)) s l names hs

/-- One of the operations read the names, and they were not forgotten since. -/
def ReadIn (E : Type) [Backend C E] (l : Listing) (names : List String)
    (ops : List Operation) (start : Session (Logged C) × World E) : Prop :=
  ∃ pre reader post, ops = pre ++ reader :: post ∧ .forgetNames ∉ post ∧
    l.ReadBy E names (after pre start).1 (after (pre ++ [reader]) start).1

theorem ReadIn.concat {l : Listing} {names : List String} {ops : List Operation}
    {start : Session (Logged C) × World E} (h : ReadIn E l names ops start) {op : Operation}
    (hforget : op ≠ .forgetNames) : ReadIn E l names (ops ++ [op]) start := by
  obtain ⟨pre, reader, post, rfl, hpost, hread⟩ := h
  refine ⟨pre, reader, post ++ [op], by simp, fun hmem => ?_, hread⟩
  rcases List.mem_append.1 hmem with hmem | hmem
  · exact hpost hmem
  · exact hforget (List.mem_singleton.1 hmem).symm

/-- **Remembered names were read.** After a run of a session that keeps no results, whose names were
empty, names are remembered that one of its operations read, and that were not forgotten since. -/
theorem readIn_of_names? {ops : List Operation} (hops : ∀ op ∈ ops, op ≠ .setCaching true)
    {start : Session (Logged C) × World E} (hoff : start.1.cacheOn = false)
    (hempty : start.1.catalogue = .empty) {l : Listing} {names : List String}
    (hnames : l.names? (after ops start).1.catalogue = some names) :
    ReadIn E l names ops start := by
  -- from the end of the run: the last operation read the names, or they were remembered before it
  induction ops using List.reverseRecOn with
  | nil =>
    rw [after_nil, hempty, Listing.names?_empty] at hnames
    cases hnames
  | append_singleton ops op ih =>
    have hbefore : ∀ op ∈ ops, op ≠ .setCaching true :=
      fun op hop => hops op (List.mem_append_left _ hop)
    have hunkept : (after ops start).1.cacheOn = false :=
      rel_after (fun op hop => governs_perform_unkept (hbefore op hop)) start hoff
    rw [after_concat] at hnames
    by_cases hforget : op = .forgetNames
    · subst hforget
      have hnone : l.names? Catalogue.empty = some names := hnames
      rw [Listing.names?_empty] at hnone
      cases hnone
    · rcases catalogue_perform hforget (after ops start) with hsame | ⟨-, other, noted, hadded⟩
      · rw [hsame] at hnames
        exact (ih hbefore hnames).concat hforget
      · rw [hadded.noted, Listing.names?_note] at hnames
        split at hnames
        · next heq =>
          cases hnames
          subst heq
          refine ⟨ops, op, [], rfl, List.not_mem_nil, ?_⟩
          rw [after_concat]
          exact hadded.readBy hunkept
        · exact (ih hbefore hnames).concat hforget

end Session

end SqlGateway
