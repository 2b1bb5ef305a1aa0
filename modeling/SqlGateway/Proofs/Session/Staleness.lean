import SqlGateway.Proofs.Session.Accounts

/-!
# Answers that are out of date

Two ways in which the answer from the store may differ from what the backend would say, and how far
each of them goes.

A write drops what is kept only while results are being kept. So an answer without the backend was
read after every write that was accepted with the keeping switched on, but writes that were accepted
while it was switched off may lie between the read and the answer.

The store knows nothing of transactions. What was read in a group stays kept when the group is
rolled back, until a write is accepted or the results are dropped; from then on no answer is that
old.

Main results:

* `Session.answers_follow_kept_writes`: no write that dropped results lies between a read and the
  answers from it, and nothing but such a write or the caller makes the answers go.
* `Session.rolled_back_reads_kept`: what becomes of a read in a group that was rolled back.
-/

namespace SqlGateway.Session

variable {C E : Type} [Connection C] [Backend C E]

/-! ## Writes -/

/-- **Answers follow the writes that dropped results.** Take any run of a session that drops results
after writes and keeps them in memory, and a query after it. If the query is answered without the
backend, then by a read of its final text since which the caller has not dropped the results, and
since which every accepted write was sent while results were not being kept. And whatever else was
sent since a read: as long as nothing has touched it, it is the answer. -/
theorem answers_follow_kept_writes {config : ConnectionConfig} (hdir : config.cacheDir = none)
    (hauto : config.cacheAutoDelete = true) (conn : C) (w : World E) {ops : List Operation}
    (hops : ∀ op ∈ ops, ∀ directory, op ≠ .setCacheDir directory) {s : Session (Logged C)}
    {v : World E} (hs : after ops (create config (Logged.untouched conn), w) = (s, v))
    (sql : String) (binds : List Value) :
    let text := s.finalText sql binds
    let told := account ops (create config (Logged.untouched conn), w)
    (∀ outcome t,
      (query sql binds : Action (Session (Logged C)) E _).run (s, v) = (.ok outcome, t) →
      t.1.conn.log = s.conn.log →
      ∃ c earlier handle? later, outcome = .rows c ∧
        told = earlier ++ .sent true ⟨text, .ok handle?⟩ :: later ∧
        c.columns = (Cursor.ofAnswer handle?).columns ∧
        c.valueRows.1 = (Cursor.ofAnswer handle?).valueRows.1 ∧
        .dropped ∉ later ∧
        ∀ keeping h, .sent keeping h ∈ later → Remark.IsWrite (.sent keeping h) →
          keeping = false) ∧
    (∀ earlier handle? later, KeptRead told text earlier handle? later →
      Text.isBlank sql = false → s.cacheOn = true → mayBeKept text = true →
      ∃ c t, (query sql binds : Action (Session (Logged C)) E _).run (s, v) = (.ok (.rows c), t) ∧
        t.1.conn = s.conn ∧ c.columns = (Cursor.ofAnswer handle?).columns ∧
        c.valueRows.1 = (Cursor.ofAnswer handle?).valueRows.1) := by
  intro text told
  constructor
  · intro outcome t hr hquiet
    obtain ⟨c, earlier, handle?, later, houtcome, hkept, hcolumns, hrows⟩ :=
      keptRead_of_quiet hdir hauto conn w hops hs hr hquiet
    have hdropped : .dropped ∉ later := fun hmem => hkept.untouched _ hmem trivial
    refine ⟨c, earlier, handle?, later, houtcome, hkept.told, hcolumns, hrows, hdropped, ?_⟩
    intro keeping h hmem hwrite
    -- a write that is accepted while results are being kept touches every text
    by_contra hkeeping
    refine hkept.untouched _ hmem (hwrite.touches text fun keeping' h' heq => ?_)
    cases heq
    exact eq_true_of_ne_false hkeeping
  · intro earlier handle? later hkept hblank hon hlooked
    exact answered_of_keptRead hdir hauto conn w hops hs hkept hblank hon hlooked

/-- The rows that the backend has of the names. -/
def nameRows : Handle :=
  .buffered (.ofRows [.named "name"] [[.text "Ann"]])

/-- Results are kept, and dropped after writes. -/
def keepingConfig : ConnectionConfig :=
  { ConnectionConfig.ofKind "mock" with cacheOn := true, cacheAutoDelete := true }

/-- A session with such settings, and a backend that knows a name. -/
def loggedStart : Session (Logged Scripted) × World Script :=
  (create keepingConfig (Logged.untouched (Scripted.ofDialect .mysql)),
    ⟨.empty, { (default : Script) with replies := [⟨"name", 0, some nameRows⟩] }⟩)

/-- A read, and a write while results are not being kept. -/
def unkeptWrite : List Operation :=
  [.query "SELECT name FROM t" [], .setCaching false, .query "INSERT INTO t VALUES (1)" [],
    .setCaching true]

/-- What was called to open the connection. -/
def openingRemarks : List Remark :=
  [.called ⟨.connect, true⟩, .called ⟨.setCharset "utf8" "utf8_general_ci", true⟩]

/-- The read is the answer, as the write that came after it was not kept. -/
theorem answers_follow_kept_writes_unkept :
    ∃ s v c t, keepingConfig.cacheDir = none ∧ keepingConfig.cacheAutoDelete = true ∧
      (∀ op ∈ unkeptWrite, ∀ directory, op ≠ .setCacheDir directory) ∧
      after unkeptWrite loggedStart = (s, v) ∧
      (query "SELECT name FROM t" [] : Action (Session (Logged Scripted)) Script _).run (s, v) =
        (.ok (.rows c), t) ∧
      t.1.conn = s.conn ∧ c.columns = ["name"] ∧ c.valueRows.1 = [[.text "Ann"]] := by
  have hops : ∀ op ∈ unkeptWrite, ∀ directory, op ≠ .setCacheDir directory := by
    intro op hop directory heq
    subst heq
    revert hop
    simp [unkeptWrite]
  have hread : Statement.isWrite "SELECT name FROM t" = false := by decide +kernel
  have hon : (after unkeptWrite loggedStart).1.cacheOn = true := by decide +kernel
  have htext : (after unkeptWrite loggedStart).1.finalText "SELECT name FROM t" [] =
      "SELECT name FROM t" := by
    decide +kernel
  have htold : account unkeptWrite loggedStart =
      openingRemarks ++ .sent true ⟨"SELECT name FROM t", .ok (some nameRows)⟩ ::
        [.sent false ⟨"INSERT INTO t VALUES (1)", .ok none⟩] := by
    decide +kernel
  have hlooked : mayBeKept
      ((after unkeptWrite loggedStart).1.finalText "SELECT name FROM t" []) = true := by
    rw [htext]
    decide +kernel
  have hkept : KeptRead (account unkeptWrite loggedStart)
      ((after unkeptWrite loggedStart).1.finalText "SELECT name FROM t" []) openingRemarks
      (some nameRows) [.sent false ⟨"INSERT INTO t VALUES (1)", .ok none⟩] := by
    rw [htext]
    refine ⟨htold, hread, fun r hr htouched => ?_⟩
    rw [List.mem_singleton.1 hr] at htouched
    exact Bool.false_ne_true htouched.1
  unfold loggedStart at hon hlooked hkept ⊢
  rcases hs : after unkeptWrite (create keepingConfig _, _) with ⟨s, v⟩
  rw [hs] at hon hlooked hkept
  obtain ⟨c, t, hr, hconn, hcolumns, hrows⟩ :=
    (answers_follow_kept_writes rfl rfl _ _ hops hs "SELECT name FROM t" []).2 _ _ _ hkept
      (by decide) hon hlooked
  exact ⟨s, v, c, t, rfl, rfl, hops, rfl, hr, hconn, hcolumns, hrows⟩

/-- So an answer may be older than a write that was accepted: the only read of its text was made
before the write, and the query asks nothing of the backend. -/
theorem answers_follow_kept_writes_stale :
    let s := after unkeptWrite loggedStart
    let r := (query "SELECT name FROM t" [] :
      Action (Session (Logged Scripted)) Script _).run s
    r.1 = .ok (.rows (.ofSnapshot ⟨["name"], [[.text "Ann"]], 1⟩)) ∧
      r.2.1.conn.log = s.1.conn.log ∧
      ∀ earlier handle? later, account unkeptWrite loggedStart =
          earlier ++ .sent true ⟨"SELECT name FROM t", .ok handle?⟩ :: later →
        ∃ r ∈ later, r.IsWrite := by
  have htold : account unkeptWrite loggedStart =
      openingRemarks ++ [.sent true ⟨"SELECT name FROM t", .ok (some nameRows)⟩,
        .sent false ⟨"INSERT INTO t VALUES (1)", .ok none⟩] := by
    decide +kernel
  have hwrite : Statement.isWrite "INSERT INTO t VALUES (1)" = true := by decide +kernel
  refine ⟨by decide +kernel, by decide +kernel, fun earlier handle? later hsplit => ?_⟩
  rw [htold, openingRemarks] at hsplit
  -- the read is the third remark
  match earlier, hsplit with
  | [_, _], hsplit =>
    cases hsplit
    exact ⟨_, List.mem_singleton.2 rfl, hwrite, rfl⟩
  | [], hsplit | [_], hsplit | [_, _, _], hsplit => cases hsplit
  | _ :: _ :: _ :: _ :: _, hsplit =>
    have hlength := congrArg List.length hsplit
    simp only [List.length_append, List.length_cons, List.length_nil] at hlength
    omega

/-! ## Keeping that stays on -/

/-- The operation neither switches the keeping of results nor moves them to a directory. -/
def Operation.leavesKeeping : Operation → Bool
  | setCaching _ | setCacheDir _ => false
  | _ => true

/-- Results in memory are kept from then on, or not, until that is switched. -/
theorem cacheOn_perform {op : Operation} (hop : op.leavesKeeping = true) {s : Session (Heard C)}
    (w : World E) {entries : OrderedMap Snapshot} (hs : s.memory? = some entries) :
    ((perform op : Action (Session (Heard C)) E Answer).run (s, w)).2.1.cacheOn = s.cacheOn := by
  by_cases haside : op.isAside = true
  · have hlaw : (remembering C).Governs
        (perform op : Action (Session (Heard C)) E Answer).run :=
      governs_perform_remembering haside
    obtain ⟨more, -, hremembered⟩ := hlaw (s, w)
    exact (hremembered.kept entries hs).1
  · cases op with
    | runDirect sql => exact (sameResults_runDirect sql s w).cacheOn
    | forgetResults =>
      show ((forgetResults : Effect (Session (Heard C)) E Bool) (s, w)).2.1.cacheOn = _
      rw [run_forgetResults w hs]
    | renewStore | setTablePrefix => rfl
    | setCaching | setCacheDir => cases hop
    | _ => exact absurd rfl haside

omit [Connection C] [Backend C E] in
theorem keeping_of_mem_remarks {op : Operation} {s t : Session (Logged C)} {keeping : Bool}
    {h : Hearing} (hmem : .sent keeping h ∈ remarks op s t) : keeping = s.cacheOn := by
  have hentries {statement : Hearing → Remark}
      (hmapped : Remark.sent keeping h ∈
        (t.conn.log.drop s.conn.log.length).map (Remark.ofEntry statement)) :
      ∃ hearing, statement hearing = .sent keeping h := by
    obtain ⟨entry, -, heq⟩ := List.mem_map.1 hmapped
    cases entry with
    | call e => cases heq
    | statement hearing => exact ⟨hearing, heq⟩
  cases op with
  | forgetResults | renewStore | setCacheDir => cases List.mem_singleton.1 hmem
  | runDirect =>
    obtain ⟨hearing, heq⟩ := hentries hmem
    cases heq
  | _ =>
    obtain ⟨hearing, heq⟩ := hentries hmem
    cases heq
    rfl

/-- Then every statement of the account was sent under the same switch. -/
theorem keeping_of_mem_account {ops : List Operation}
    (hops : ∀ op ∈ ops, op.leavesKeeping = true) {s : Session (Logged C)} (w : World E)
    {entries : OrderedMap Snapshot} (hs : s.memory? = some entries) :
    (after ops (s, w)).1.cacheOn = s.cacheOn ∧
      ∀ keeping h, .sent keeping h ∈ account ops (s, w) → keeping = s.cacheOn := by
  induction ops generalizing s w entries with
  | nil => exact ⟨rfl, nofun⟩
  | cons op ops ih =>
    obtain ⟨hop, hrest⟩ := List.forall_mem_cons.1 hops
    have hdir : ∀ directory, op ≠ .setCacheDir directory := by
      rintro directory rfl
      cases hop
    -- the step is taken from the session that is only heard
    obtain ⟨t, ht⟩ : ∃ t, ((perform op : Action (Session (Logged C)) E Answer).run (s, w)).2 = t :=
      ⟨_, rfl⟩
    have hunlogged := perform_unlogged op s w
    have hon : t.1.cacheOn = s.cacheOn := by
      have hheard := cacheOn_perform (s := s.unlogged) hop w hs
      rw [hunlogged, ht] at hheard
      exact hheard
    have hkept : t.1.memory? =
        some (Notice.replay entries (notices op s.unlogged t.1.unlogged)) := by
      have hheard := memory?_perform (s := s.unlogged) (w := w) hdir hs
      dsimp only at hheard
      rw [hunlogged, ht] at hheard
      exact hheard
    obtain ⟨hafter, hsent⟩ := ih hrest t.2 hkept
    rw [after_cons, account, ht]
    refine ⟨hafter.trans hon, fun keeping h hmem => ?_⟩
    rcases List.mem_append.1 hmem with hstep | hlater
    · exact keeping_of_mem_remarks hstep
    · exact (hsent keeping h hlater).trans hon

/-! ## Groups that were rolled back -/

/-- **Rolling back drops no results.** Take any run of a session that keeps results in memory all
the time and drops them after writes, and a read in it that was sent after a transaction was begun
and before it was rolled back. As long as nothing since has touched the read, neither in the group
nor after it, a query with its text is answered by it, without the backend. But once a write was
accepted since or the caller dropped the results, an answer without the backend is that of a read
which came after that. -/
theorem rolled_back_reads_kept {config : ConnectionConfig} (hdir : config.cacheDir = none)
    (hon : config.cacheOn = true) (hauto : config.cacheAutoDelete = true) (conn : C) (w : World E)
    {ops : List Operation} (hops : ∀ op ∈ ops, op.leavesKeeping = true) {s : Session (Logged C)}
    {v : World E} (hs : after ops (create config (Logged.untouched conn), w) = (s, v))
    {before inner post : List Remark} {accepted : Bool}
    (hgroup : account ops (create config (Logged.untouched conn), w) =
      before ++ .called ⟨.startTransaction, true⟩ ::
        (inner ++ .called ⟨.rollback, accepted⟩ :: post))
    {sooner since : List Remark} {text : String} {handle? : Option Handle}
    (hinner : inner = sooner ++ .sent true ⟨text, .ok handle?⟩ :: since)
    (hread : Statement.isWrite text = false) {sql : String} {binds : List Value}
    (htext : s.finalText sql binds = text) :
    ((∀ r ∈ since ++ post, ¬ r.Touches text) →
      Text.isBlank sql = false → mayBeKept text = true →
      ∃ c t, (query sql binds : Action (Session (Logged C)) E _).run (s, v) = (.ok (.rows c), t) ∧
        t.1.conn = s.conn ∧ c.columns = (Cursor.ofAnswer handle?).columns ∧
        c.valueRows.1 = (Cursor.ofAnswer handle?).valueRows.1) ∧
    ∀ first r rest, since ++ .called ⟨.rollback, accepted⟩ :: post = first ++ r :: rest →
      r = .dropped ∨ r.IsWrite → ∀ outcome t,
      (query sql binds : Action (Session (Logged C)) E _).run (s, v) = (.ok outcome, t) →
      t.1.conn.log = s.conn.log →
      ∃ c mid newer? later, outcome = .rows c ∧
        rest = mid ++ .sent true ⟨text, .ok newer?⟩ :: later ∧
        c.columns = (Cursor.ofAnswer newer?).columns ∧
        c.valueRows.1 = (Cursor.ofAnswer newer?).valueRows.1 := by
  have hdirs : ∀ op ∈ ops, ∀ directory, op ≠ .setCacheDir directory := by
    rintro op hop directory rfl
    cases hops _ hop
  have hstart : (create config (Logged.untouched conn)).memory? = some .empty := by
    unfold memory?
    rw [show (create config (Logged.untouched conn)).config.cacheDir = none from hdir]
    rfl
  obtain ⟨hstays, hsent⟩ := keeping_of_mem_account (E := E) hops w hstart
  rw [hs] at hstays
  have htold : account ops (create config (Logged.untouched conn), w) =
      (before ++ .called ⟨.startTransaction, true⟩ :: sooner) ++
        .sent true ⟨text, .ok handle?⟩ ::
          (since ++ .called ⟨.rollback, accepted⟩ :: post) := by
    rw [hgroup, hinner]
    simp only [List.append_assoc, List.cons_append]
  constructor
  · intro hspared hblank hlooked
    -- the rollback is no remark that touches anything
    have huntouched : ∀ r ∈ since ++ .called ⟨.rollback, accepted⟩ :: post, ¬ r.Touches text := by
      intro r hr
      rcases List.mem_append.1 hr with hsince | hmem
      · exact hspared r (List.mem_append_left _ hsince)
      · rcases List.mem_cons.1 hmem with rfl | hpost
        · exact id
        · exact hspared r (List.mem_append_right _ hpost)
    have hkept : KeptRead (account ops (create config (Logged.untouched conn), w))
        (s.finalText sql binds) (before ++ .called ⟨.startTransaction, true⟩ :: sooner) handle?
        (since ++ .called ⟨.rollback, accepted⟩ :: post) := by
      rw [htext]
      exact ⟨htold, hread, huntouched⟩
    exact answered_of_keptRead hdir hauto conn w hdirs hs hkept hblank (hstays.trans hon)
      (by rw [htext]; exact hlooked)
  · intro first r rest hsplit hdrops outcome t hr hquiet
    obtain ⟨c, earlier, newer?, later, houtcome, hkept, hcolumns, hrows⟩ :=
      keptRead_of_quiet hdir hauto conn w hdirs hs hr hquiet
    rw [htext] at hkept
    have hwhole : account ops (create config (Logged.untouched conn), w) =
        ((before ++ .called ⟨.startTransaction, true⟩ :: sooner) ++
          .sent true ⟨text, .ok handle?⟩ :: first) ++ r :: rest := by
      rw [htold, hsplit]
      simp only [List.append_assoc, List.cons_append]
    have htouches : r.Touches text := by
      rcases hdrops with rfl | hwrite
      · trivial
      · refine hwrite.touches text fun keeping h heq => ?_
        refine (hsent keeping h ?_).trans hon
        rw [hwhole, heq]
        exact List.mem_append_right _ (List.mem_cons_self ..)
    -- what drops the results of a text is not a read of it
    rcases hkept.mem_earlier hwhole htouches with ⟨mid, hrest⟩ | ⟨rfl, -⟩
    · exact ⟨c, mid, newer?, later, houtcome, hrest, hcolumns, hrows⟩
    · rcases hdrops with heq | hwrite
      · cases heq
      · exact absurd (hread.symm.trans hwrite.1) Bool.false_ne_true

/-- A group with a write and a read after it, which is rolled back. -/
def rolledBackRead : List Operation :=
  [.startGroup false, .query "INSERT INTO t VALUES (1)" [], .query "SELECT name FROM t" [],
    .rollbackManual]

/-- The read is kept. -/
theorem rolled_back_reads_kept_untouched :
    ∃ s v c t, keepingConfig.cacheDir = none ∧ keepingConfig.cacheOn = true ∧
      keepingConfig.cacheAutoDelete = true ∧
      (∀ op ∈ rolledBackRead, op.leavesKeeping = true) ∧
      after rolledBackRead loggedStart = (s, v) ∧
      account rolledBackRead loggedStart = openingRemarks ++ .called ⟨.startTransaction, true⟩ ::
        (([.sent true ⟨"INSERT INTO t VALUES (1)", .ok none⟩] ++
          .sent true ⟨"SELECT name FROM t", .ok (some nameRows)⟩ :: []) ++
            .called ⟨.rollback, true⟩ :: []) ∧
      s.finalText "SELECT name FROM t" [] = "SELECT name FROM t" ∧
      (query "SELECT name FROM t" [] : Action (Session (Logged Scripted)) Script _).run (s, v) =
        (.ok (.rows c), t) ∧
      t.1.conn = s.conn ∧ c.columns = ["name"] ∧ c.valueRows.1 = [[.text "Ann"]] := by
  have htext : (after rolledBackRead loggedStart).1.finalText "SELECT name FROM t" [] =
      "SELECT name FROM t" := by
    decide +kernel
  have htold : account rolledBackRead loggedStart =
      openingRemarks ++ .called ⟨.startTransaction, true⟩ ::
        (([.sent true ⟨"INSERT INTO t VALUES (1)", .ok none⟩] ++
          .sent true ⟨"SELECT name FROM t", .ok (some nameRows)⟩ :: []) ++
            .called ⟨.rollback, true⟩ :: []) := by
    decide +kernel
  have hops : ∀ op ∈ rolledBackRead, op.leavesKeeping = true := by decide
  have hread : Statement.isWrite "SELECT name FROM t" = false := by decide +kernel
  have hlooked : mayBeKept "SELECT name FROM t" = true := by decide +kernel
  unfold loggedStart at htext htold ⊢
  rcases hs : after rolledBackRead (create keepingConfig _, _) with ⟨s, v⟩
  rw [hs] at htext
  obtain ⟨c, t, hr, hconn, hcolumns, hrows⟩ :=
    (rolled_back_reads_kept rfl rfl rfl _ _ hops hs htold rfl hread htext).1 nofun (by decide)
      hlooked
  exact ⟨s, v, c, t, rfl, rfl, rfl, hops, rfl, htold, htext, hr, hconn, hcolumns, hrows⟩

/-- So after a group was rolled back a query may still be answered by what was read in it after a
write. -/
theorem rolled_back_reads_kept_stale :
    let s := after rolledBackRead loggedStart
    let r := (query "SELECT name FROM t" [] :
      Action (Session (Logged Scripted)) Script _).run s
    r.1 = .ok (.rows (.ofSnapshot ⟨["name"], [[.text "Ann"]], 1⟩)) ∧
      r.2.1.conn.log = s.1.conn.log ∧
      account rolledBackRead loggedStart = openingRemarks ++
        [.called ⟨.startTransaction, true⟩, .sent true ⟨"INSERT INTO t VALUES (1)", .ok none⟩,
          .sent true ⟨"SELECT name FROM t", .ok (some nameRows)⟩, .called ⟨.rollback, true⟩] := by
  decide +kernel

end SqlGateway.Session
