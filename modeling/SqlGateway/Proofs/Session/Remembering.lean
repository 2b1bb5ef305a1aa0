import SqlGateway.Backend.Scripted
import SqlGateway.Proofs.Backend.Heard
import SqlGateway.Proofs.Session.Operation

/-!
# Kept results are what was read

A session that keeps results in memory may answer a query without asking the backend. What it
answers then is what the backend answered when it was asked for the same text last, with results
being kept and none dropped since.

A run is told as a list of notices, one for each read whose result is kept and one for each time
that the kept results are dropped. They are taken from what the backend was heard to answer, not
from what the session has in its store. The invariant is that the store is what the notices leave
(`Notice.replay`), after every operation of every run; the step from one operation to the next is a
law that queries obey (`Session.remembering`).

Main definitions:

* `Notice`: a read whose result is kept, or the dropping of all results.
* `Session.memory?`: the results that are kept in memory.
* `Session.chronicle`: what a run tells of results.

Main results:

* `Notice.exists_of_replay`: what is kept was read last.
* `Session.memory?_after`: what is kept after a run is what its chronicle leaves.
* `Session.kept_answers_faithful`: an answer without the backend is the backend's last one.
-/

namespace SqlGateway

/-- What is told of kept results. -/
inductive Notice where
  /-- All results were dropped. -/
  | dropped
  /-- A statement was read while results are kept. -/
  | read (sql : String) (columns : List String) (rows : List (List Value))

namespace Notice

/-- What is kept after a notice. -/
def apply (entries : OrderedMap Snapshot) : Notice → OrderedMap Snapshot
  | dropped => .empty
  | read sql columns rows => entries.insert sql ⟨columns, rows, rows.length⟩

/-- What is kept after some notices. -/
def replay (entries : OrderedMap Snapshot) (notices : List Notice) : OrderedMap Snapshot :=
  notices.foldl apply entries

/-- The notice does not touch what is kept of a text. -/
def Spares (sql : String) : Notice → Prop
  | dropped => False
  | read text _ _ => text ≠ sql

theorem replay_append (entries : OrderedMap Snapshot) (ns ms : List Notice) :
    replay entries (ns ++ ms) = replay (replay entries ns) ms :=
  List.foldl_append

/-- What is kept of a text was kept before and not touched, or it was read, and not touched
since. -/
theorem replay_cases {entries : OrderedMap Snapshot} {notices : List Notice} {sql : String}
    {snapshot : Snapshot} (h : (replay entries notices).get? sql = some snapshot) :
    (entries.get? sql = some snapshot ∧ ∀ n ∈ notices, n.Spares sql) ∨
      ∃ earlier later, notices = earlier ++ read sql snapshot.columns snapshot.rows :: later ∧
        ∀ n ∈ later, n.Spares sql := by
  induction notices generalizing entries with
  | nil => exact .inl ⟨h, nofun⟩
  | cons n notices ih =>
    have hrest : (replay (apply entries n) notices).get? sql = some snapshot := h
    rcases ih hrest with ⟨hkept, hspared⟩ | ⟨earlier, later, heq, hlater⟩
    · cases n with
      | dropped => cases hkept
      | read text columns rows =>
        rw [apply, OrderedMap.get?_insert] at hkept
        split at hkept
        · next heq =>
          cases hkept
          exact .inr ⟨[], notices, by rw [heq, List.nil_append], hspared⟩
        · next hne => exact .inl ⟨hkept, List.forall_mem_cons.2 ⟨Ne.symm hne, hspared⟩⟩
    · exact .inr ⟨n :: earlier, later, by rw [heq, List.cons_append], hlater⟩

/-- What is kept of a text was read, and nothing since has touched it. -/
theorem exists_of_replay {notices : List Notice} {sql : String} {snapshot : Snapshot}
    (h : (replay .empty notices).get? sql = some snapshot) :
    ∃ earlier later, notices = earlier ++ read sql snapshot.columns snapshot.rows :: later ∧
      ∀ n ∈ later, n.Spares sql :=
  (replay_cases h).resolve_left fun hkept => nomatch hkept.1

end Notice

/-! ## What answers tell -/

/-- The cursor on a backend's answer. -/
def Cursor.ofAnswer : Option Handle → Cursor
  | some h => .ofHandle h
  | none => .empty

theorem Cursor.toSnapshot_fst (c : Cursor) :
    c.toSnapshot.1 = ⟨c.columns, c.valueRows.1, c.valueRows.1.length⟩ := by
  rw [← columns_valueRows]
  rfl

/-- What an answer tells while results are kept. A statement that was rejected tells nothing. -/
def Hearing.notices (autoDelete : Bool) (h : Hearing) : List Notice :=
  match h.outcome with
  | .error _ => []
  | .ok handle? =>
    if Statement.isWrite h.sql then if autoDelete then [.dropped] else []
    else
      let c := Cursor.ofAnswer handle?
      [.read h.sql c.columns c.valueRows.1]

namespace Session

variable {C E α : Type}

/-- The results that the session keeps in memory, unless it keeps them on the disk. -/
def memory? (s : Session C) : Option (OrderedMap Snapshot) :=
  match s.store, s.config.cacheDir with
  | some (.memory entries), _ => some entries
  | none, none => some .empty
  | _, _ => none

/-- What answers tell of the results of a session, which may keep none. -/
def told (s : Session C) (hearings : List Hearing) : List Notice :=
  if s.cacheOn then hearings.flatMap (Hearing.notices s.config.cacheAutoDelete) else []

/-- What an operation tells, by what was heard while it ran. Statements that are handed to the
backend as they are do not count. -/
def notices (op : Operation) (s t : Session (Heard C)) : List Notice :=
  match op with
  | .forgetResults | .renewStore | .setCacheDir _ => [.dropped]
  | .runDirect _ => []
  | _ => told s (t.conn.hearings.drop s.conn.hearings.length)

/-- What a run tells. -/
def chronicle [Connection C] [Backend C E] :
    List Operation → Session (Heard C) × World E → List Notice
  | [], _ => []
  | op :: ops, s =>
    let t := ((perform op : Action (Session (Heard C)) E Answer).run s).2
    notices op s.1 t.1 ++ chronicle ops t

/-! ## Work on the store -/

/-- Work on results in memory. -/
theorem run_onStore {default : α} {f : ResultStore → Disk → α × ResultStore × Disk} {s : Session C}
    {entries : OrderedMap Snapshot} (w : World E) (h : s.memory? = some entries) :
    (onStore default f : Effect (Session C) E α) (s, w) =
      ((f (.memory entries) w.disk).1, { s with store := some (f (.memory entries) w.disk).2.1 },
        { w with disk := (f (.memory entries) w.disk).2.2 }) := by
  have hneed : (needStore : Effect (Session C) E _) (s, w) =
      (some (.memory entries), { s with store := some (.memory entries) }, w) := by
    obtain ⟨config, conn, transaction, cacheOn, store?, queries, executed, catalogue⟩ := s
    cases store? with
    | some store =>
      cases store with
      | memory => cases h; rfl
      | files => cases h
    | none =>
      unfold needStore
      rw [Effect.bind_apply, Effect.subject_apply]
      unfold memory? at h
      dsimp only at h ⊢
      cases hdir : config.cacheDir with
      | none =>
        rw [hdir] at h
        cases h
        rfl
      | some directory =>
        rw [hdir] at h
        cases h
  unfold onStore
  rw [Effect.bind_apply, hneed]
  rfl

theorem run_kept? {sql : String} {s : Session C} {entries : OrderedMap Snapshot} (w : World E)
    (h : s.memory? = some entries) :
    (kept? sql : Effect (Session C) E _) (s, w) =
      (entries.get? sql, { s with store := some (.memory entries) }, w) :=
  run_onStore w h

theorem run_keep {sql : String} {snapshot : Snapshot} {s : Session C}
    {entries : OrderedMap Snapshot} (w : World E) (h : s.memory? = some entries) :
    (keep sql snapshot : Effect (Session C) E Unit) (s, w) =
      ((), { s with store := some (.memory (entries.insert sql snapshot)) }, w) := by
  unfold keep
  rw [Effect.bind_apply, run_onStore w h]
  rfl

theorem run_forgetResults {s : Session C} {entries : OrderedMap Snapshot} (w : World E)
    (h : s.memory? = some entries) :
    (forgetResults : Effect (Session C) E Bool) (s, w) =
      (true, { s with store := some (.memory .empty) }, w) :=
  run_onStore w h

/-! ## Work aside of the store -/

/-- What is kept stays as it is, and so does what decides over it. -/
structure SameResults (s t : Session C) : Prop where
  config : t.config = s.config
  cacheOn : t.cacheOn = s.cacheOn
  store : t.store = s.store

theorem SameResults.trans {s t u : Session C} (hst : SameResults s t) (htu : SameResults t u) :
    SameResults s u :=
  ⟨htu.config.trans hst.config, htu.cacheOn.trans hst.cacheOn, htu.store.trans hst.store⟩

theorem SameResults.memory? {s t : Session C} (h : SameResults s t) : t.memory? = s.memory? := by
  unfold Session.memory?
  rw [h.config, h.store]

/-- The law of not touching results, for which the connection obeys a law of its own. -/
def aside (M : Law C) : Law (Session C) where
  rel s t := SameResults s t ∧ M.rel s.conn t.conn
  refl s := ⟨⟨rfl, rfl, rfl⟩, M.refl s.conn⟩
  trans hst htu := ⟨hst.1.trans htu.1, M.trans hst.2 htu.2⟩

theorem aside_of_conn_eq {M : Law C} {s t : Session C} (h : SameResults s t)
    (hconn : t.conn = s.conn) : (aside M).rel s t :=
  ⟨h, by rw [hconn]; exact M.refl s.conn⟩

theorem governs_onConn_aside {M : Law C} {a : Action C E α} (h : M.Governs a.run) :
    (aside M).Governs (onConn a).run :=
  fun s => ⟨⟨rfl, rfl, rfl⟩, h (s.1.conn, s.2)⟩

variable [Connection C] [Backend C E]

/-- Nothing but statements is heard. -/
theorem tended_aside : Tended E (aside (Heard.silent C)) where
  connect _ := governs_onConn_aside Heard.governs_inside
  reconnect := governs_onConn_aside Heard.governs_inside
  selectDatabase _ := governs_onConn_aside Heard.governs_inside
  setCharset _ _ := governs_onConn_aside Heard.governs_inside
  close _ := ⟨⟨rfl, rfl, rfl⟩, rfl⟩

theorem governs_connect_aside : (aside (Heard.silent C)).Governs
    (connect : Action (Session (Heard C)) E Unit).run :=
  governs_connect tended_aside

theorem governs_completeGroup_aside : (aside (Heard.silent C)).Governs
    (completeGroup : Action (Session (Heard C)) E _).run :=
  governs_completeGroup (fun _ _ => aside_of_conn_eq ⟨rfl, rfl, rfl⟩ rfl)
    (governs_onConn_aside Heard.governs_inside) (governs_onConn_aside Heard.governs_inside)

/-! ## What is heard -/

/-- What comes of a statement once the connection is open: it is heard with the answer that is
given, and the kept results are not touched. -/
theorem dispatch_heard (sql : String) (s : Session (Heard C)) (w : World E) :
    let r := (dispatch sql : Action (Session (Heard C)) E _).run (s, w)
    SameResults s r.2.1 ∧
      ∃ outcome, r.2.1.conn.hearings = s.conn.hearings ++ [⟨sql, outcome⟩] ∧
        match r.1 with
        | .ok handle? => outcome = .ok handle?
        | .error _ => outcome.isOk = false := by
  obtain ⟨q, hq⟩ : ∃ q, (Backend.execute sql : Action C E _).run (s.conn.conn, w) = q := ⟨_, rfl⟩
  have hheard : (Backend.execute sql : Action (Heard C) E _).run (s.conn, w) =
      (q.1, ⟨q.2.1, s.conn.hearings ++ [⟨sql, q.1⟩]⟩, q.2.2) := by
    rw [← hq]
    exact Heard.run_hearing sql _ s.conn w
  rw [run_dispatch, hheard]
  obtain ⟨e | handle?, conn, w'⟩ := q
  · have hreject : (aside (Heard.silent C)).Governs
        (reject sql e : Effect (Session (Heard C)) E DbError) :=
      governs_reject (fun _ => aside_of_conn_eq ⟨rfl, rfl, rfl⟩ rfl) governs_completeGroup_aside
    obtain ⟨hsame, hsilent⟩ := hreject ({ s with
      conn := ⟨conn, s.conn.hearings ++ [⟨sql, .error e⟩]⟩
      executed := s.executed + 1 }, w')
    exact ⟨⟨hsame.config, hsame.cacheOn, hsame.store⟩, .error e, hsilent, rfl⟩
  · exact ⟨⟨rfl, rfl, rfl⟩, .ok handle?, rfl, rfl⟩

/-- The same of a statement for which the connection may have to be opened first. Where that fails
there is nothing to hear. -/
theorem send_heard (sql : String) {s : Session (Heard C)} {w : World E} {r}
    {t : Session (Heard C) × World E}
    (hr : (send sql : Action (Session (Heard C)) E _).run (s, w) = (r, t)) :
    SameResults s t.1 ∧
      ∃ more, t.1.conn.hearings = s.conn.hearings ++ more ∧
        match r with
        | .ok handle? => more = [⟨sql, .ok handle?⟩]
        | .error _ => ∀ h ∈ more, h.outcome.isOk = false := by
  rw [send_eq, run_unless_connect_bind, Action.run_bind_apply] at hr
  rcases hconnect : (connect : Action (Session (Heard C)) E Unit).run (s, w) with ⟨e | u, v⟩
  · rw [hconnect] at hr
    cases hr
    have haside := governs_connect_aside.rel_of_eq hconnect
    exact ⟨haside.1, [], haside.2.trans (List.append_nil _).symm, nofun⟩
  · rw [hconnect] at hr
    dsimp only at hr
    obtain ⟨v', hrecord⟩ : ∃ v', (record sql : Action (Session (Heard C)) E Unit).run v =
      (.ok (), v') := ⟨_, rfl⟩
    rw [Action.run_bind_apply, hrecord] at hr
    have haside := (aside (Heard.silent C)).trans (governs_connect_aside.rel_of_eq hconnect)
      ((governs_record fun _ _ _ => aside_of_conn_eq ⟨rfl, rfl, rfl⟩ rfl).rel_of_eq hrecord)
    obtain ⟨hsame, outcome, hheard, hr'⟩ := dispatch_heard sql v'.1 v'.2
    dsimp only at hr
    rw [hr] at hsame hheard hr'
    refine ⟨haside.1.trans hsame, [⟨sql, outcome⟩], by rw [hheard, haside.2], ?_⟩
    cases r with
    | ok handle? => rw [hr']
    | error e =>
      intro h hh
      rw [List.mem_singleton.1 hh]
      exact hr'

/-! ## What is remembered -/

omit [Connection C] [Backend C E] in
theorem told_nil (s : Session C) : told s [] = [] := by
  unfold told
  split <;> rfl

omit [Connection C] [Backend C E] in
theorem told_append (s : Session C) (hearings more : List Hearing) :
    told s (hearings ++ more) = told s hearings ++ told s more := by
  unfold told
  split
  · exact List.flatMap_append
  · rfl

omit [Connection C] [Backend C E] in
/-- An answer of the backend tells of a read, or that results are dropped for a write. -/
theorem told_answer (s : Session C) (sql : String) (handle? : Option Handle) :
    told s [⟨sql, .ok handle?⟩] =
      if s.cacheOn then
        if Statement.isWrite sql then if s.config.cacheAutoDelete then [.dropped] else []
        else [.read sql (Cursor.ofAnswer handle?).columns (Cursor.ofAnswer handle?).valueRows.1]
      else [] := by
  unfold told
  rw [List.flatMap_singleton]
  rfl

omit [Connection C] [Backend C E] in
theorem told_congr {s t : Session C} (hconfig : t.config = s.config) (hon : t.cacheOn = s.cacheOn)
    (hearings : List Hearing) : told t hearings = told s hearings := by
  unfold told
  rw [hconfig, hon]

/-- What is kept in memory afterwards is what the answers leave of what was kept before. -/
structure Remembered (more : List Hearing) (s t : Session C) : Prop where
  config : t.config = s.config
  kept : ∀ entries, s.memory? = some entries → t.cacheOn = s.cacheOn ∧
    t.memory? = some (Notice.replay entries (told s more))

/-- What is kept is what the answers leave. -/
def remembering (C : Type) : Law (Session (Heard C)) where
  rel s t := ∃ more, t.conn.hearings = s.conn.hearings ++ more ∧ Remembered more s t
  refl s := by
    refine ⟨[], (List.append_nil _).symm, rfl, fun entries h => ⟨rfl, ?_⟩⟩
    rw [h, told_nil]
    rfl
  trans := by
    rintro s t u ⟨more, hmore, hst⟩ ⟨more', hmore', htu⟩
    refine ⟨more ++ more', by rw [hmore', hmore, List.append_assoc],
      htu.config.trans hst.config, fun entries h => ?_⟩
    obtain ⟨hon, ht⟩ := hst.kept entries h
    obtain ⟨hon', hu⟩ := htu.kept _ ht
    refine ⟨hon'.trans hon, ?_⟩
    rw [hu, told_append, Notice.replay_append, told_congr hst.config hon]

omit [Connection C] [Backend C E] in
/-- Answers that tell nothing are for sessions whose results are not touched. -/
theorem remembered_of_sameResults {more : List Hearing} {s t : Session C} (h : SameResults s t)
    (htold : told s more = []) : Remembered more s t where
  config := h.config
  kept entries hs := by
    refine ⟨h.cacheOn, ?_⟩
    rw [h.memory?, hs, htold]
    rfl

omit [Connection C] [Backend C E] in
theorem told_of_rejected {s : Session C} {more : List Hearing}
    (h : ∀ h ∈ more, h.outcome.isOk = false) : told s more = [] := by
  unfold told
  split
  · refine List.flatMap_eq_nil_iff.2 fun hearing hmem => ?_
    have hrejected := h hearing hmem
    unfold Hearing.notices
    split
    · rfl
    · next handle? heq =>
      rw [heq] at hrejected
      cases hrejected
  · rfl

omit [Connection C] [Backend C E] in
theorem remembering_of_aside {s t : Session (Heard C)}
    (h : (aside (Heard.silent C)).rel s t) : (remembering C).rel s t :=
  ⟨[], h.2.trans (List.append_nil _).symm, remembered_of_sameResults h.1 (told_nil s)⟩

/-! ## Queries -/

omit [Connection C] [Backend C E] in
/-- Looking for a result changes none. -/
theorem governs_kept? {sql : String} :
    (remembering C).Governs (kept? sql : Effect (Session (Heard C)) E (Option Snapshot)) := by
  intro ⟨s, w⟩
  obtain ⟨hconfig, -, hconn⟩ : (upkeep .unchanged).rel s (kept? sql (s, w)).2.1 :=
    governs_onStore (s, w)
  refine ⟨[], by rw [hconn, List.append_nil], hconfig, fun entries h => ?_⟩
  rw [told_nil, run_kept? w h]
  exact ⟨rfl, rfl⟩

omit [Connection C] [Backend C E] in
theorem settle_eq (sql : String) (handle? : Option Handle) :
    (settle sql handle? : Effect (Session C) E QueryOutcome) = (do
      let s : Session C ← Action.subject
      if Statement.isWrite sql then
        if s.cacheOn && s.config.cacheAutoDelete then
          let _ ← forgetResults
        return .written
      if s.cacheOn then
        let (snapshot, cursor) := (Cursor.ofAnswer handle?).toSnapshot
        keep sql snapshot
        return .rows cursor
      return .rows (Cursor.ofAnswer handle?)) := by
  cases handle? <;> rfl

omit [Connection C] [Backend C E] in
/-- What follows a statement that was accepted keeps what its answer tells. -/
theorem settle_kept (sql : String) (handle? : Option Handle) {s : Session C} (w : World E)
    {entries : OrderedMap Snapshot} (h : s.memory? = some entries) :
    let t := (settle sql handle? : Effect (Session C) E QueryOutcome) (s, w)
    t.2.1.cacheOn = s.cacheOn ∧
      t.2.1.memory? = some (Notice.replay entries (told s [⟨sql, .ok handle?⟩])) := by
  rw [settle_eq, Effect.bind_apply, Effect.subject_apply, told_answer]
  dsimp only
  split
  · -- a write, for which the results may be dropped
    split
    · next hdrop =>
      obtain ⟨hon, hdelete⟩ := Bool.and_eq_true_iff.1 hdrop
      rw [Effect.bind_apply, run_forgetResults w h, if_pos hon, if_pos hdelete]
      exact ⟨rfl, rfl⟩
    · next hkeep =>
      refine ⟨rfl, h.trans (congrArg some ?_)⟩
      split
      · next hon =>
        rw [if_neg fun hdelete => hkeep (Bool.and_eq_true_iff.2 ⟨hon, hdelete⟩)]
        rfl
      · rfl
  · split
    · rw [Effect.bind_apply, run_keep w h, Cursor.toSnapshot_fst]
      exact ⟨rfl, rfl⟩
    · exact ⟨rfl, h⟩

omit [Connection C] [Backend C E] in
/-- The answer has what was told. -/
theorem settle_answer (sql : String) (handle? : Option Handle) (s : Session C) (w : World E) :
    let r := (settle sql handle? : Effect (Session C) E QueryOutcome) (s, w)
    if Statement.isWrite sql then r.1 = .written
    else ∃ c, r.1 = .rows c ∧ c.columns = (Cursor.ofAnswer handle?).columns ∧
      c.valueRows.1 = (Cursor.ofAnswer handle?).valueRows.1 := by
  rw [settle_eq, Effect.bind_apply, Effect.subject_apply]
  dsimp only
  split
  · split <;> rfl
  · split
    · -- the rows that were taken for the store are those of the cursor
      refine ⟨(Cursor.ofAnswer handle?).valueRows.2, rfl, Cursor.columns_valueRows _, ?_⟩
      rw [Cursor.valueRows_valueRows]
    · exact ⟨_, rfl, rfl, rfl⟩

theorem governs_askBackend {sql : String} :
    (remembering C).Governs (askBackend sql : Action (Session (Heard C)) E _).run := by
  intro ⟨s, w⟩
  unfold askBackend
  rw [Action.run_bind_apply]
  rcases hsend : (send sql : Action (Session (Heard C)) E _).run (s, w) with ⟨e | handle?, t, v⟩
  · -- nothing is kept of a statement that failed, and nothing is told of it
    obtain ⟨hsame, more, hheard, hrejected⟩ := send_heard sql hsend
    exact ⟨more, hheard, remembered_of_sameResults hsame (told_of_rejected hrejected)⟩
  · -- sending leaves the store alone, so what is kept after it is what settling makes of it
    obtain ⟨hsame, _, hheard, rfl⟩ := send_heard sql hsend
    obtain ⟨hconfig, -, hconn⟩ : (upkeep .unchanged).rel t
        ((settle sql handle? : Effect (Session (Heard C)) E _) (t, v)).2.1 :=
      governs_settle (t, v)
    refine ⟨[⟨sql, .ok handle?⟩], ?_, hconfig.trans hsame.config, fun entries h => ?_⟩
    · exact (congrArg Heard.hearings hconn).trans hheard
    · obtain ⟨hon, hkept⟩ := settle_kept sql handle? v (hsame.memory?.trans h)
      rw [told_congr hsame.config hsame.cacheOn] at hkept
      exact ⟨hon.trans hsame.cacheOn, hkept⟩

/-- A query keeps what it tells. -/
theorem governs_query_remembering {sql : String} {binds : List Value} :
    (remembering C).Governs (query sql binds : Action (Session (Heard C)) E _).run :=
  governs_query_of_parts (fun _ => governs_kept?) fun _ => governs_askBackend

theorem queried_remembering : Queried E (remembering C).contract where
  query _ _ := Contract.meets_contract_iff.2 governs_query_remembering
  names _ _ := remembering_of_aside ⟨⟨rfl, rfl, rfl⟩, rfl⟩

/-- An answer of the backend is heard, and it is what the caller is given. -/
theorem askBackend_answer {sql : String} {s : Session (Heard C)} {w : World E}
    {outcome : QueryOutcome} {t : Session (Heard C) × World E}
    (hr : (askBackend sql : Action (Session (Heard C)) E _).run (s, w) = (.ok outcome, t)) :
    ∃ handle?, t.1.conn.hearings = s.conn.hearings ++ [⟨sql, .ok handle?⟩] ∧
      if Statement.isWrite sql then outcome = .written
      else ∃ c, outcome = .rows c ∧ c.columns = (Cursor.ofAnswer handle?).columns ∧
        c.valueRows.1 = (Cursor.ofAnswer handle?).valueRows.1 := by
  unfold askBackend at hr
  rw [Action.run_bind_apply] at hr
  rcases hsend : (send sql : Action (Session (Heard C)) E _).run (s, w) with ⟨e | handle?, u, v⟩
  · rw [hsend] at hr
    cases hr
  · rw [hsend] at hr
    obtain ⟨-, _, hheard, rfl⟩ := send_heard sql hsend
    have hanswer := settle_answer sql handle? u v
    obtain ⟨-, -, hconn⟩ : (upkeep .unchanged).rel u
        ((settle sql handle? : Effect (Session (Heard C)) E _) (u, v)).2.1 :=
      governs_settle (u, v)
    cases hr
    exact ⟨handle?, (congrArg Heard.hearings hconn).trans hheard, hanswer⟩

/-- A query is answered by what is kept of its final text, or by the backend. -/
theorem query_answer {sql : String} {binds : List Value} {s : Session (Heard C)} {w : World E}
    {entries : OrderedMap Snapshot} {outcome : QueryOutcome} {t : Session (Heard C) × World E}
    (h : s.memory? = some entries)
    (hr : (query sql binds : Action (Session (Heard C)) E _).run (s, w) = (.ok outcome, t)) :
    (t.1.conn.hearings = s.conn.hearings ∧ ∃ snapshot,
      entries.get? (s.finalText sql binds) = some snapshot ∧
        outcome = .rows (.ofSnapshot snapshot)) ∨
    ∃ handle?, t.1.conn.hearings = s.conn.hearings ++ [⟨s.finalText sql binds, .ok handle?⟩] ∧
      if Statement.isWrite (s.finalText sql binds) then outcome = .written
      else ∃ c, outcome = .rows c ∧ c.columns = (Cursor.ofAnswer handle?).columns ∧
        c.valueRows.1 = (Cursor.ofAnswer handle?).valueRows.1 := by
  rw [run_query] at hr
  split at hr
  · cases hr
  · unfold resolve at hr
    rw [Action.run_bind_apply, Action.run_subject_apply] at hr
    dsimp only at hr
    split at hr
    · rw [Action.run_bind_apply, Action.run_act_apply, run_kept? w h] at hr
      dsimp only at hr
      cases hfound : entries.get? (s.finalText sql binds) with
      | some snapshot =>
        rw [hfound] at hr
        cases hr
        exact .inl ⟨rfl, snapshot, rfl, rfl⟩
      | none =>
        rw [hfound] at hr
        have hanswer := askBackend_answer hr
        exact .inr hanswer
    · exact .inr (askBackend_answer hr)

/-! ## Runs -/

omit [Connection C] [Backend C E] in
/-- What is heard of an operation. -/
theorem told_of_remembering {s t : Session (Heard C)} {entries : OrderedMap Snapshot}
    (h : (remembering C).rel s t) (hs : s.memory? = some entries) :
    t.memory? = some (Notice.replay entries
      (told s (t.conn.hearings.drop s.conn.hearings.length))) := by
  obtain ⟨more, hmore, hkept⟩ := h
  rw [hmore, List.drop_left, (hkept.kept entries hs).2]

/-- The operation has no part in what is kept, but for the statements that its queries send. -/
def Operation.isAside : Operation → Bool
  | runDirect _ | setCaching _ | forgetResults | setCacheDir _ | renewStore | setTablePrefix _ =>
    false
  | _ => true

/-- Such operations keep what they tell. -/
theorem governs_perform_remembering {op : Operation} (hop : op.isAside = true) :
    (remembering C).Governs (perform op : Action (Session (Heard C)) E Answer).run := by
  have haside {α : Type} {a : Action (Session (Heard C)) E α} {f : α → Answer}
      (ha : (aside (Heard.silent C)).Governs a.run) :
      (remembering C).Governs (do return f (← a) : Action (Session (Heard C)) E Answer).run :=
    .run_bind (ha.mono fun _ _ => remembering_of_aside) fun _ => .run_pure
  have hstart : (aside (Heard.silent C)).Governs
      (startPhysical : Action (Session (Heard C)) E Unit).run :=
    governs_unless_connect_bind governs_connect_aside
      (governs_call (governs_onConn_aside Heard.governs_inside))
  have hchange {f : Session (Heard C) → Session (Heard C)}
      (hf : ∀ s, (aside (Heard.silent C)).rel s (f s)) :
      (remembering C).Governs (change f : Action (Session (Heard C)) E Answer).run :=
    haside (f := fun _ => .done) (.run_modifySubject hf)
  -- queries keep what they tell; all other work is aside of the store
  cases op with
  | query | tables | tableExists | columns | columnExists | columnData | primaryKey | version
    | countAll =>
    exact Contract.meets_contract_iff.1 (meets_inquiry rfl queried_remembering)
  | connect => exact haside governs_connect_aside
  | reconnect =>
    exact haside (governs_reconnect governs_connect_aside tended_aside.reconnect)
  | close => exact haside (.run_act (governs_close tended_aside))
  | startGroup | completeGroup | beginManual | commitManual | rollbackManual =>
    refine Law.Governs.mono ?_ fun _ _ => remembering_of_aside
    exact governs_transactional rfl (fun _ _ => aside_of_conn_eq ⟨rfl, rfl, rfl⟩ rfl) hstart
      (governs_onConn_aside Heard.governs_inside) (governs_onConn_aside Heard.governs_inside)
  | disableTransactions | setStrict | forgetNames =>
    exact hchange fun _ => aside_of_conn_eq ⟨rfl, rfl, rfl⟩ rfl
  | runDirect | setCaching | forgetResults | setCacheDir | renewStore | setTablePrefix => cases hop

/-- A statement that is handed to the backend is heard, but nothing is made of its result. -/
theorem sameResults_runDirect (sql : String) (s : Session (Heard C)) (w : World E) :
    SameResults s
      ((perform (.runDirect sql) : Action (Session (Heard C)) E Answer).run (s, w)).2.1 := by
  have hsame : (aside (.preserving fun _ => True)).Governs
      (runDirect sql : Action (Session (Heard C)) E _).run :=
    governs_runDirect (governs_connect_aside.mono fun _ _ h => ⟨h.1, id⟩)
      (governs_onConn_aside fun _ => id)
  have hdirect : (aside (.preserving fun _ => True)).Governs
      (perform (.runDirect sql) : Action (Session (Heard C)) E Answer).run :=
    .run_bind hsame fun _ => .run_pure
  exact (hdirect (s, w)).1

/-- **The step.** What is kept in memory after an operation is what the operation tells of it. -/
theorem memory?_perform {op : Operation} (hop : ∀ directory, op ≠ .setCacheDir directory)
    {s : Session (Heard C)} {w : World E} {entries : OrderedMap Snapshot}
    (hs : s.memory? = some entries) :
    let t := ((perform op : Action (Session (Heard C)) E Answer).run (s, w)).2.1
    t.memory? = some (Notice.replay entries (notices op s t)) := by
  have hedit {t : Session (Heard C)} (hmemory : t.memory? = s.memory?) (hconn : t.conn = s.conn) :
      t.memory? = some (Notice.replay entries
        (told s (t.conn.hearings.drop s.conn.hearings.length))) := by
    rw [hconn, List.drop_length, told_nil, hmemory, hs]
    rfl
  -- edits change neither the results nor what was heard; three operations work on the store itself
  cases op with
  | forgetResults =>
    show ((forgetResults : Effect (Session (Heard C)) E Bool) (s, w)).2.1.memory? = _
    rw [run_forgetResults w hs]
    rfl
  | renewStore => rfl
  | setCacheDir directory => exact absurd rfl (hop directory)
  | runDirect sql => exact (sameResults_runDirect sql s w).memory?.trans hs
  | setCaching | setTablePrefix => exact hedit rfl rfl
  | _ => exact told_of_remembering (governs_perform_remembering rfl (s, w)) hs

/-- **The run.** What is kept in memory is what was told. -/
theorem memory?_after {ops : List Operation}
    (hops : ∀ op ∈ ops, ∀ directory, op ≠ .setCacheDir directory)
    {s : Session (Heard C) × World E} {entries : OrderedMap Snapshot}
    (hs : s.1.memory? = some entries) :
    (after ops s).1.memory? = some (Notice.replay entries (chronicle ops s)) := by
  induction ops generalizing s entries with
  | nil => exact hs
  | cons op ops ih =>
    have hstep := memory?_perform (w := s.2) (hops op (List.mem_cons_self ..)) hs
    rw [after_cons, ih (fun op hop => hops op (List.mem_cons_of_mem _ hop)) hstep, chronicle,
      Notice.replay_append]

/-! ## Answers without the backend -/

omit [Connection C] [Backend C E] in
/-- Writes are never told as reads. -/
theorem isWrite_of_mem_told {s : Session C} {hearings : List Hearing} {sql : String}
    {columns : List String} {rows : List (List Value)}
    (h : Notice.read sql columns rows ∈ told s hearings) : Statement.isWrite sql = false := by
  unfold told at h
  split at h
  · obtain ⟨hearing, -, hmem⟩ := List.mem_flatMap.1 h
    unfold Hearing.notices at hmem
    split at hmem
    · cases hmem
    · split at hmem
      · split at hmem
        · cases List.mem_singleton.1 hmem
        · cases hmem
      · next hread =>
        cases List.mem_singleton.1 hmem
        exact Bool.eq_false_iff.2 hread
  · cases h

theorem isWrite_of_mem_chronicle {ops : List Operation} {s : Session (Heard C) × World E}
    {sql : String} {columns : List String} {rows : List (List Value)}
    (h : .read sql columns rows ∈ chronicle ops s) : Statement.isWrite sql = false := by
  induction ops generalizing s with
  | nil => cases h
  | cons op ops ih =>
    rcases List.mem_append.1 h with h | h
    · unfold notices at h
      split at h
      · cases List.mem_singleton.1 h
      · cases List.mem_singleton.1 h
      · cases List.mem_singleton.1 h
      · cases h
      · exact isWrite_of_mem_told h
    · exact ih h

/-- **Answers without the backend are faithful.** Take any run of a session that keeps its results in
memory, and a query after it that is answered. If nothing was asked of the backend, then the final
text is no write, and the answer has the columns and the rows of the read of that very text that
comes last in the run, while results were kept, and none were dropped since. And if the backend was
asked, then what is told of the read is what its cursor has. -/
theorem kept_answers_faithful {config : ConnectionConfig} (hdir : config.cacheDir = none) (conn : C)
    (w : World E) {ops : List Operation}
    (hops : ∀ op ∈ ops, ∀ directory, op ≠ .setCacheDir directory)
    {s : Session (Heard C)} {v : World E}
    (hs : after ops (create config (Heard.untouched conn), w) = (s, v)) {sql : String}
    {binds : List Value} {outcome : QueryOutcome} {t : Session (Heard C) × World E}
    (hr : (query sql binds : Action (Session (Heard C)) E _).run (s, v) = (.ok outcome, t)) :
    (t.1.conn.hearings = s.conn.hearings →
      Statement.isWrite (s.finalText sql binds) = false ∧
        ∃ c earlier later, outcome = .rows c ∧
          chronicle ops (create config (Heard.untouched conn), w) =
            earlier ++ .read (s.finalText sql binds) c.columns c.valueRows.1 :: later ∧
          ∀ n ∈ later, n.Spares (s.finalText sql binds)) ∧
    (t.1.conn.hearings ≠ s.conn.hearings → s.cacheOn = true → ∀ c, outcome = .rows c →
      notices (.query sql binds) s t.1 =
        [.read (s.finalText sql binds) c.columns c.valueRows.1]) := by
  have hstart : (create config (Heard.untouched conn)).memory? = some .empty := by
    unfold memory?
    rw [show (create config (Heard.untouched conn)).config.cacheDir = none from hdir]
    rfl
  have hkept := memory?_after hops (s := (create config (Heard.untouched conn), w)) hstart
  rw [hs] at hkept
  rcases query_answer hkept hr with ⟨hquiet, snapshot, hfound, rfl⟩ | ⟨handle?, hheard, hanswer⟩
  · -- the snapshot is in the store, and what is in the store was read
    refine ⟨fun _ => ?_, fun hnew => absurd hquiet hnew⟩
    obtain ⟨earlier, later, htold, hspared⟩ := Notice.exists_of_replay hfound
    exact ⟨isWrite_of_mem_chronicle (htold ▸ List.mem_append_right _ (List.mem_cons_self ..)),
      .ofSnapshot snapshot, earlier, later, rfl, htold, hspared⟩
  · -- the backend was asked, and the one answer that was heard is the one that was given
    refine ⟨fun hquiet => ?_, fun _ hon c hc => ?_⟩
    · rw [hheard] at hquiet
      exact absurd (List.append_right_eq_self.1 hquiet) (List.cons_ne_nil _ _)
    · show told s (t.1.conn.hearings.drop s.conn.hearings.length) = _
      rw [hheard, List.drop_left, told_answer, if_pos hon]
      split at hanswer
      · cases hanswer.symm.trans hc
      · next hread =>
        obtain ⟨c', hc', hcolumns, hrows⟩ := hanswer
        cases hc'.symm.trans hc
        rw [if_neg hread, hcolumns, hrows]

/-- A session that keeps results, with a backend that knows a name. -/
def keepingStart : Session (Heard Scripted) × World Script :=
  (create { ConnectionConfig.ofKind "mock" with cacheOn := true }
      (Heard.untouched (Scripted.ofDialect .mysql)),
    ⟨.empty, { (default : Script) with
      replies := [⟨"name", 0, some (.buffered (.ofRows [.named "name"] [[.text "Ann"]]))⟩] }⟩)

/-- A read, and a write that does not drop its result. -/
def readThenWrite : List Operation :=
  [.query "SELECT name FROM t" [], .query "INSERT INTO t VALUES (1)" []]

/-- The read is answered again without the backend, as it was told in the run. -/
theorem kept_answers_faithful_again :
    ∃ s v c t, keepingStart.1.config.cacheDir = none ∧
      (∀ op ∈ readThenWrite, ∀ directory, op ≠ .setCacheDir directory) ∧
      after readThenWrite keepingStart = (s, v) ∧
      (query "SELECT name FROM t" [] : Action (Session (Heard Scripted)) Script _).run (s, v) =
        (.ok (.rows c), t) ∧
      t.1.conn.hearings = s.conn.hearings ∧ c.columns = ["name"] ∧ c.valueRows.1 = [[.text "Ann"]] ∧
      ∃ earlier later, chronicle readThenWrite keepingStart =
        earlier ++ .read "SELECT name FROM t" ["name"] [[.text "Ann"]] :: later := by
  have hops : ∀ op ∈ readThenWrite, ∀ directory, op ≠ .setCacheDir directory := by
    intro op hop directory heq
    subst heq
    revert hop
    simp [readThenWrite]
  have hanswer : ((query "SELECT name FROM t" [] :
      Action (Session (Heard Scripted)) Script _).run
        (after readThenWrite keepingStart)).1.toOption.map
          (fun outcome => (outcome.cursor.columns, outcome.cursor.valueRows.1)) =
        some (["name"], [[.text "Ann"]]) := by
    decide +kernel
  have hlength : ((query "SELECT name FROM t" [] : Action (Session (Heard Scripted)) Script _).run
      (after readThenWrite keepingStart)).2.1.conn.hearings.length =
        (after readThenWrite keepingStart).1.conn.hearings.length := by
    decide +kernel
  have htext : (after readThenWrite keepingStart).1.finalText "SELECT name FROM t" [] =
      "SELECT name FROM t" := by
    decide +kernel
  have hlaw : (remembering Scripted).Governs
      (query "SELECT name FROM t" [] : Action (Session (Heard Scripted)) Script _).run :=
    governs_query_remembering
  -- hearings only grow, so it is enough to compare their number
  obtain ⟨more, hmore, -⟩ := hlaw (after readThenWrite keepingStart)
  unfold keepingStart at hanswer hlength htext hmore ⊢
  rcases hs : after readThenWrite (create _ (Heard.untouched (Scripted.ofDialect .mysql)), _)
    with ⟨s, v⟩
  rw [hs] at hanswer hlength htext hmore
  rcases hr : (query "SELECT name FROM t" [] : Action (Session (Heard Scripted)) Script _).run (s, v)
    with ⟨e | outcome, t⟩
  · rw [hr] at hanswer
    cases hanswer
  · rw [hr] at hanswer hlength hmore
    obtain rfl : more = [] := by
      rw [hmore, List.length_append] at hlength
      exact List.length_eq_zero_iff.1 (by omega)
    have hquiet : t.1.conn.hearings = s.conn.hearings := hmore.trans (List.append_nil _)
    obtain ⟨-, c, earlier, later, rfl, htold, -⟩ :=
      (kept_answers_faithful rfl _ _ hops hs hr).1 hquiet
    obtain ⟨hcolumns, hrows⟩ : c.columns = ["name"] ∧ c.valueRows.1 = [[.text "Ann"]] :=
      Prod.mk.inj (Option.some.inj hanswer)
    refine ⟨s, v, c, t, rfl, hops, rfl, hr, hquiet, hcolumns, hrows, earlier, later, ?_⟩
    rw [htold, hcolumns, hrows, htext]

end Session

end SqlGateway
