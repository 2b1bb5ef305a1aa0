import Mathlib.Control.Monad.Basic
import Mathlib.Data.List.Induction
import SqlGateway.Proofs.Backend.Logged
import SqlGateway.Proofs.Session.Remembering
import SqlGateway.Proofs.Session.Watching

/-!
# Accounts of what is kept

Which read a query is answered from, told from what went before. A run is told as a list of remarks:
every statement with its answer and with whether results were being kept then, every other call on
the backend, and every time that the caller dropped the results. Nothing in it comes from the store
of the session. For settings that drop results after writes, the account decides exactly when a
query is answered without the backend, and by which read.

The invariant is the one of `Session.memory?_after`: the store is what the notices of the account
leave. It is taken over from sessions that are heard, of which the logged ones tell more.

Main definitions:

* `Remark`, `Session.account`: what is told of a run.
* `Remark.Touches`: what makes the kept result of a text go.
* `KeptRead`: the read of a text that was kept and not touched since.

Main results:

* `Session.keptRead_of_quiet`: an answer without the backend is that of the kept read.
* `Session.answered_of_keptRead`: where there is a kept read, it is the answer.
-/

namespace SqlGateway

deriving instance DecidableEq for Hearing, LogEntry

/-- What is told of a run. -/
inductive Remark where
  /-- The caller dropped all results. -/
  | dropped
  /-- A query sent a statement, while results were being kept or not. -/
  | sent (keeping : Bool) (h : Hearing)
  /-- A statement was handed to the backend as it is. -/
  | direct (h : Hearing)
  /-- Another call was made on the backend. -/
  | called (e : BackendEvent)
  deriving DecidableEq

namespace Remark

/-- An entry of the log as a remark, by how statements are told. -/
def ofEntry (statement : Hearing → Remark) : LogEntry → Remark
  | .statement h => statement h
  | .call e => called e

/-- What the remark tells of results. -/
def notices (autoDelete : Bool) : Remark → List Notice
  | dropped => [.dropped]
  | sent true h => h.notices autoDelete
  | sent false _ | direct _ | called _ => []

/-- A query sent a write, which the backend accepted. -/
def IsWrite : Remark → Prop
  | sent _ h => Statement.isWrite h.sql = true ∧ h.outcome.isOk = true
  | _ => False

/-- What was kept of a text before the remark is not what is kept after it. -/
def Touches (sql : String) : Remark → Prop
  | dropped => True
  | sent keeping h =>
    keeping = true ∧ h.outcome.isOk = true ∧ (Statement.isWrite h.sql = true ∨ h.sql = sql)
  | direct _ | called _ => False

/-- While results are being kept, every accepted write touches what is kept. -/
theorem IsWrite.touches {r : Remark} (h : r.IsWrite) (sql : String)
    (hkeeping : ∀ keeping h, r = sent keeping h → keeping = true) : r.Touches sql := by
  cases r with
  | sent keeping hearing => exact ⟨hkeeping _ _ rfl, h.2, .inl h.1⟩
  | dropped | direct | called => cases h

end Remark

/-- The result that is kept of an answer. -/
def Snapshot.ofAnswer (handle? : Option Handle) : Snapshot :=
  (Cursor.ofAnswer handle?).toSnapshot.1

theorem Snapshot.ofAnswer_eq (handle? : Option Handle) :
    ofAnswer handle? = ⟨(Cursor.ofAnswer handle?).columns, (Cursor.ofAnswer handle?).valueRows.1,
      (Cursor.ofAnswer handle?).valueRows.1.length⟩ :=
  Cursor.toSnapshot_fst _

/-- The read of a text that an account has last, if it was kept and not touched since. -/
structure KeptRead (account : List Remark) (sql : String) (earlier : List Remark)
    (handle? : Option Handle) (later : List Remark) : Prop where
  told : account = earlier ++ .sent true ⟨sql, .ok handle?⟩ :: later
  read : Statement.isWrite sql = false
  untouched : ∀ r ∈ later, ¬ r.Touches sql

/-! ## What remarks leave of results -/

namespace Remark

variable {entries : OrderedMap Snapshot} {sql : String}

theorem notices_read {handle? : Option Handle} (hread : Statement.isWrite sql = false) :
    (sent true ⟨sql, .ok handle?⟩).notices true =
      [.read sql (Cursor.ofAnswer handle?).columns (Cursor.ofAnswer handle?).valueRows.1] := by
  unfold notices Hearing.notices
  simp only [hread, Bool.false_eq_true, ↓reduceIte]

/-- A read is kept. -/
theorem get?_read {handle? : Option Handle} (hread : Statement.isWrite sql = false) :
    (Notice.replay entries ((sent true ⟨sql, .ok handle?⟩).notices true)).get? sql =
      some (.ofAnswer handle?) := by
  rw [notices_read hread, Notice.replay, List.foldl_cons, List.foldl_nil, Notice.apply,
    OrderedMap.get?_insert, if_pos rfl, Snapshot.ofAnswer_eq]

/-- What is not touched stays. -/
theorem get?_of_not_touches {r : Remark} (h : ¬ r.Touches sql) :
    (Notice.replay entries (r.notices true)).get? sql = entries.get? sql := by
  cases r with
  | dropped => exact absurd trivial h
  | direct | called => rfl
  | sent keeping hearing =>
    cases keeping with
    | false => rfl
    | true =>
      obtain ⟨text, e | handle?⟩ := hearing
      · rfl
      · -- what was accepted is the read of another text
        have hread : Statement.isWrite text = false := by
          refine Bool.eq_false_iff.2 fun hwrite => h ⟨rfl, rfl, .inl hwrite⟩
        have hother : sql ≠ text := fun heq => h ⟨rfl, rfl, .inr heq.symm⟩
        rw [notices_read hread, Notice.replay, List.foldl_cons, List.foldl_nil, Notice.apply,
          OrderedMap.get?_insert, if_neg hother]

/-- What touches the result of a text is a new read of it, or drops it. -/
theorem touches_cases {r : Remark} (h : r.Touches sql) :
    (∃ handle?, r = sent true ⟨sql, .ok handle?⟩ ∧ Statement.isWrite sql = false) ∨
      ∀ entries, (Notice.replay entries (r.notices true)).get? sql = none := by
  cases r with
  | dropped => exact .inr fun _ => rfl
  | direct | called => exact absurd h id
  | sent keeping hearing =>
    obtain ⟨text, outcome⟩ := hearing
    obtain ⟨rfl, hok, hwrite⟩ := h
    cases outcome with
    | error e => cases hok
    | ok handle? =>
      by_cases hdrops : Statement.isWrite text = true
      · refine .inr fun entries => ?_
        have hnotices : (sent true ⟨text, .ok handle?⟩).notices true = [.dropped] := by
          unfold notices Hearing.notices
          simp only [hdrops, ↓reduceIte]
        rw [hnotices]
        rfl
      · obtain rfl : text = sql := hwrite.resolve_left hdrops
        exact .inl ⟨handle?, rfl, Bool.eq_false_iff.2 hdrops⟩

end Remark

namespace KeptRead

variable {account : List Remark} {sql : String} {earlier later : List Remark}
  {handle? : Option Handle}

/-- A kept read stays the kept one while it is not touched. -/
theorem concat (h : KeptRead account sql earlier handle? later) {r : Remark}
    (hr : ¬ r.Touches sql) :
    KeptRead (account ++ [r]) sql earlier handle? (later ++ [r]) where
  told := by rw [h.told, List.append_assoc, List.cons_append]
  read := h.read
  untouched r' hr' := by
    rcases List.mem_append.1 hr' with hlater | hlast
    · exact h.untouched r' hlater
    · rw [List.mem_singleton.1 hlast]
      exact hr

/-- The read is the remark that comes last, or it was the kept one before. -/
theorem of_concat {r : Remark} (h : KeptRead (account ++ [r]) sql earlier handle? later) :
    (r = .sent true ⟨sql, .ok handle?⟩ ∧ account = earlier ∧ later = []) ∨
      ∃ before, later = before ++ [r] ∧ KeptRead account sql earlier handle? before := by
  rcases List.eq_nil_or_concat later with rfl | ⟨before, last, rfl⟩
  · obtain ⟨hearlier, hlast⟩ := List.append_inj' h.told rfl
    exact .inl ⟨List.singleton_inj.1 hlast, hearlier, rfl⟩
  · have htold : account ++ [r] =
        (earlier ++ .sent true ⟨sql, .ok handle?⟩ :: before) ++ [last] := by
      rw [h.told, List.concat_eq_append, List.append_assoc, List.cons_append]
    obtain ⟨haccount, hlast⟩ := List.append_inj' htold rfl
    obtain rfl : r = last := List.singleton_inj.1 hlast
    refine .inr ⟨before, List.concat_eq_append, haccount, h.read, fun r' hr' => ?_⟩
    exact h.untouched r' (List.concat_eq_append ▸ List.mem_append_left _ hr')

/-- A kept read comes after everything that touches its text. -/
theorem mem_earlier (h : KeptRead account sql earlier handle? later) {before after : List Remark}
    {r : Remark} (hsplit : account = before ++ r :: after) (hr : r.Touches sql) :
    (∃ mid, after = mid ++ .sent true ⟨sql, .ok handle?⟩ :: later) ∨
      (r = .sent true ⟨sql, .ok handle?⟩ ∧ after = later) := by
  rcases List.append_eq_append_iff.1 (hsplit.symm.trans h.told) with
    ⟨mid, hearlier, hafter⟩ | ⟨mid, hbefore, hlater⟩
  · -- the read is not before the remark
    cases mid with
    | nil =>
      obtain ⟨rfl, rfl⟩ := List.cons.inj hafter
      exact .inr ⟨rfl, rfl⟩
    | cons r' mid =>
      obtain ⟨-, rfl⟩ := List.cons.inj hafter
      exact .inl ⟨mid, rfl⟩
  · cases mid with
    | nil =>
      obtain ⟨rfl, rfl⟩ := List.cons.inj hlater
      exact .inr ⟨rfl, rfl⟩
    | cons r' mid =>
      -- if it were, then the remark would be one of the later ones
      obtain ⟨-, rfl⟩ := List.cons.inj hlater
      exact absurd hr (h.untouched r (List.mem_append_right _ (List.mem_cons_self ..)))

end KeptRead

/-- What an account leaves of a text is the result of the kept read. -/
theorem get?_replay_iff {account : List Remark} {sql : String} {snapshot : Snapshot} :
    (Notice.replay .empty (account.flatMap (Remark.notices true))).get? sql = some snapshot ↔
      ∃ earlier handle? later, KeptRead account sql earlier handle? later ∧
        snapshot = .ofAnswer handle? := by
  -- from the end of the account: the last remark is a read of the text, or it drops what is kept
  -- of the text, or it does not touch it
  induction account using List.reverseRecOn generalizing snapshot with
  | nil =>
    refine ⟨nofun, ?_⟩
    rintro ⟨earlier, handle?, later, hkept, -⟩
    exact absurd hkept.told.symm (List.append_ne_nil_of_right_ne_nil _ (List.cons_ne_nil _ _))
  | append_singleton account r ih =>
    rw [List.flatMap_append, List.flatMap_singleton, Notice.replay_append]
    by_cases hr : r.Touches sql
    · rcases Remark.touches_cases hr with ⟨handle?, rfl, hread⟩ | hdrops
      · rw [Remark.get?_read hread]
        constructor
        · intro h
          refine ⟨account, handle?, [], ⟨rfl, hread, nofun⟩, (Option.some.inj h).symm⟩
        · rintro ⟨earlier, handle?', later, hkept, rfl⟩
          rcases hkept.of_concat with ⟨heq, -, -⟩ | ⟨before, rfl, -⟩
          · cases heq
            rfl
          · exact absurd hr (hkept.untouched _ (List.mem_append_right _ (List.mem_cons_self ..)))
      · rw [hdrops]
        refine ⟨nofun, ?_⟩
        rintro ⟨earlier, handle?, later, hkept, -⟩
        rcases hkept.of_concat with ⟨rfl, -, -⟩ | ⟨before, rfl, -⟩
        · have hnone := hdrops .empty
          rw [Remark.get?_read hkept.read] at hnone
          cases hnone
        · exact absurd hr (hkept.untouched _ (List.mem_append_right _ (List.mem_cons_self ..)))
    · rw [Remark.get?_of_not_touches hr, ih]
      constructor
      · rintro ⟨earlier, handle?, later, hkept, hsnapshot⟩
        exact ⟨earlier, handle?, later ++ [r], hkept.concat hr, hsnapshot⟩
      · rintro ⟨earlier, handle?, later, hkept, hsnapshot⟩
        rcases hkept.of_concat with ⟨rfl, -, -⟩ | ⟨before, rfl, hbefore⟩
        · exact absurd ⟨rfl, rfl, .inr rfl⟩ hr
        · exact ⟨earlier, handle?, before, hbefore, hsnapshot⟩

/-! ## Logs that only grow -/

theorem Logged.upkept_growing {C E : Type} [Connection C] [Backend C E] :
    Upkept E (Logged.growing C) where
  connect _ := governs_logging
  reconnect := governs_logging
  selectDatabase _ := governs_logging
  setCharset _ _ := governs_logging
  close s := List.prefix_append s.1.log _

namespace Session

variable {C E : Type}

/-- The log is only added to, and whether writes drop results stays settled. -/
def logging (C : Type) : Law (Session (Logged C)) where
  rel s t := t.config.cacheAutoDelete = s.config.cacheAutoDelete ∧
    (Logged.growing C).rel s.conn t.conn
  refl s := ⟨rfl, (Logged.growing C).refl s.conn⟩
  trans hst htu := ⟨htu.1.trans hst.1, (Logged.growing C).trans hst.2 htu.2⟩

theorem logging_of_upkeep {s t : Session (Logged C)}
    (h : (upkeep (Logged.growing C)).rel s t) : (logging C).rel s t :=
  ⟨congrArg ConnectionConfig.cacheAutoDelete h.1, h.2.2⟩

variable [Connection C] [Backend C E]

/-- Whatever an operation does, it leaves the log that there was. -/
theorem governs_perform_logging (op : Operation) :
    (logging C).Governs (perform op : Action (Session (Logged C)) E Answer).run := by
  have hstep (s : Session (Logged C)) (transaction : Transaction) :
      (logging C).rel s { s with transaction } :=
    ⟨rfl, (Logged.growing C).refl s.conn⟩
  have honConn {α : Type} {a : Action (Logged C) E α} (ha : (Logged.growing C).Governs a.run) :
      (logging C).Governs (onConn a : Action (Session (Logged C)) E α).run :=
    (governs_onConn ha).mono fun _ _ => logging_of_upkeep
  have hupkept : Upkept E (Logged.growing C) := Logged.upkept_growing
  -- a statement that fails may end the group, so groups come before statements
  have hgroup := governs_completeGroup hstep
    (honConn (a := (Backend.commit : Action (Logged C) E Unit)) Logged.governs_logging)
    (honConn Logged.governs_logging)
  have hdispatch (sql : String) :
      (logging C).Governs (dispatch sql : Action (Session (Logged C)) E _).run :=
    governs_dispatch (fun _ _ _ => logging_of_upkeep (upkeep_notes ..))
      (honConn Logged.governs_logging) (fun s => hstep s _) hgroup
  have hchange {f : Session (Logged C) → Session (Logged C)}
      (hf : ∀ s, (f s).config.cacheAutoDelete = s.config.cacheAutoDelete ∧ (f s).conn = s.conn) :
      (logging C).Governs (change f : Action (Session (Logged C)) E Answer).run := by
    refine .run_bind (.run_modifySubject fun s => ⟨(hf s).1, ?_⟩) fun _ => .run_pure
    rw [(hf s).2]
    exact (Logged.growing C).refl s.conn
  by_cases hplain : op.isPlain = true
  · exact governs_plain hplain (.of_upkeep hupkept (fun _ _ => logging_of_upkeep) hdispatch
      fun _ => honConn Logged.governs_logging)
  · have hstart : (logging C).Governs
        (startPhysical : Action (Session (Logged C)) E Unit).run :=
      governs_unless_connect_bind
        ((governs_connect (Tended.of_upkept hupkept)).mono fun _ _ => logging_of_upkeep)
        (governs_call (honConn Logged.governs_logging))
    cases op with
    | startGroup | completeGroup | beginManual | commitManual | rollbackManual =>
      exact governs_transactional rfl hstep hstart (honConn Logged.governs_logging)
        (honConn Logged.governs_logging)
    | disableTransactions | setStrict | setCacheDir | setTablePrefix =>
      exact hchange fun _ => ⟨rfl, rfl⟩
    | _ => exact absurd rfl hplain

/-! ## Accounts -/

/-- What is told of an operation, by what was logged while it ran. -/
def remarks (op : Operation) (s t : Session (Logged C)) : List Remark :=
  let added := t.conn.log.drop s.conn.log.length
  match op with
  | .forgetResults | .renewStore | .setCacheDir _ => [.dropped]
  | .runDirect _ => added.map (.ofEntry .direct)
  | _ => added.map (.ofEntry (.sent s.cacheOn))

/-- What is told of a run. -/
def account : List Operation → Session (Logged C) × World E → List Remark
  | [], _ => []
  | op :: ops, s =>
    let t := ((perform op : Action (Session (Logged C)) E Answer).run s).2
    remarks op s.1 t.1 ++ account ops t

/-- The session whose connection is heard and not logged. -/
def unlogged (s : Session (Logged C)) : Session (Heard C) :=
  recast Logged.heard id s

omit [Connection C] [Backend C E] in
/-- The statements of the log tell of results, while these are kept. -/
theorem flatMap_notices_entries (keeping autoDelete : Bool) (entries : List LogEntry) :
    (entries.map (.ofEntry (.sent keeping))).flatMap (Remark.notices autoDelete) =
      if keeping then (entries.filterMap LogEntry.hearing?).flatMap (Hearing.notices autoDelete)
      else [] := by
  induction entries with
  | nil => cases keeping <;> rfl
  | cons entry entries ih =>
    rw [List.map_cons, List.flatMap_cons, ih]
    cases entry with
    | call e =>
      cases keeping <;> rfl
    | statement h =>
      cases keeping <;> rfl

omit [Connection C] [Backend C E] in
theorem flatMap_notices_direct (autoDelete : Bool) (entries : List LogEntry) :
    (entries.map (.ofEntry .direct)).flatMap (Remark.notices autoDelete) = [] := by
  refine List.flatMap_eq_nil_iff.2 fun r hr => ?_
  obtain ⟨entry, -, rfl⟩ := List.mem_map.1 hr
  cases entry <;> rfl

omit [Connection C] [Backend C E] in
/-- What remarks tell of results is what is heard of an operation. -/
theorem notices_unlogged (op : Operation) {s t : Session (Logged C)}
    (h : (logging C).rel s t) :
    notices op s.unlogged t.unlogged =
      (remarks op s t).flatMap (Remark.notices s.config.cacheAutoDelete) := by
  obtain ⟨added, hadded⟩ := h.2
  have hheard : t.unlogged.conn.hearings =
      s.unlogged.conn.hearings ++ added.filterMap LogEntry.hearing? := by
    show t.conn.log.filterMap _ = s.conn.log.filterMap _ ++ _
    rw [← hadded, List.filterMap_append]
  -- what a query sent is told of only while results are being kept
  have hsent : told s.unlogged
        (t.unlogged.conn.hearings.drop s.unlogged.conn.hearings.length) =
      ((t.conn.log.drop s.conn.log.length).map (.ofEntry (.sent s.cacheOn))).flatMap
        (Remark.notices s.config.cacheAutoDelete) := by
    rw [hheard, List.drop_left, ← hadded, List.drop_left, flatMap_notices_entries]
    rfl
  cases op with
  | forgetResults | renewStore | setCacheDir => rfl
  | runDirect => exact (flatMap_notices_direct ..).symm
  | _ => exact hsent

/-- An operation on the logged session is one on the heard session. -/
theorem perform_unlogged (op : Operation) (s : Session (Logged C)) (w : World E) :
    let t := ((perform op : Action (Session (Logged C)) E Answer).run (s, w)).2
    ((perform op : Action (Session (Heard C)) E Answer).run (s.unlogged, w)).2 =
      (t.1.unlogged, t.2) :=
  congrArg Prod.snd (run_recast Logged.watches [op] s w)

/-- What is heard of a run is told by its account. -/
theorem chronicle_unlogged (ops : List Operation) (s : Session (Logged C)) (w : World E) :
    chronicle ops (s.unlogged, w) =
      (account ops (s, w)).flatMap (Remark.notices s.config.cacheAutoDelete) := by
  induction ops generalizing s w with
  | nil => rfl
  | cons op ops ih =>
    obtain ⟨t, ht⟩ : ∃ t, ((perform op : Action (Session (Logged C)) E Answer).run (s, w)).2 = t :=
      ⟨_, rfl⟩
    have hlaw : (logging C).rel s t.1 := by
      rw [← ht]
      exact governs_perform_logging op (s, w)
    have hperform := perform_unlogged op s w
    dsimp only at hperform
    rw [chronicle, account, hperform, ht, List.flatMap_append, notices_unlogged op hlaw, ih,
      hlaw.1]

/-- **What is kept in memory** is what the account leaves. -/
theorem memory?_account {config : ConnectionConfig} (hdir : config.cacheDir = none)
    (hauto : config.cacheAutoDelete = true) (conn : C) (w : World E) {ops : List Operation}
    (hops : ∀ op ∈ ops, ∀ directory, op ≠ .setCacheDir directory) :
    (after ops (create config (Logged.untouched conn), w)).1.memory? =
      some (Notice.replay .empty
        ((account ops (create config (Logged.untouched conn), w)).flatMap
          (Remark.notices true))) := by
  have hstart : (create config (Logged.untouched conn)).unlogged.memory? = some .empty := by
    unfold memory?
    rw [show (create config (Logged.untouched conn)).unlogged.config.cacheDir = none from hdir]
    rfl
  have hkept := memory?_after hops (s := ((create config (Logged.untouched conn)).unlogged, w))
    hstart
  rw [chronicle_unlogged, show (create config (Logged.untouched conn)).config.cacheAutoDelete = true
    from hauto] at hkept
  -- the store is the same in both sessions
  have hrun := congrArg Prod.snd
    (run_recast Logged.watches ops (create config (Logged.untouched conn)) w)
  exact (congrArg (fun t => memory? t.1) hrun).symm.trans hkept

/-! ## Answers without the backend -/

/-- What is found is the answer. -/
theorem run_query_kept {sql : String} {binds : List Value} {s : Session C} (w : World E)
    {entries : OrderedMap Snapshot} {snapshot : Snapshot} (hs : s.memory? = some entries)
    (hblank : Text.isBlank sql = false) (hon : s.cacheOn = true)
    (hlooked : mayBeKept (s.finalText sql binds) = true)
    (hfound : entries.get? (s.finalText sql binds) = some snapshot) :
    (query sql binds : Action (Session C) E _).run (s, w) =
      (.ok (.rows (.ofSnapshot snapshot)), { s with store := some (.memory entries) }, w) := by
  have hlook : (s.cacheOn && mayBeKept (s.finalText sql binds)) = true := by
    rw [hon, hlooked]
    rfl
  rw [run_query, hblank, if_neg Bool.false_ne_true]
  unfold resolve
  rw [Action.run_bind_apply, Action.run_subject_apply]
  dsimp only
  rw [if_pos hlook, Action.run_bind_apply, Action.run_act_apply, run_kept? w hs, hfound]
  rfl

section

variable {config : ConnectionConfig} (hdir : config.cacheDir = none)
  (hauto : config.cacheAutoDelete = true) (conn : C) (w : World E) {ops : List Operation}
  (hops : ∀ op ∈ ops, ∀ directory, op ≠ .setCacheDir directory) {s : Session (Logged C)}
  {v : World E} (hs : after ops (create config (Logged.untouched conn), w) = (s, v))
  {sql : String} {binds : List Value}
include hdir hauto hops hs

/-- **An answer without the backend is that of the kept read.** -/
theorem keptRead_of_quiet {outcome : QueryOutcome} {t : Session (Logged C) × World E}
    (hr : (query sql binds : Action (Session (Logged C)) E _).run (s, v) = (.ok outcome, t))
    (hquiet : t.1.conn.log = s.conn.log) :
    ∃ c earlier handle? later, outcome = .rows c ∧
      KeptRead (account ops (create config (Logged.untouched conn), w)) (s.finalText sql binds)
        earlier handle? later ∧
      c.columns = (Cursor.ofAnswer handle?).columns ∧
      c.valueRows.1 = (Cursor.ofAnswer handle?).valueRows.1 := by
  have hkept := memory?_account hdir hauto conn w hops
  rw [hs] at hkept
  -- the query does the same in the session that is only heard, of which the answers are known
  have hheard : (query sql binds : Action (Session (Heard C)) E _).run (s.unlogged, v) =
      (.ok outcome, t.1.unlogged, t.2) := by
    have hquery : (Simulation.exactly unlogged).Follows
        (query sql binds : Action (Session (Logged C)) E _) (query sql binds) :=
      Shadow.follows_query (Shadow.faithful_watched Logged.watches)
        (fun _ => follows_dispatch Logged.watches)
    have hfollows := Simulation.follows_exactly_iff.1 hquery s v trivial
    rw [hr] at hfollows
    exact hfollows.2
  have hsame : t.1.unlogged.conn.hearings = s.unlogged.conn.hearings :=
    congrArg (List.filterMap LogEntry.hearing?) hquiet
  rcases query_answer (s := s.unlogged) hkept hheard with
    ⟨-, snapshot, hfound, rfl⟩ | ⟨handle?, hmore, -⟩
  · obtain ⟨earlier, handle?, later, hread, rfl⟩ := get?_replay_iff.1 hfound
    exact ⟨_, earlier, handle?, later, rfl, hread,
      congrArg Snapshot.columns (Snapshot.ofAnswer_eq handle?),
      congrArg Snapshot.rows (Snapshot.ofAnswer_eq handle?)⟩
  · -- a statement that is sent is heard
    rw [hmore] at hsame
    exact absurd (List.append_right_eq_self.1 hsame) (List.cons_ne_nil _ _)

/-- **Where there is a kept read, it is the answer.** -/
theorem answered_of_keptRead {earlier later : List Remark} {handle? : Option Handle}
    (hread : KeptRead (account ops (create config (Logged.untouched conn), w))
      (s.finalText sql binds) earlier handle? later)
    (hblank : Text.isBlank sql = false) (hon : s.cacheOn = true)
    (hlooked : mayBeKept (s.finalText sql binds) = true) :
    ∃ c t, (query sql binds : Action (Session (Logged C)) E _).run (s, v) = (.ok (.rows c), t) ∧
      t.1.conn = s.conn ∧ c.columns = (Cursor.ofAnswer handle?).columns ∧
      c.valueRows.1 = (Cursor.ofAnswer handle?).valueRows.1 := by
  have hkept := memory?_account hdir hauto conn w hops
  rw [hs] at hkept
  have hfound := get?_replay_iff.2 ⟨earlier, handle?, later, hread, rfl⟩
  exact ⟨_, _, run_query_kept v hkept hblank hon hlooked hfound, rfl,
    congrArg Snapshot.columns (Snapshot.ofAnswer_eq handle?),
    congrArg Snapshot.rows (Snapshot.ofAnswer_eq handle?)⟩

end

end Session

end SqlGateway
