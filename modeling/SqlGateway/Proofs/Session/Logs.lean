import SqlGateway.Proofs.Session.Accounts
import SqlGateway.Proofs.Session.Holding
import SqlGateway.Proofs.Session.KeptReads

/-!
# What the log of a session says

The log of a session has the statements with their answers, and the opening and closing of the
connection among them. So it tells over which connection a statement was read: the one that is open
afterwards, until the log has another opening or closing. With a backend that gives up no connection
by itself these two are what the caller asked for.

Main definitions:

* `Session.traced`: the session with the calls of its log alone.

Main results:

* `Session.isConnected_after_iff`: a connection that is open stays open, and the same, exactly as
  long as nobody closes it.
* `Session.read_logged`: a read that is answered was the last thing that was logged.
-/

namespace SqlGateway

variable {C E α : Type} [Connection C] [Backend C E]

namespace Session

/-- The session whose calls are traced, without the answers. -/
def traced (s : Session (Logged C)) : Session (Traced C) :=
  recast Logged.traced id s

theorem after_traced (ops : List Operation) (s : Session (Logged C)) (w : World E) :
    after ops (s.traced, w) = ((after ops (s, w)).1.traced, (after ops (s, w)).2) :=
  congrArg Prod.snd (run_recast Logged.watches_traced ops s w)

/-! ## Connections -/

/-- A run adds to the log. -/
theorem exists_log_after (ops : List Operation) (s : Session (Logged C) × World E) :
    ∃ more, (after ops s).1.conn.log = s.1.conn.log ++ more := by
  obtain ⟨more, hmore⟩ := (rel_after (fun op _ => governs_perform_logging op) s).2
  exact ⟨more, hmore.symm⟩

section

variable (h : Steadfast C E)
include h

/-- A connection that could be opened is open, whether it is logged or not. -/
theorem isConnected_connect_logged {s t : Session (Logged C)} {w w' : World E}
    (hr : (connect : Action (Session (Logged C)) E Unit).run (s, w) = (.ok (), t, w')) :
    t.isConnected = true := by
  have hfollows : (Simulation.exactly traced).Follows
      (connect : Action (Session (Logged C)) E Unit) connect :=
    Shadow.follows_connect (Shadow.faithful_watched Logged.watches_traced)
  exact isConnected_connect h (hfollows.done trivial hr).2

/-- Unless it is closed, an open connection stays open, and is not opened another time. -/
theorem isConnected_after {s : Session (Logged C) × World E} (hopen : s.1.isConnected = true)
    {ops : List Operation} (hclose : .close ∉ ops) {more : List LogEntry}
    (hmore : (after ops s).1.conn.log = s.1.conn.log ++ more) :
    (after ops s).1.isConnected = true ∧ ∀ e ∈ more, e.event.isSwitch = false := by
  have hlaw := rel_after (fun op hop =>
    governs_perform_keepingOpen h fun heq => hclose (heq ▸ hop)) (s.1.traced, s.2)
  rw [after_traced] at hlaw
  obtain ⟨hconnected, added, hadded, hswitch⟩ := hlaw hopen
  have hlog : (after ops s).1.conn.log.map LogEntry.event =
      s.1.conn.log.map LogEntry.event ++ added := hadded
  rw [hmore, List.map_append] at hlog
  obtain rfl := List.append_cancel_left hlog
  exact ⟨hconnected, fun e he => hswitch _ (List.mem_map_of_mem he)⟩

/-- **A connection is the same until it is closed.** What was logged since it was open has an
opening or a closing exactly where the caller has closed it. -/
theorem isConnected_after_iff {s : Session (Logged C) × World E} (hopen : s.1.isConnected = true)
    {ops : List Operation} {more : List LogEntry}
    (hmore : (after ops s).1.conn.log = s.1.conn.log ++ more) :
    ((after ops s).1.isConnected = true ∧ ∀ e ∈ more, e.event.isSwitch = false) ↔
      .close ∉ ops := by
  refine ⟨fun ⟨_, hswitch⟩ hclose => ?_, fun hclose => isConnected_after h hopen hclose hmore⟩
  -- the first call that closes finds the connection open
  obtain ⟨first, rest, rfl, hfirst⟩ := List.eq_append_cons_of_mem hclose
  obtain ⟨sooner, hsooner⟩ := exists_log_after first s
  obtain ⟨hconnected, -⟩ := isConnected_after h hopen hfirst hsooner
  have hclosed := perform_close (E := E) (s := (after first s).1.traced) (after first s).2
    hconnected
  obtain ⟨later, hlater⟩ := exists_log_after rest (after [.close] (after first s))
  have hstep : (after [.close] (after first s)).1.conn.log.map LogEntry.event =
      (after first s).1.conn.log.map LogEntry.event ++ [⟨.close, true⟩] := by
    have htraced := after_traced [.close] (after first s).1 (after first s).2
    exact (congrArg (fun r => r.1.conn.events) htraced).symm.trans hclosed
  rw [after_append, show Operation.close :: rest = [.close] ++ rest from rfl, after_append,
    hlater] at hmore
  have hevents := congrArg (List.map LogEntry.event) hmore
  rw [List.map_append, hstep, hsooner, List.map_append, List.map_append, List.append_assoc,
    List.append_assoc] at hevents
  have hmem : ⟨.close, true⟩ ∈ more.map LogEntry.event := by
    rw [← List.append_cancel_left hevents]
    simp
  obtain ⟨e, he, hevent⟩ := List.mem_map.1 hmem
  have hkept := hswitch e he
  rw [hevent] at hkept
  cases hkept

end

/-! ## Statements -/

omit [Connection C] [Backend C E] in
/-- Nothing is kept of an answer while results are not being kept. -/
theorem settle_unkept {sql : String} {handle? : Option Handle} {s : Session C} (w : World E)
    (hoff : s.cacheOn = false) :
    (settle sql handle? : Effect (Session C) E QueryOutcome) (s, w) =
      (if Statement.isWrite sql then .written else .rows (.ofAnswer handle?), s, w) := by
  rw [settle_eq, Effect.bind_apply, Effect.subject_apply]
  simp only [hoff, Bool.false_and, Bool.false_eq_true, ↓reduceIte]
  split <;> rfl

/-- The statement was the last thing that was logged, and it was answered over a connection that is
open. -/
structure SentLast (E : Type) [Backend C E] (sql : String) (handle? : Option Handle)
    (s t : Session (Logged C)) : Prop where
  log : ∃ asked, t.conn.log = s.conn.log ++ asked ++ [.statement ⟨sql, .ok handle?⟩]
  connected : Steadfast C E → t.isConnected = true

theorem send_logged {sql : String} {s : Session (Logged C)} {w : World E} {handle? : Option Handle}
    {t : Session (Logged C) × World E}
    (hr : (send sql : Action (Session (Logged C)) E _).run (s, w) = (.ok handle?, t)) :
    SentLast E sql handle? s t.1 := by
  rw [send_eq, run_unless_connect_bind, Action.run_bind_apply] at hr
  rcases hconnect : (connect : Action (Session (Logged C)) E Unit).run (s, w) with ⟨e | u, v⟩
  · rw [hconnect] at hr
    cases hr
  · rw [hconnect] at hr
    dsimp only at hr
    obtain ⟨v', hrecord⟩ : ∃ v', (record sql : Action (Session (Logged C)) E Unit).run v =
      (.ok (), v') := ⟨_, rfl⟩
    rw [Action.run_bind_apply, hrecord] at hr
    -- noting the statement leaves the connection alone
    have hnoted : (upkeep .unchanged).rel v.1 v'.1 :=
      (governs_record fun _ _ _ => upkeep_notes ..).rel_of_eq hrecord
    have hlaw : (upkeep (Logged.growing C)).rel s v.1 :=
      (governs_connect (.of_upkept Logged.upkept_growing)).rel_of_eq hconnect
    obtain ⟨asked, hasked⟩ := hlaw.2.2
    have hexecute : (Backend.execute sql : Action (Logged C) E _).run (v'.1.conn, v'.2) = _ :=
      Logged.run_logging _ _ v'.1.conn v'.2
    dsimp only at hr
    rw [run_dispatch, hexecute, show v'.1.conn = v.1.conn from hnoted.2.2] at hr
    rcases hq : (Backend.execute sql : Action C E _).run (v.1.conn.conn, v'.2) with ⟨e | h?, c, w'⟩
    · rw [hq] at hr
      cases hr
    · rw [hq] at hr
      cases hr
      exact ⟨⟨asked, by rw [hasked]⟩, fun h =>
        (h.execute sql).rel_of_eq hq (isConnected_connect_logged h hconnect)⟩

/-- The cursor that an answer to a statement gives. A write has none, whatever is answered. -/
def cursorOf (sql : String) (handle? : Option Handle) : Cursor :=
  if Statement.isWrite sql then .empty else .ofAnswer handle?

/-- A session that keeps no results reads by a statement, which is logged last. -/
theorem read_logged {sql : String} {s : Session (Logged C)} {w : World E} {c : Cursor}
    {t : Session (Logged C) × World E} (hoff : s.cacheOn = false)
    (hr : (read sql : Action (Session (Logged C)) E _).run (s, w) = (.ok c, t)) :
    ∃ handle?, c = cursorOf (s.finalText sql []) handle? ∧
      SentLast E (s.finalText sql []) handle? s t.1 := by
  unfold read at hr
  rw [Action.run_bind_pure_apply, run_query] at hr
  split at hr
  · cases hr
  · unfold resolve askBackend at hr
    rw [Action.run_bind_apply, Action.run_subject_apply] at hr
    simp only [hoff, Bool.false_and, Bool.false_eq_true, ↓reduceIte] at hr
    rw [Action.run_bind_apply] at hr
    rcases hsend : (send (s.finalText sql []) : Action (Session (Logged C)) E _).run (s, w) with
      ⟨e | handle?, u, v⟩
    · rw [hsend] at hr
      cases hr
    · have hkeeping : u.cacheOn = false :=
        (governs_send_sparing.rel_of_eq hsend).1.cacheOn.trans hoff
      rw [hsend] at hr
      dsimp only at hr
      rw [Action.run_act_apply, settle_unkept v hkeeping] at hr
      obtain ⟨hcursor, rfl⟩ := Prod.mk.inj hr
      refine ⟨handle?, ?_, send_logged hsend⟩
      rw [← Except.ok.inj hcursor]
      unfold cursorOf
      split <;> rfl

end Session

end SqlGateway
