import SqlGateway.Proofs.Session.Sending

/-!
# What one statement sends

A query sends its final text, once and nothing else; or it sends nothing, where a kept result
answers or where the connection cannot be opened. The same holds of a read of a builder, and of a
write that was planned as one statement.

Main definitions:

* `Session.Sends`: the statements that were sent between two states of a session.
* `Session.SentOnce`: what became of one statement.

Main results:

* `Session.sentOnce_query`: the statement of a query.
* `Database.sentOnce_read`, `Database.sentOnce_write`: those of reads and writes.
-/

namespace SqlGateway

variable {C E α β : Type}

namespace Session

/-- The session went on, and on the way sent these statements and no other. -/
def Sends (sqls : List String) (s t : Session (Traced C)) : Prop :=
  ∃ added, t.conn.events = s.conn.events ++ added ∧
    added.filterMap BackendEvent.statement? = sqls

theorem Sends.trans {sqls more : List String} {s t u : Session (Traced C)} (hst : Sends sqls s t)
    (htu : Sends more t u) : Sends (sqls ++ more) s u := by
  obtain ⟨added, hadded, rfl⟩ := hst
  obtain ⟨rest, hrest, rfl⟩ := htu
  exact ⟨added ++ rest, by rw [hrest, hadded, List.append_assoc], List.filterMap_append⟩

/-- Nothing is sent where no statement is allowed. -/
theorem sends_nil_of_sendingOnly {s t : Session (Traced C)}
    (h : (sendingOnly fun _ => False).rel s t) : Sends [] s t := by
  obtain ⟨-, added, hevents, hnone⟩ := h
  refine ⟨added, hevents, List.filterMap_eq_nil_iff.2 fun e he => ?_⟩
  exact Option.eq_none_iff_forall_ne_some.2 fun sql hsql => hnone e he sql hsql

/-- What does nothing but upkeep sends nothing. -/
theorem sends_nil_of_upkeep {s t : Session (Traced C)}
    (h : (upkeep (Traced.appending fun e => e.isUpkeep = true)).rel s t) : Sends [] s t :=
  sends_nil_of_sendingOnly (sendingOnly_of_upkeep h)

theorem sends_nil_of_unchanged {s t : Session (Traced C)} (h : (upkeep .unchanged).rel s t) :
    Sends [] s t :=
  sends_nil_of_upkeep (upkeep_of_unchanged h)

variable [Connection C] [Backend C E]

/-! ## One statement -/

/-- A statement that is run is sent, whatever follows if it is rejected. -/
theorem sends_dispatch (sql : String) (s : Session (Traced C)) (w : World E) :
    Sends [sql] s
      ((dispatch sql : Action (Session (Traced C)) E _).run (s, w)).2.1 := by
  let q := (Backend.execute sql : Action C E _).run (s.conn.conn, w)
  let t : Session (Traced C) :=
    { s with conn := ⟨q.2.1, s.conn.events ++ [⟨.execute sql, q.1.isOk⟩]⟩ }
  have hexecute : (onConn (Backend.execute sql) : Action (Session (Traced C)) E _).run (s, w) =
      (q.1, t, q.2.2) :=
    rfl
  have hsent : Sends [sql] s { t with executed := s.executed + 1 } :=
    ⟨[⟨.execute sql, q.1.isOk⟩], rfl, rfl⟩
  unfold dispatch
  rw [Action.run_bind_apply, Action.run_attempt_apply, hexecute]
  dsimp only
  rw [Action.run_bind_apply, Action.run_modifySubject_apply]
  -- the statement was sent in either case, and what a rejection does to a group sends no other
  cases q.1 with
  | ok handle? => exact hsent
  | error e =>
    have hreject : (sendingOnly fun _ => False).Governs
        (reject sql e : Effect (Session (Traced C)) E DbError) :=
      governs_reject (fun s => ⟨rfl, Law.refl _ _⟩) governs_completeGroup_sendingOnly
    exact hsent.trans (sends_nil_of_sendingOnly (hreject (_, q.2.2)))

/-- The connection could not be opened: nothing was sent, and the answer is the error of that. -/
def NotOpened (s : Session (Traced C)) (w : World E) (answer : Except DbError α)
    (t : Session (Traced C)) : Prop :=
  Sends [] s t ∧ s.isConnected = false ∧
    ∃ e, ((connect : Action (Session (Traced C)) E Unit).run (s, w)).1 = .error e ∧
      answer = .error e

/-- A statement is sent, once and nothing else, unless the connection cannot be opened. -/
theorem sent_or_notOpened_send (sql : String) (s : Session (Traced C)) (w : World E) :
    let sent := (send sql : Action (Session (Traced C)) E _).run (s, w)
    Sends [sql] s sent.2.1 ∨ NotOpened s w sent.1 sent.2.1 := by
  have hopen (t : Session (Traced C)) (w : World E) : Sends [sql] t
      ((record sql >>= fun _ => dispatch sql : Action (Session (Traced C)) E _).run
        (t, w)).2.1 :=
    Sends.trans (sends_nil_of_unchanged (governs_record upkeep_notes (t, w)))
      (sends_dispatch sql _ w)
  rw [send_eq, Action.run_bind_apply, Action.run_subject_apply]
  dsimp only
  by_cases hconnected : s.isConnected = true
  · rw [if_pos hconnected]
    exact .inl (hopen s w)
  · rw [if_neg hconnected, Action.run_bind_apply]
    unfold NotOpened
    have hconnect : Sends [] s
        ((connect : Action (Session (Traced C)) E Unit).run (s, w)).2.1 :=
      sends_nil_of_upkeep (governs_connect (.of_upkept (Traced.upkept fun _ h => h)) (s, w))
    generalize (connect : Action (Session (Traced C)) E Unit).run (s, w) = opened at hconnect ⊢
    obtain ⟨outcome, t, w'⟩ := opened
    cases outcome with
    | ok u => exact .inl (hconnect.trans (hopen t w'))
    | error e => exact .inr ⟨hconnect, Bool.eq_false_iff.2 hconnected, e, rfl, rfl⟩

/-- What follows a statement that was accepted sends nothing more. -/
theorem sent_or_notOpened_live (sql : String) (s : Session (Traced C)) (w : World E) :
    let live : Action (Session (Traced C)) E QueryOutcome := do
      let handle? ← send sql
      (settle sql handle?).act
    Sends [sql] s (live.run (s, w)).2.1 ∨
      NotOpened s w (live.run (s, w)).1 (live.run (s, w)).2.1 := by
  intro live
  have hsend := sent_or_notOpened_send sql s w
  unfold live
  rw [Action.run_bind_apply]
  generalize (send sql : Action (Session (Traced C)) E _).run (s, w) = sent at hsend ⊢
  obtain ⟨outcome, t, w'⟩ := sent
  dsimp only at hsend ⊢
  cases outcome with
  | ok handle? =>
    rcases hsend with hsend | ⟨-, -, e, -, he⟩
    · exact .inl (hsend.trans (sends_nil_of_unchanged (governs_settle (t, w'))))
    · cases he
  | error e =>
    exact hsend.imp_right fun ⟨hnone, hclosed, e, hopen, he⟩ =>
      ⟨hnone, hclosed, e, hopen, congrArg _ (Except.error.inj he)⟩

/-- The statement was sent, once and nothing else. Otherwise the connection could not be opened:
then nothing was sent, and the answer is an error. -/
def Tried (sql : String) (s : Session (Traced C)) (answer : Except DbError α)
    (t : Session (Traced C)) : Prop :=
  Sends [sql] s t ∨ Sends [] s t ∧ s.isConnected = false ∧ ∃ e, answer = .error e

theorem tried_live (sql : String) (s : Session (Traced C)) (w : World E) :
    let live : Action (Session (Traced C)) E QueryOutcome := do
      let handle? ← send sql
      (settle sql handle?).act
    Tried sql s (live.run (s, w)).1 (live.run (s, w)).2.1 :=
  (sent_or_notOpened_live sql s w).imp_right fun ⟨hnone, hclosed, e, _, he⟩ =>
    ⟨hnone, hclosed, e, he⟩

/-- Upkeep before a statement makes no difference to it. -/
theorem Tried.of_still {sql : String} {answer : Except DbError α} {s t u : Session (Traced C)}
    (h : Tried sql t answer u) (hst : (upkeep .unchanged).rel s t) : Tried sql s answer u := by
  have hconnected : t.isConnected = s.isConnected := congrArg Connection.isConnected hst.2.2
  rcases h with h | ⟨h, hclosed, he⟩
  · exact .inl ((sends_nil_of_unchanged hst).trans h)
  · exact .inr ⟨(sends_nil_of_unchanged hst).trans h, hconnected ▸ hclosed, he⟩

/-- What became of a statement: it was tried, or a kept result is the answer and nothing was
sent. -/
def SentOnce (sql : String) (s : Session (Traced C)) (w : World E) (answer : Except DbError α)
    (t : Session (Traced C)) : Prop :=
  Tried sql s answer t ∨ Sends [] s t ∧ (s.cacheOn && mayBeKept sql) = true ∧
    ∃ snapshot, ((kept? sql : Effect (Session (Traced C)) E _) (s, w)).1 = some snapshot ∧
      answer.isOk = true

/-- The final text of a query is what it sends. -/
theorem sentOnce_query {sql : String} (binds : List Value) (hblank : Text.isBlank sql = false)
    (s : Session (Traced C)) (w : World E) :
    SentOnce (s.finalText sql binds) s w
      ((query sql binds : Action (Session (Traced C)) E _).run (s, w)).1
      ((query sql binds : Action (Session (Traced C)) E _).run (s, w)).2.1 := by
  unfold query
  dsimp only
  rw [if_neg (Bool.eq_false_iff.1 hblank), Action.run_bind_apply, Action.run_subject_apply]
  dsimp only
  split
  -- the store is asked first, and only if it has no answer is the statement tried
  · rename_i hread
    have hkept : (upkeep .unchanged).rel s
        ((kept? (s.finalText sql binds) : Effect (Session (Traced C)) E _) (s, w)).2.1 :=
      governs_onStore (s, w)
    rw [Action.run_bind_apply, Action.run_act_apply]
    dsimp only
    generalize hanswer : (kept? (s.finalText sql binds) : Effect (Session (Traced C)) E _) (s, w) =
      answered at hkept ⊢
    obtain ⟨snapshot?, t, w'⟩ := answered
    cases snapshot? with
    | some snapshot =>
      exact .inr ⟨sends_nil_of_unchanged hkept, hread, snapshot, by rw [hanswer], rfl⟩
    | none => exact .inl ((tried_live _ t w').of_still hkept)
  · exact .inl (tried_live _ s w)

/-! ## Reads and writes -/

omit [Backend C E] in
/-- What is made of the answer does not matter. -/
theorem SentOnce.map {sql : String} {s t : Session (Traced C)} {w : World E}
    {answer : Except DbError α} (h : SentOnce sql s w answer t) (f : α → β) :
    SentOnce sql s w (answer.map f) t := by
  rcases h with (h | ⟨h, hclosed, e, rfl⟩) | ⟨h, hread, snapshot, hsnapshot, hok⟩
  · exact .inl (.inl h)
  · exact .inl (.inr ⟨h, hclosed, e, rfl⟩)
  · refine .inr ⟨h, hread, snapshot, hsnapshot, ?_⟩
    cases answer with
    | ok x => rfl
    | error e => cases hok

end Session

namespace Database

variable [Connection C] [Backend C E]

/-- The session after a read is that after its statement, and the builder is that of the read,
whether the statement is accepted or not. -/
theorem run_read (f : Style → Builder → Read) (s : Session C) (b : Builder) (w : World E) :
    let r := f ⟨s.dialect, s.rules⟩ b
    let q := (Session.read r.statement : Action (Session C) E Cursor).run (s, w)
    (read f : Action (Database C) E Cursor).run (⟨s, some b⟩, w) =
      (q.1, ⟨q.2.1, some r.after⟩, q.2.2) :=
  rfl

open Session (SentOnce)

/-- A read sends its statement, with the prefix in its place. -/
theorem sentOnce_read (f : Style → Builder → Read) (s : Session (Traced C)) (b : Builder)
    (w : World E) {sql : String} (hsql : (f ⟨s.dialect, s.rules⟩ b).statement = sql)
    (hblank : Text.isBlank sql = false) :
    let r := (read f : Action (Database (Traced C)) E Cursor).run (⟨s, some b⟩, w)
    SentOnce (PrefixSwap.apply s.config.tablePrefix s.config.swapPrefix sql) s w r.1
      r.2.1.session := by
  intro r
  have hquery := Session.sentOnce_query [] hblank s w
  have hread : (Session.read sql : Action (Session (Traced C)) E Cursor).run (s, w) = _ :=
    Action.run_bind_pure_apply (Session.query sql []) QueryOutcome.cursor (s, w)
  have hr : r = _ := run_read f s b w
  rw [Session.finalText_nil] at hquery
  rw [hr, hsql, hread]
  exact hquery.map _

/-- So does a write that was planned as one statement. -/
theorem sentOnce_write (f : Style → Builder → Plan) (s : Session (Traced C)) (b : Builder)
    (w : World E) {sql : String} {after : Builder}
    (hplan : f ⟨s.dialect, s.rules⟩ b = .sending [sql] after)
    (hblank : Text.isBlank sql = false) :
    let r := (write f : Action (Database (Traced C)) E Nat).run (⟨s, some b⟩, w)
    SentOnce (PrefixSwap.apply s.config.tablePrefix s.config.swapPrefix sql) s w r.1
      r.2.1.session := by
  intro r
  have hquery := Session.sentOnce_query [] hblank s w
  have hsend : (sendAll [sql] : Action (Session (Traced C)) E Nat).run (s, w) = _ :=
    Action.run_bind_apply (Session.query sql []) _ (s, w)
  have hr : r = _ := run_write f s b w
  rw [Session.finalText_nil] at hquery
  rw [hr, hplan]
  dsimp only [Plan.sending]
  rw [hsend]
  generalize (Session.query sql [] : Action (Session (Traced C)) E _).run (s, w) = q at hquery ⊢
  obtain ⟨outcome, t, w'⟩ := q
  cases outcome with
  | ok result => exact hquery.map fun _ => Connection.affectedRows t.conn + 0
  | error e => exact hquery.map fun _ => 0

end Database

end SqlGateway
