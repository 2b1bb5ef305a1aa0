import SqlGateway.Proofs.Session.Control

/-!
# Rejected statements

What a statement does to the transaction of a session with a traced connection. If the backend
accepts it, nothing. If the backend rejects it, the open group has failed; and in debug mode all its
levels are closed at once, from inside the query.

An operation that asks several queries stops at the first one that is rejected. So does the
statement here: one rejection is enough, and `Transaction.reject` done twice is the same as once.

Main definitions:

* `Transaction.reject`: what a rejected statement makes of a transaction.
* `Session.Notices`: between two states, the transaction is what the rejections on the trace say.

Main results:

* `Session.unwindFrom_apply`: closing all levels.
* `Session.reject_debug`: what a rejected statement does in debug mode.
* `Session.notices_inquiry`: all operations that ask queries.
-/

namespace SqlGateway

/-! ## Transactions -/

namespace Transaction

/-- A statement was rejected. An open group has failed; in debug mode it ends with that, as a failed
group ends. -/
def reject (debug : Bool) (t : Transaction) : Transaction :=
  if t.isOpen then
    if debug then { t with depth := 0, failed := t.strict } else { t with failed := true }
  else t

theorem reject_closed (debug : Bool) {t : Transaction} (h : t.depth = 0) :
    t.reject debug = t := by
  have hclosed : t.isOpen = false := decide_eq_false (by omega)
  simp only [reject, hclosed, Bool.false_eq_true, ↓reduceIte]

theorem reject_quiet (t : Transaction) : t.reject false = t.markFailed := by
  unfold reject markFailed
  rfl

/-- In debug mode a rejected statement leaves no level open. -/
theorem depth_reject_debug (t : Transaction) : (t.reject true).depth = 0 := by
  unfold reject
  split
  · rfl
  · have hclosed : ¬ t.depth > 0 := of_decide_eq_false (Bool.eq_false_iff.2 ‹_›)
    omega

theorem reject_reject (debug : Bool) (t : Transaction) :
    (t.reject debug).reject debug = t.reject debug := by
  cases debug with
  | true => exact reject_closed true (depth_reject_debug t)
  | false =>
    unfold reject
    by_cases hopen : t.isOpen = true
    · have hopen' : ({ t with failed := true } : Transaction).isOpen = true := hopen
      simp only [hopen, hopen', Bool.false_eq_true, ↓reduceIte]
    · simp only [hopen, Bool.false_eq_true, ↓reduceIte]

theorem enabled_reject (debug : Bool) (t : Transaction) :
    (t.reject debug).enabled = t.enabled := by
  unfold reject
  split
  · cases debug <;> rfl
  · rfl

end Transaction

namespace Session

variable {C E : Type}

/-- Between the two states nothing was done to the settings, and to the transaction what the
rejections that came in between do to it. -/
def Notices (s t : Session (Traced C)) : Prop :=
  t.config = s.config ∧ ∃ added, t.conn.events = s.conn.events ++ added ∧
    t.transaction =
      if added.any BackendEvent.isRejection then s.transaction.reject s.config.debug
      else s.transaction

/-- Where no statement was sent nothing is noticed. -/
theorem Notices.of_quiet {s t : Session (Traced C)} {added : List BackendEvent}
    (hconfig : t.config = s.config) (hevents : t.conn.events = s.conn.events ++ added)
    (hquiet : ∀ e ∈ added, e.statement? = none) (htransaction : t.transaction = s.transaction) :
    Notices s t := by
  have hnone : added.any BackendEvent.isRejection = false := by
    refine List.any_eq_false.2 fun e he => ?_
    rw [BackendEvent.isRejection, hquiet e he]
    exact Bool.false_ne_true
  exact ⟨hconfig, added, hevents, by rw [hnone]; exact htransaction⟩

theorem Notices.trans {s t u : Session (Traced C)} (hst : Notices s t) (htu : Notices t u) :
    Notices s u := by
  obtain ⟨hconfig, es, hes, htransaction⟩ := hst
  obtain ⟨hconfig', fs, hfs, htransaction'⟩ := htu
  refine ⟨hconfig'.trans hconfig, es ++ fs, by rw [hfs, hes, List.append_assoc], ?_⟩
  rw [htransaction', htransaction, hconfig, List.any_append]
  cases es.any BackendEvent.isRejection <;> cases fs.any BackendEvent.isRejection
  · rfl
  · rfl
  · rfl
  · exact Transaction.reject_reject ..

theorem Notices.enabled {s t : Session (Traced C)} (h : Notices s t) :
    t.transaction.enabled = s.transaction.enabled := by
  obtain ⟨-, added, -, htransaction⟩ := h
  rw [htransaction]
  split
  · exact Transaction.enabled_reject ..
  · rfl

/-- The law of statements on sessions with transactions. -/
def noticing (C : Type) : Law (Session (Traced C)) where
  rel s t := s.transaction.enabled = true → Notices s t
  refl _ _ := .of_quiet rfl (List.append_nil _).symm nofun rfl
  trans hst htu henabled :=
    (hst henabled).trans (htu ((hst henabled).enabled.trans henabled))

/-- Upkeep sends no statement. -/
theorem noticing_of_upkeep {s t : Session (Traced C)}
    (h : (upkeep (Traced.appending fun e => e.isUpkeep = true)).rel s t) :
    (noticing C).rel s t := by
  obtain ⟨hconfig, htransaction, added, hevents, hkept⟩ := h
  exact fun _ => .of_quiet hconfig hevents
    (fun e he => BackendEvent.statement?_of_isUpkeep (hkept e he)) htransaction

variable [Connection C] [Backend C E]

/-! ## Statements -/

/-- Closing all levels is leaving them and one call for the outermost one. -/
theorem unwindFrom_apply (levels : Nat) {s : Session C} (w : World E)
    (henabled : s.transaction.enabled = true) (hdepth : s.transaction.depth = levels) :
    (unwindFrom levels (s, w) : Unit × Session C × World E).2 =
      if levels = 0 then (s, w) else
        ((call (closeGroup s.transaction.failed) : Action (Session C) E Unit).run
          ({ s with transaction := { s.transaction with
            depth := 0, failed := s.transaction.failed && s.transaction.strict } }, w)).2 := by
  induction levels generalizing s w with
  | zero => rfl
  | succ levels ih =>
    have hstep : (unwindFrom (levels + 1) (s, w) : Unit × Session C × World E) =
        let r := (completeGroup : Action (Session C) E _).run (s, w)
        (if r.2.1.transaction.depth = levels then unwindFrom levels else pure ()) r.2 :=
      rfl
    rw [hstep, if_neg (Nat.succ_ne_zero levels)]
    cases levels with
    | zero =>
      -- the last level is the one that the backend hears of
      rw [run_completeGroup_outer w henabled hdepth]
      dsimp only
      split <;> rfl
    | succ inner =>
      -- the outer levels are left without a word, and only change the count
      have hleave : s.transaction.leave.2 = { s.transaction with depth := inner + 1 } := by
        unfold Transaction.leave
        rw [hdepth]
      rw [run_completeGroup_inner w henabled (by omega), hleave]
      dsimp only
      rw [if_pos rfl]
      have hinner := ih (s := { s with transaction := { s.transaction with depth := inner + 1 } })
        w henabled rfl
      rw [hinner, if_neg (Nat.succ_ne_zero inner)]

/-- A rejected statement marks the transaction, and in debug mode every level is closed then. -/
theorem reject_apply (sql : String) (e : DbError) (s : Session C) (w : World E) :
    (reject sql e (s, w) : DbError × Session C × World E).2 =
      let marked := { s with transaction := s.transaction.markFailed }
      if s.config.debug then (unwindFrom s.transaction.depth (marked, w)).2 else (marked, w) := by
  unfold reject
  rw [Effect.bind_apply, Effect.modifySubject_apply, Effect.bind_apply, Effect.subject_apply]
  cases s.config.debug with
  | false => rfl
  | true =>
    show (unwindFrom s.transaction.markFailed.depth _).2 = _
    rw [Transaction.depth_markFailed]
    rfl

/-- In debug mode an open group is rolled back, since it has failed. The backend may refuse that. -/
theorem reject_debug (sql : String) (e : DbError) {s : Session C} (w : World E)
    (hdebug : s.config.debug = true) (henabled : s.transaction.enabled = true) :
    (reject sql e (s, w) : DbError × Session C × World E).2 =
      let ended := { s with transaction := s.transaction.reject true }
      if s.transaction.depth = 0 then (ended, w) else
        ((call Backend.rollback : Action (Session C) E Unit).run (ended, w)).2 := by
  have henabled' : s.transaction.markFailed.enabled = true := by
    rw [← Transaction.reject_quiet, Transaction.enabled_reject, henabled]
  rw [reject_apply]
  dsimp only
  rw [if_pos hdebug, unwindFrom_apply s.transaction.depth
    (s := { s with transaction := s.transaction.markFailed }) w henabled'
    (Transaction.depth_markFailed _)]
  by_cases hclosed : s.transaction.depth = 0
  · rw [if_pos hclosed, if_pos hclosed, Transaction.reject_closed true hclosed,
      ← Transaction.reject_quiet, Transaction.reject_closed false hclosed]
  · have hopen : s.transaction.isOpen = true := decide_eq_true (by omega)
    have hmarked : s.transaction.markFailed = { s.transaction with failed := true } := by
      rw [Transaction.markFailed, if_pos hopen]
    have hended : s.transaction.reject true =
        { s.transaction with depth := 0, failed := s.transaction.strict } := by
      rw [Transaction.reject, if_pos hopen, if_pos rfl]
    rw [if_neg hclosed, if_neg hclosed, hmarked, hended]
    rfl

theorem reject_spec (sql : String) (e : DbError) {s : Session (Traced C)} (w : World E)
    (henabled : s.transaction.enabled = true) :
    let t := (reject sql e (s, w) : DbError × Session (Traced C) × World E).2.1
    t.config = s.config ∧
      (∃ added, t.conn.events = s.conn.events ++ added ∧ ∀ e ∈ added, e.statement? = none) ∧
      t.transaction = s.transaction.reject s.config.debug := by
  cases hdebug : s.config.debug with
  | false =>
    dsimp only
    rw [reject_apply, hdebug]
    exact ⟨rfl, ⟨[], (List.append_nil _).symm, nofun⟩, (Transaction.reject_quiet _).symm⟩
  | true =>
    dsimp only
    rw [reject_debug sql e w hdebug henabled]
    dsimp only
    split
    · exact ⟨rfl, ⟨[], (List.append_nil _).symm, nofun⟩, rfl⟩
    · obtain ⟨-, conn, hcall⟩ := call_closeGroup (E := E) true
        { s with transaction := s.transaction.reject true } w
      have hcall : ((call Backend.rollback : Action (Session (Traced C)) E Unit).run
          ({ s with transaction := s.transaction.reject true }, w)).2.1 = _ := hcall
      rw [hcall]
      refine ⟨rfl, ⟨_, rfl, fun e he => ?_⟩, rfl⟩
      rw [List.mem_singleton.1 he, statement?_closing]

/-- A statement is noticed if the backend rejects it. -/
theorem governs_dispatch_noticing (sql : String) :
    (noticing C).Governs (dispatch sql : Action (Session (Traced C)) E _).run := by
  intro ⟨s, w⟩ henabled
  obtain ⟨⟨outcome, conn, w'⟩, hexecute⟩ :
      ∃ q : Except DbError (Option Handle) × C × World E,
        (Backend.execute sql : Action (Traced C) E _).run (s.conn, w) =
          (q.1, ⟨q.2.1, s.conn.events ++ [⟨.execute sql, q.1.isOk⟩]⟩, q.2.2) :=
    ⟨(Backend.execute sql).run (s.conn.conn, w), rfl⟩
  rw [run_dispatch, hexecute]
  cases outcome with
  | ok handle? => exact ⟨rfl, _, rfl, rfl⟩
  | error e =>
    -- what follows the rejection sends no statement, so there is no second one
    obtain ⟨hconfig, ⟨added, hevents, hquiet⟩, htransaction⟩ := reject_spec (E := E) sql e
      (s := { s with
        conn := ⟨conn, s.conn.events ++ [⟨.execute sql, false⟩]⟩, executed := s.executed + 1 })
      w' henabled
    refine ⟨hconfig, [⟨.execute sql, false⟩] ++ added, ?_, ?_⟩
    · rw [← List.append_assoc]
      exact hevents
    · exact htransaction

/-! ## Operations -/

theorem queried_noticing : Queried E (noticing C).contract where
  query _ _ := Contract.meets_contract_iff.2 fun s =>
    rel_query (fun _ _ h => noticing_of_upkeep (upkeep_of_unchanged h)) s.1 s.2
      (governs_send
        ((governs_connect (.of_upkept (Traced.upkept fun _ h => h))).mono fun _ _ =>
          noticing_of_upkeep)
        (fun _ _ _ => noticing_of_upkeep (upkeep_notes ..)) (governs_dispatch_noticing _))
  names _ _ := noticing_of_upkeep (upkeep_rel_of_eq rfl rfl rfl)

/-- Whatever asks queries does to the transaction what the rejections on the way do to it. -/
theorem notices_inquiry {op : Operation} (hinquiry : op.isInquiry = true) {s : Session (Traced C)}
    (w : World E) (henabled : s.transaction.enabled = true) :
    Notices s ((perform op : Action (Session (Traced C)) E Answer).run (s, w)).2.1 :=
  Contract.meets_contract_iff.1 (meets_inquiry hinquiry queried_noticing) (s, w) henabled

end Session

end SqlGateway
