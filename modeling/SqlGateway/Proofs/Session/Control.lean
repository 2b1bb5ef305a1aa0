import SqlGateway.Proofs.Session.Operation

/-!
# Control calls

What the operations on transactions do to a session with a traced connection: the transaction that
they leave, and the control calls that they add to the trace. There is one statement for each
operation and each way it can go; only the outermost level of a group adds a control call, and it
adds one.

Main definitions:

* `Mark`: the beginning or the end of a transaction on the backend.
* `Session.Adds`: a session went on by these marks and ran no statement on the way.

Main results:

* `Session.startGroup_outer`, `Session.beginManual_outer`: opening the outermost level.
* `Session.completeGroup_outer`, `Session.endManual_outer`: closing it.
* `Session.run_startGroup_inner`, `Session.run_completeGroup_inner`: inner levels.
-/

namespace SqlGateway

/-! ## Marks -/

inductive Mark where
  | begun
  | ended
  deriving DecidableEq, Repr

/-- What a call means for the transaction on the backend. A start counts if the backend accepted it;
an end counts as it is called, since nobody can tell what a failed one left behind. -/
def BackendEvent.mark? (e : BackendEvent) : Option Mark :=
  match e.call with
  | .startTransaction => if e.accepted then some .begun else none
  | .commit | .rollback => some .ended
  | _ => none

/-- Upkeep marks nothing. -/
theorem BackendEvent.mark?_of_isUpkeep {e : BackendEvent} (h : e.isUpkeep = true) :
    e.mark? = none := by
  obtain ⟨call, accepted⟩ := e
  cases call <;> first | rfl | cases h

/-- Upkeep sends no statement. -/
theorem BackendEvent.statement?_of_isUpkeep {e : BackendEvent} (h : e.isUpkeep = true) :
    e.statement? = none := by
  unfold isUpkeep at h
  rw [Bool.and_eq_true, Option.isNone_iff_eq_none] at h
  exact h.1

/-- What the outermost level of a group sends when it closes, after a failure or without one. -/
def BackendCall.closing (failed : Bool) : BackendCall :=
  if failed then .rollback else .commit

theorem mark?_closing (failed accepted : Bool) :
    BackendEvent.mark? ⟨.closing failed, accepted⟩ = some .ended := by
  cases failed <;> rfl

theorem statement?_closing (failed accepted : Bool) :
    BackendEvent.statement? ⟨.closing failed, accepted⟩ = none := by
  cases failed <;> rfl

/-! ## Closing a level -/

namespace Transaction

theorem enabled_leave (t : Transaction) : t.leave.2.enabled = t.enabled := by
  unfold leave
  split
  · rfl
  · split <;> rfl
  · rfl

/-- Only closing the outermost level touches the failure flag. -/
theorem failed_leave {t : Transaction} (h : t.depth ≠ 1) : t.leave.2.failed = t.failed := by
  unfold leave
  split
  · rfl
  · exact absurd ‹_› h
  · rfl

/-- Closing the outermost level lowers the failure flag, except in strict mode. -/
theorem leave_outer {t : Transaction} (h : t.depth = 1) :
    t.leave = (if t.failed then .rolledBack else .committed,
      { t with depth := 0, failed := t.failed && t.strict }) := by
  unfold leave
  rw [h]
  cases t with
  | mk depth failed enabled strict => cases failed <;> rfl

end Transaction

namespace Session

/-! ## Sessions with a trace -/

variable {C E α : Type}

/-- The marks on the trace of a session. -/
def marks (s : Session (Traced C)) : List Mark :=
  s.conn.events.filterMap BackendEvent.mark?

/-- The session went on by these marks, and by no statement. -/
def Adds (ms : List Mark) (s t : Session (Traced C)) : Prop :=
  ∃ added, t.conn.events = s.conn.events ++ added ∧ added.filterMap BackendEvent.mark? = ms ∧
    ∀ e ∈ added, e.statement? = none

theorem Adds.marks_eq {ms : List Mark} {s t : Session (Traced C)} (h : Adds ms s t) :
    t.marks = s.marks ++ ms := by
  obtain ⟨added, hevents, rfl, -⟩ := h
  rw [marks, hevents, List.filterMap_append, marks]

/-! ## Calls on a traced connection -/

/-- A traced call adds its event and changes nothing of the session but the connection. -/
theorem call_noting (c : BackendCall) (a : Action C E α) (s : Session (Traced C)) (w : World E) :
    ∃ conn, ((call (Traced.noting c a)).run (s, w)).2.1 =
      { s with conn := ⟨conn, s.conn.events ++
        [⟨c, ((call (Traced.noting c a)).run (s, w)).1.isOk⟩]⟩ } := by
  refine ⟨(a.run (s.conn.conn, w)).2.1, ?_⟩
  have hrun : (call (Traced.noting c a)).run (s, w) =
      ((a.run (s.conn.conn, w)).1.mapError s.upgrade,
        { s with conn := ⟨(a.run (s.conn.conn, w)).2.1,
            s.conn.events ++ [⟨c, (a.run (s.conn.conn, w)).1.isOk⟩]⟩ },
        (a.run (s.conn.conn, w)).2.2) :=
    rfl
  rw [hrun]
  cases (a.run (s.conn.conn, w)).1 <;> rfl

/-- The same with an error of the session's own. -/
theorem callOr_noting (error : DbError) (c : BackendCall) (a : Action C E α)
    (s : Session (Traced C)) (w : World E) :
    ∃ conn, ((callOr error (Traced.noting c a)).run (s, w)).2.1 =
      { s with conn := ⟨conn, s.conn.events ++
        [⟨c, ((callOr error (Traced.noting c a)).run (s, w)).1.isOk⟩]⟩ } := by
  refine ⟨(a.run (s.conn.conn, w)).2.1, ?_⟩
  have hrun : (callOr error (Traced.noting c a)).run (s, w) =
      ((a.run (s.conn.conn, w)).1.mapError fun _ => s.upgrade error,
        { s with conn := ⟨(a.run (s.conn.conn, w)).2.1,
            s.conn.events ++ [⟨c, (a.run (s.conn.conn, w)).1.isOk⟩]⟩ },
        (a.run (s.conn.conn, w)).2.2) :=
    rfl
  rw [hrun]
  cases (a.run (s.conn.conn, w)).1 <;> rfl

/-- A traced call succeeds if the connection does. -/
theorem isOk_call_noting (c : BackendCall) (a : Action C E α) (s : Session (Traced C))
    (w : World E) :
    ((call (Traced.noting c a)).run (s, w)).1.isOk = (a.run (s.conn.conn, w)).1.isOk := by
  show ((a.run (s.conn.conn, w)).1.mapError s.upgrade).isOk = _
  cases (a.run (s.conn.conn, w)).1 <;> rfl

variable [Connection C] [Backend C E]

/-- The call that closes a group. -/
def closeGroup (failed : Bool) : Action C E Unit :=
  if failed then Backend.rollback else Backend.commit

theorem call_startTransaction (s : Session (Traced C)) (w : World E) :
    let r := (call Backend.startTransaction : Action (Session (Traced C)) E Unit).run (s, w)
    ∃ conn, r.2.1 = { s with conn := ⟨conn, s.conn.events ++ [⟨.startTransaction, r.1.isOk⟩]⟩ } :=
  call_noting .startTransaction Backend.startTransaction s w

theorem call_closeGroup (failed : Bool) (s : Session (Traced C)) (w : World E) :
    let r := (call (closeGroup failed) : Action (Session (Traced C)) E Unit).run (s, w)
    r.1.isOk = ((closeGroup failed : Action C E Unit).run (s.conn.conn, w)).1.isOk ∧
      ∃ conn, r.2.1 =
        { s with conn := ⟨conn, s.conn.events ++ [⟨.closing failed, r.1.isOk⟩]⟩ } := by
  cases failed with
  | true => exact ⟨isOk_call_noting .rollback _ s w, call_noting .rollback Backend.rollback s w⟩
  | false => exact ⟨isOk_call_noting .commit _ s w, call_noting .commit Backend.commit s w⟩

/-! ## Opening -/

/-- A start on the backend goes wrong in the upkeep before it, or is what the backend makes of
it. -/
theorem startPhysical_cases (s : Session (Traced C)) (w : World E) :
    ∃ t w', (upkeep (Traced.appending fun e => e.isUpkeep = true)).rel s t ∧
      ((∃ e, (startPhysical : Action (Session (Traced C)) E Unit).run (s, w) = (.error e, t, w')) ∨
        (startPhysical : Action (Session (Traced C)) E Unit).run (s, w) =
          (call Backend.startTransaction).run (t, w')) := by
  -- only a session that is not connected has something to do before the call
  by_cases hopen : s.isConnected = true
  · refine ⟨s, w, Law.refl _ s, .inr ?_⟩
    unfold startPhysical
    rw [Action.run_bind_apply]
    simp only [Action.run_subject_apply, hopen, ↓reduceIte]
  · have hrun : (startPhysical : Action (Session (Traced C)) E Unit).run (s, w) =
        (do connect; call Backend.startTransaction).run (s, w) := by
      unfold startPhysical
      rw [Action.run_bind_apply]
      simp only [Action.run_subject_apply, hopen]
      rfl
    obtain ⟨⟨r, t, w'⟩, hconnect⟩ :
        ∃ q, (connect : Action (Session (Traced C)) E Unit).run (s, w) = q := ⟨_, rfl⟩
    have hrel := governs_connect (.of_upkept (Traced.upkept fun _ h => h)) (s, w)
    rw [hconnect] at hrel
    refine ⟨t, w', hrel, ?_⟩
    rw [hrun, Action.run_bind_apply, hconnect]
    cases r with
    | ok u => exact .inr rfl
    | error e => exact .inl ⟨e, rfl⟩

/-- A start leaves settings and transaction alone, and adds a beginning if it succeeds. -/
theorem startPhysical_spec (s : Session (Traced C)) (w : World E) :
    let r := (startPhysical : Action (Session (Traced C)) E Unit).run (s, w)
    r.2.1.config = s.config ∧ r.2.1.transaction = s.transaction ∧
      Adds (if r.1.isOk then [.begun] else []) s r.2.1 := by
  intro r
  obtain ⟨t, w', ⟨hconfig, htransaction, kept, hevents, hkept⟩, ⟨e, hr⟩ | hr⟩ :=
    startPhysical_cases s w
  · have hr : r = _ := hr
    rw [hr]
    refine ⟨hconfig, htransaction, kept, hevents, ?_, fun e he => ?_⟩
    · exact List.filterMap_eq_nil_iff.2 fun e he => BackendEvent.mark?_of_isUpkeep (hkept e he)
    · exact BackendEvent.statement?_of_isUpkeep (hkept e he)
  · have hr : r = _ := hr
    obtain ⟨conn, ht⟩ := call_startTransaction t w'
    rw [← hr] at ht
    have hnone : kept.filterMap BackendEvent.mark? = [] :=
      List.filterMap_eq_nil_iff.2 fun e he => BackendEvent.mark?_of_isUpkeep (hkept e he)
    refine ⟨by rw [ht, ← hconfig], by rw [ht, ← htransaction],
      kept ++ [⟨.startTransaction, r.1.isOk⟩], ?_, ?_, fun e he => ?_⟩
    · rw [ht, ← List.append_assoc, ← hevents]
    · rw [List.filterMap_append, hnone]
      cases r.1.isOk <;> rfl
    · rcases List.mem_append.1 he with he | he
      · exact BackendEvent.statement?_of_isUpkeep (hkept e he)
      · rw [List.mem_singleton.1 he]
        rfl

theorem run_startGroup_disabled (test : Bool) {s : Session (Traced C)} (w : World E)
    (h : s.transaction.enabled = false) :
    (startGroup test : Action (Session (Traced C)) E Unit).run (s, w) = (.ok (), s, w) := by
  unfold startGroup
  rw [Action.run_bind_apply]
  simp only [Action.run_subject_apply, h]
  rfl

/-- An inner level is opened without the backend. -/
theorem run_startGroup_inner (test : Bool) {s : Session (Traced C)} (w : World E)
    (henabled : s.transaction.enabled = true) (hdepth : 0 < s.transaction.depth) :
    (startGroup test : Action (Session (Traced C)) E Unit).run (s, w) =
      (.ok (), { s with transaction := s.transaction.enterInner }, w) := by
  have hopen : s.transaction.isOpen = true := decide_eq_true hdepth
  unfold startGroup
  rw [Action.run_bind_apply]
  simp only [Action.run_subject_apply, henabled, hopen, ↓reduceIte]
  rfl

/-- The outermost level is entered before the backend starts, and left again if it does not. -/
theorem run_startGroup_outer (test : Bool) {s : Session (Traced C)} (w : World E)
    (henabled : s.transaction.enabled = true) (hdepth : s.transaction.depth = 0) :
    (startGroup test : Action (Session (Traced C)) E Unit).run (s, w) =
      match (startPhysical : Action (Session (Traced C)) E Unit).run
        ({ s with transaction := s.transaction.enterOuter test }, w) with
      | (.ok _, t, w') => (.ok (), t, w')
      | (.error e, t, w') =>
        (.error e, { t with transaction := { t.transaction with depth := 0 } }, w') := by
  have hopen : s.transaction.isOpen = false := decide_eq_false (by omega)
  let entered : Session (Traced C) := { s with transaction := s.transaction.enterOuter test }
  unfold startGroup
  rw [Action.run_bind_apply]
  simp only [Action.run_subject_apply, henabled, hopen, ↓reduceIte, Bool.false_eq_true]
  rw [Action.run_bind_apply]
  simp only [transactionStep, Action.run_modifySubject_apply]
  rw [Action.run_bind_apply, Action.run_attempt_apply]
  rcases ExceptT.run startPhysical (entered, w) with ⟨_ | _, _⟩ <;> rfl

/-- The outermost level starts a transaction. It is closed again if that fails, but what was
remembered of failures is gone by then. -/
theorem startGroup_outer (test : Bool) {s : Session (Traced C)} (w : World E)
    (henabled : s.transaction.enabled = true) (hdepth : s.transaction.depth = 0) :
    let r := (startGroup test : Action (Session (Traced C)) E Unit).run (s, w)
    r.2.1.config = s.config ∧
      r.2.1.transaction =
        { s.transaction.enterOuter test with depth := if r.1.isOk then 1 else 0 } ∧
      Adds (if r.1.isOk then [.begun] else []) s r.2.1 := by
  intro r
  have hr : r = _ := run_startGroup_outer test w henabled hdepth
  have hspec := startPhysical_spec { s with transaction := s.transaction.enterOuter test } w
  rw [hr]
  generalize (startPhysical : Action (Session (Traced C)) E Unit).run _ = q at hspec
  obtain ⟨outcome, t, w'⟩ := q
  obtain ⟨hconfig, htransaction, hadds⟩ := hspec
  cases outcome with
  | ok u => exact ⟨hconfig, htransaction, hadds⟩
  | error e =>
    refine ⟨hconfig, ?_, hadds⟩
    show ({ t.transaction with depth := 0 } : Transaction) = _
    rw [htransaction]
    rfl

/-- A manual transaction is not begun over an open one. -/
theorem run_beginManual_idle (test : Bool) {s : Session (Traced C)} (w : World E)
    (h : s.transaction.enabled = false ∨ 0 < s.transaction.depth) :
    (beginManual test : Action (Session (Traced C)) E Unit).run (s, w) = (.ok (), s, w) := by
  have hidle : (s.transaction.enabled && !s.transaction.isOpen) = false := by
    rcases h with h | h
    · rw [h, Bool.false_and]
    · have hopen : s.transaction.isOpen = true := decide_eq_true h
      rw [hopen, Bool.not_true, Bool.and_false]
  unfold beginManual
  rw [Action.run_bind_apply]
  simp only [Action.run_subject_apply, hidle]
  rfl

/-- The flag is set before the backend starts, and stays set if it does not. -/
theorem run_beginManual_outer (test : Bool) {s : Session (Traced C)} (w : World E)
    (henabled : s.transaction.enabled = true) (hdepth : s.transaction.depth = 0) :
    (beginManual test : Action (Session (Traced C)) E Unit).run (s, w) =
      match (startPhysical : Action (Session (Traced C)) E Unit).run
        ({ s with transaction := { s.transaction with failed := test } }, w) with
      | (.ok _, t, w') =>
        (.ok (), { t with transaction := { t.transaction with depth := 1 } }, w')
      | (.error e, t, w') => (.error e, t, w') := by
  have hopen : s.transaction.isOpen = false := decide_eq_false (by omega)
  obtain ⟨q, hq⟩ : ∃ q, (startPhysical : Action (Session (Traced C)) E Unit).run
    ({ s with transaction := { s.transaction with failed := test } }, w) = q := ⟨_, rfl⟩
  rw [hq]
  unfold beginManual
  rw [Action.run_bind_apply]
  simp only [Action.run_subject_apply, henabled, hopen, Bool.not_false, Bool.and_self, ↓reduceIte]
  rw [Action.run_bind_apply]
  simp only [transactionStep, Action.run_modifySubject_apply]
  rw [Action.run_bind_apply, hq]
  rcases q with ⟨_ | _, _⟩ <;> rfl

/-- A manual transaction opens the outermost level once the backend has started. -/
theorem beginManual_outer (test : Bool) {s : Session (Traced C)} (w : World E)
    (henabled : s.transaction.enabled = true) (hdepth : s.transaction.depth = 0) :
    let r := (beginManual test : Action (Session (Traced C)) E Unit).run (s, w)
    r.2.1.config = s.config ∧
      r.2.1.transaction =
        { s.transaction with failed := test, depth := if r.1.isOk then 1 else 0 } ∧
      Adds (if r.1.isOk then [.begun] else []) s r.2.1 := by
  intro r
  have hr : r = _ := run_beginManual_outer test w henabled hdepth
  have hspec := startPhysical_spec { s with transaction := { s.transaction with failed := test } } w
  rw [hr]
  generalize (startPhysical : Action (Session (Traced C)) E Unit).run _ = q at hspec
  obtain ⟨outcome, t, w'⟩ := q
  obtain ⟨hconfig, htransaction, hadds⟩ := hspec
  cases outcome with
  | ok u =>
    refine ⟨hconfig, ?_, hadds⟩
    show ({ t.transaction with depth := 1 } : Transaction) = _
    rw [htransaction]
    rfl
  | error e =>
    refine ⟨hconfig, ?_, hadds⟩
    show t.transaction = { s.transaction with failed := test, depth := 0 }
    rw [htransaction, ← hdepth]

/-! ## Closing -/

theorem run_completeGroup_disabled {s : Session C} (w : World E)
    (h : s.transaction.enabled = false) :
    (completeGroup : Action (Session C) E _).run (s, w) = (.ok .disabled, s, w) := by
  unfold completeGroup
  rw [Action.run_bind_apply]
  simp only [Action.run_subject_apply, h]
  rfl

/-- Where no level is open, or an inner one, closing is a matter of counting. -/
theorem run_completeGroup_inner {s : Session C} (w : World E)
    (henabled : s.transaction.enabled = true) (hdepth : s.transaction.depth ≠ 1) :
    (completeGroup : Action (Session C) E _).run (s, w) =
      (.ok s.transaction.leave.1, { s with transaction := s.transaction.leave.2 }, w) := by
  have hleave : s.transaction.leave.1 = .inactive ∨ s.transaction.leave.1 = .nested := by
    unfold Transaction.leave
    split
    · exact .inl rfl
    · exact absurd ‹_› hdepth
    · exact .inr rfl
  unfold completeGroup
  rw [Action.run_bind_apply]
  simp only [Action.run_subject_apply, henabled, Bool.not_true, Bool.false_eq_true, ↓reduceIte]
  rw [Action.run_bind_apply]
  simp only [transactionStep, Action.run_modifySubject_apply]
  rcases hleave with h | h <;> rw [h] <;> rfl

/-- The outermost level is left before the backend is called, so that its answer cannot keep the
level open. -/
theorem run_completeGroup_outer {s : Session C} (w : World E)
    (henabled : s.transaction.enabled = true) (hdepth : s.transaction.depth = 1) :
    (completeGroup : Action (Session C) E _).run (s, w) =
      let q := (call (closeGroup s.transaction.failed) : Action (Session C) E Unit).run
        ({ s with transaction := { s.transaction with
          depth := 0, failed := s.transaction.failed && s.transaction.strict } }, w)
      (q.1.map fun _ => if s.transaction.failed then .rolledBack else .committed, q.2) := by
  have hleave := Transaction.leave_outer hdepth
  obtain ⟨left, hleft⟩ : ∃ left : Session C, left = { s with transaction :=
      { s.transaction with depth := 0, failed := s.transaction.failed && s.transaction.strict } } :=
    ⟨_, rfl⟩
  rw [← hleft]
  unfold completeGroup
  rw [Action.run_bind_apply]
  simp only [Action.run_subject_apply, henabled, Bool.not_true, Bool.false_eq_true, ↓reduceIte]
  rw [Action.run_bind_apply]
  simp only [transactionStep, Action.run_modifySubject_apply, hleave, ← hleft]
  cases s.transaction.failed <;> exact Action.run_bind_pure_apply _ _ _

/-- The outermost level calls the backend once, with what its failure flag asks for. The level is
closed whatever the backend answers. -/
theorem completeGroup_outer {s : Session (Traced C)} (w : World E)
    (henabled : s.transaction.enabled = true) (hdepth : s.transaction.depth = 1) :
    let r := (completeGroup : Action (Session (Traced C)) E _).run (s, w)
    r.2.1.config = s.config ∧
      r.2.1.transaction = { s.transaction with
        depth := 0, failed := s.transaction.failed && s.transaction.strict } ∧
      r.2.1.conn.events = s.conn.events ++ [⟨.closing s.transaction.failed, r.1.isOk⟩] ∧
      r.1.isOk =
        ((closeGroup s.transaction.failed : Action C E Unit).run (s.conn.conn, w)).1.isOk ∧
      ∀ outcome, r.1 = .ok outcome →
        outcome = if s.transaction.failed then .rolledBack else .committed := by
  intro r
  have hr : r = _ := run_completeGroup_outer w henabled hdepth
  obtain ⟨hisOk, conn, hcall⟩ := call_closeGroup (E := E) s.transaction.failed
    { s with transaction := { s.transaction with
      depth := 0, failed := s.transaction.failed && s.transaction.strict } } w
  rw [hr]
  generalize (call (closeGroup s.transaction.failed) : Action (Session (Traced C)) E Unit).run _ = q
    at hisOk hcall
  obtain ⟨outcome, t, w'⟩ := q
  have ht : t = _ := hcall
  rw [ht]
  cases outcome with
  | ok u => exact ⟨rfl, rfl, rfl, hisOk, fun _ h => (Except.ok.inj h).symm⟩
  | error e => exact ⟨rfl, rfl, rfl, hisOk, fun _ h => nomatch h⟩

omit [Connection C] [Backend C E] in
/-- Ending a manual transaction is for the outermost level. -/
theorem run_endManual_idle (finish : Action (Traced C) E Unit) {s : Session (Traced C)}
    (w : World E)
    (h : s.transaction.enabled = false ∨ s.transaction.depth ≠ 1) :
    (endManual finish).run (s, w) = (.ok (), s, w) := by
  have hidle : (s.transaction.enabled && decide (s.transaction.depth = 1)) = false := by
    rcases h with h | h
    · rw [h, Bool.false_and]
    · rw [decide_eq_false h, Bool.and_false]
  unfold endManual
  rw [Action.run_bind_apply]
  simp only [Action.run_subject_apply, hidle]
  rfl

/-- The outermost level is closed with the call asked for, whatever the backend answers. -/
theorem endManual_outer (failed : Bool) {s : Session (Traced C)} (w : World E)
    (henabled : s.transaction.enabled = true) (hdepth : s.transaction.depth = 1) :
    let r := (endManual (closeGroup failed) : Action (Session (Traced C)) E Unit).run (s, w)
    r.2.1.config = s.config ∧ r.2.1.transaction = { s.transaction with depth := 0 } ∧
      r.2.1.conn.events = s.conn.events ++ [⟨.closing failed, r.1.isOk⟩] := by
  intro r
  let left : Session (Traced C) := { s with transaction := { s.transaction with depth := 0 } }
  have hr : r = (call (closeGroup failed) : Action (Session (Traced C)) E Unit).run (left, w) := by
    show (endManual (closeGroup failed) : Action (Session (Traced C)) E Unit).run (s, w) = _
    unfold endManual
    rw [Action.run_bind_apply]
    simp only [Action.run_subject_apply, henabled, hdepth]
    rfl
  obtain ⟨-, conn, hcall⟩ := call_closeGroup failed left w
  rw [← hr] at hcall
  rw [hcall]
  exact ⟨rfl, rfl, rfl⟩

end Session

end SqlGateway
