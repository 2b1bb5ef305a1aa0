import SqlGateway.Backend.Scripted
import SqlGateway.Proofs.Session.Holding

/-!
# Transaction calls that fail

A call that opens a transaction fails when the connection cannot be opened or the backend does not
begin, and a call that closes one fails when the backend does not end it. Only the outermost level
can fail, since the backend hears of no other.

What a failed call leaves behind depends on which of the two it was. A transaction that was not
begun leaves no level open. A level that is closed stays closed whatever the backend answers,
because nobody can tell what has become of the transaction; so a failed commit cannot be rolled
back.

Main definitions:

* `Session.Unopened`: what a call leaves that could not begin.
* `Session.ClosedAnyway`: what a call leaves that could not end.

Main results:

* `Session.unopened_of_error`, `Session.closedAnyway_of_error`: each kind of call.
* `Session.failed_control`: both, and what is left to do after a failed end.
-/

namespace SqlGateway.Session

variable {C E : Type}

/-! ## Kinds of calls -/

namespace Operation

/-- The call closes a level. -/
def isClosing : Operation → Bool
  | completeGroup | commitManual | rollbackManual => true
  | _ => false

/-- Closing the outermost level rolls it back. -/
def rollsBack (t : Transaction) : Operation → Bool
  | completeGroup => t.failed
  | commitManual => false
  | _ => true

/-- The failure flag after the outermost level was closed. A managed group lowers it, except in
strict mode. -/
def leavesFailed (t : Transaction) : Operation → Bool
  | completeGroup => t.failed && t.strict
  | _ => t.failed

end Operation

/-- What a call that could not begin leaves: no level is open, and the backend has begun nothing.
The failure flag may be the one that the group was to have. Where that is the flag from before,
nothing at all has changed of the transaction; and outside of strict mode the flag does not matter
to any later group. -/
structure Unopened (op : Operation) (s t : Session (Traced C)) : Prop where
  outermost : s.transaction.depth = 0
  depth : t.transaction.depth = 0
  enabled : t.transaction.enabled = s.transaction.enabled
  strict : t.transaction.strict = s.transaction.strict
  adds : Adds [] s t
  unchanged : op.opensFailed s.transaction = s.transaction.failed → t.transaction = s.transaction
  later : s.transaction.strict = false ∨ op.opensFailed s.transaction = s.transaction.failed →
    ∀ later : Operation, later.opensFailed t.transaction = later.opensFailed s.transaction

/-- What a call that could not end leaves: the level is closed, as if the backend had done what it
was asked to. It was asked once. -/
structure ClosedAnyway (op : Operation) (s t : Session (Traced C)) : Prop where
  outermost : s.transaction.depth = 1
  transaction : t.transaction =
    { s.transaction with depth := 0, failed := op.leavesFailed s.transaction }
  events : t.conn.events = s.conn.events ++ [⟨.closing (op.rollsBack s.transaction), false⟩]

/-- Outside of strict mode the flag of a group does not depend on what was remembered before. -/
theorem Operation.opensFailed_lenient (op : Operation) {t u : Transaction}
    (ht : t.strict = false) (hu : u.strict = false) : op.opensFailed t = op.opensFailed u := by
  cases op with
  | startGroup test =>
    show (test || (t.strict && t.failed)) = (test || (u.strict && u.failed))
    rw [ht, hu, Bool.false_and, Bool.false_and]
  | _ => rfl

/-- The flag that the group was to have is all that can have changed of the transaction. -/
theorem Unopened.of_transaction {op : Operation} {s t : Session (Traced C)}
    (hdepth : s.transaction.depth = 0)
    (htransaction : t.transaction =
      { s.transaction with failed := op.opensFailed s.transaction, depth := 0 })
    (hadds : Adds [] s t) : Unopened op s t := by
  have hunchanged (h : op.opensFailed s.transaction = s.transaction.failed) :
      t.transaction = s.transaction := by
    rw [htransaction, h, ← hdepth]
  refine ⟨hdepth, by rw [htransaction], by rw [htransaction], by rw [htransaction], hadds,
    hunchanged, ?_⟩
  rintro (hlenient | h) later
  · exact later.opensFailed_lenient (by rw [htransaction]; exact hlenient) hlenient
  · rw [hunchanged h]

variable [Connection C] [Backend C E]

omit [Connection C] [Backend C E] in
/-- An operation fails as what it does. -/
theorem perform_error {α : Type} {a : Action (Session (Traced C)) E α} {f : α → Answer}
    {s : Session (Traced C) × World E} {e : DbError}
    (h : ((do return f (← a) : Action (Session (Traced C)) E Answer).run s).1 = .error e) :
    (a.run s).1 = .error e := by
  rw [Action.run_bind_apply] at h
  cases hr : (a.run s).1 with
  | ok x => rw [hr] at h; cases h
  | error e' =>
    rw [hr] at h
    exact congrArg Except.error (Except.error.inj h)

/-! ## Calls that cannot begin -/

theorem unopened_of_error {op : Operation} (hop : op.isOpening = true) {s : Session (Traced C)}
    {w : World E} {e : DbError}
    (herror : ((perform op : Action (Session (Traced C)) E Answer).run (s, w)).1 = .error e) :
    Unopened op s ((perform op : Action (Session (Traced C)) E Answer).run (s, w)).2.1 := by
  cases op with
  | startGroup test =>
    have herror := perform_error (f := fun _ => .done) herror
    rw [perform, state_answer (startGroup test) (fun _ => .done)]
    -- neither a session without transactions nor an inner level asks the backend
    by_cases henabled : s.transaction.enabled = true
    · by_cases hdepth : s.transaction.depth = 0
      · obtain ⟨-, htransaction, hadds⟩ := startGroup_outer (E := E) test w henabled hdepth
        rw [herror] at htransaction hadds
        exact .of_transaction hdepth htransaction hadds
      · rw [run_startGroup_inner test w henabled (by omega)] at herror
        cases herror
    · rw [run_startGroup_disabled test w (Bool.eq_false_iff.2 henabled)] at herror
      cases herror
  | beginManual test =>
    have herror := perform_error (f := fun _ => .done) herror
    rw [perform, state_answer (beginManual test) (fun _ => .done)]
    by_cases hidle : s.transaction.enabled = false ∨ 0 < s.transaction.depth
    · rw [run_beginManual_idle test w hidle] at herror
      cases herror
    · obtain ⟨henabled, hdepth⟩ := not_or.1 hidle
      obtain ⟨-, htransaction, hadds⟩ :=
        beginManual_outer (E := E) test w (Bool.not_eq_false _ ▸ henabled) (by omega)
      rw [herror] at htransaction hadds
      exact .of_transaction (by omega) htransaction hadds
  | _ => cases hop

/-! ## Calls that cannot end -/

theorem closedAnyway_of_endManual {op : Operation} (failed : Bool) {s : Session (Traced C)}
    {w : World E} {e : DbError} (hback : op.rollsBack s.transaction = failed)
    (hflag : op.leavesFailed s.transaction = s.transaction.failed)
    (herror : ((endManual (closeGroup failed) : Action (Session (Traced C)) E Unit).run
      (s, w)).1 = .error e) :
    ClosedAnyway op s ((endManual (closeGroup failed) : Action (Session (Traced C)) E Unit).run
      (s, w)).2.1 := by
  -- only the outermost level asks the backend, so nothing else can fail
  by_cases hidle : s.transaction.enabled = false ∨ s.transaction.depth ≠ 1
  · rw [run_endManual_idle _ w hidle] at herror
    cases herror
  · obtain ⟨henabled, hdepth⟩ := not_or.1 hidle
    have hdepth := not_not.1 hdepth
    obtain ⟨-, htransaction, hevents⟩ :=
      endManual_outer (E := E) failed w (Bool.not_eq_false _ ▸ henabled) hdepth
    rw [herror] at hevents
    exact ⟨hdepth, by rw [htransaction, hflag], by rw [hback]; exact hevents⟩

theorem closedAnyway_of_error {op : Operation} (hop : op.isClosing = true)
    {s : Session (Traced C)} {w : World E} {e : DbError}
    (herror : ((perform op : Action (Session (Traced C)) E Answer).run (s, w)).1 = .error e) :
    ClosedAnyway op s ((perform op : Action (Session (Traced C)) E Answer).run (s, w)).2.1 := by
  cases op with
  | completeGroup =>
    have herror := perform_error herror
    rw [perform, state_answer completeGroup .transaction]
    by_cases henabled : s.transaction.enabled = true
    · by_cases hdepth : s.transaction.depth = 1
      · obtain ⟨-, htransaction, hevents, -⟩ := completeGroup_outer (E := E) w henabled hdepth
        rw [herror] at hevents
        exact ⟨hdepth, htransaction, hevents⟩
      · rw [run_completeGroup_inner w henabled hdepth] at herror
        cases herror
    · rw [run_completeGroup_disabled w (Bool.eq_false_iff.2 henabled)] at herror
      cases herror
  | commitManual =>
    have herror := perform_error (f := fun _ => .done) herror
    rw [perform, state_answer commitManual (fun _ => .done)]
    exact closedAnyway_of_endManual false rfl rfl herror
  | rollbackManual =>
    have herror := perform_error (f := fun _ => .done) herror
    rw [perform, state_answer rollbackManual (fun _ => .done)]
    exact closedAnyway_of_endManual true rfl rfl herror
  | _ => cases hop

/-- Where no level is open there is nothing to close. -/
theorem closing_idle {op : Operation} (hop : op.isClosing = true) {s : Session (Traced C)}
    (w : World E) (hdepth : s.transaction.depth = 0) :
    ∃ answer, (perform op : Action (Session (Traced C)) E Answer).run (s, w) =
      (.ok answer, s, w) := by
  have hnone : s.transaction.depth ≠ 1 := by omega
  cases op with
  | completeGroup =>
    rw [perform, Action.run_bind_apply]
    by_cases henabled : s.transaction.enabled = true
    · have hleave : s.transaction.leave = (.inactive, s.transaction) := by
        unfold Transaction.leave
        rw [hdepth]
      rw [run_completeGroup_inner w henabled hnone, hleave]
      exact ⟨_, rfl⟩
    · rw [run_completeGroup_disabled w (Bool.eq_false_iff.2 henabled)]
      exact ⟨_, rfl⟩
  | commitManual =>
    rw [perform, Action.run_bind_apply, commitManual, run_endManual_idle _ w (.inr hnone)]
    exact ⟨_, rfl⟩
  | rollbackManual =>
    rw [perform, Action.run_bind_apply, rollbackManual, run_endManual_idle _ w (.inr hnone)]
    exact ⟨_, rfl⟩
  | _ => cases hop

/-- So calls that close levels change nothing then, however many there are. -/
theorem run_closing_idle {ops : List Operation} (hops : ∀ op ∈ ops, op.isClosing = true)
    {s : Session (Traced C)} (w : World E) (hdepth : s.transaction.depth = 0) :
    (∀ answer ∈ (run ops (s, w)).1, answer.isOk = true) ∧ after ops (s, w) = (s, w) := by
  induction ops with
  | nil => exact ⟨nofun, rfl⟩
  | cons op ops ih =>
    obtain ⟨answer, hop⟩ := closing_idle (hops op (List.mem_cons_self ..)) w hdepth
    obtain ⟨hanswers, hafter⟩ := ih fun o ho => hops o (List.mem_cons_of_mem _ ho)
    have hrun : (run (op :: ops) (s, w)).1 = .ok answer :: (run ops (s, w)).1 := by
      show ((perform op).run (s, w)).1 :: (run ops ((perform op).run (s, w)).2).1 = _
      rw [hop]
    refine ⟨fun a ha => ?_, by rw [after_cons, hop, hafter]⟩
    rw [hrun] at ha
    rcases List.mem_cons.1 ha with rfl | ha
    · rfl
    · exact hanswers a ha

/-- **Failed control calls.** A call that could not begin leaves no level open, and the backend
without a transaction. A call that could not end leaves the level closed; later calls to close it
are answered without the backend. -/
theorem failed_control (op : Operation) (s : Session (Traced C)) (w : World E) (e : DbError)
    (herror : ((perform op : Action (Session (Traced C)) E Answer).run (s, w)).1 = .error e) :
    let r := (perform op : Action (Session (Traced C)) E Answer).run (s, w)
    (op.isOpening = true → Unopened op s r.2.1) ∧
      (op.isClosing = true → ClosedAnyway op s r.2.1 ∧
        ∀ later, (∀ op ∈ later, op.isClosing = true) →
          (∀ answer ∈ (run later r.2).1, answer.isOk = true) ∧ after later r.2 = r.2) := by
  intro r
  refine ⟨fun hop => unopened_of_error hop herror, fun hop => ?_⟩
  have hclosed := closedAnyway_of_error hop herror
  -- the level is closed, so there is nothing to close for what comes later
  refine ⟨hclosed, fun later hlater => run_closing_idle hlater r.2.2 ?_⟩
  rw [hclosed.transaction]

/-- A session on a server that fails statements with a word in them. -/
def failingStart (word : String) : Session (Traced Scripted) × World Script :=
  (create (ConnectionConfig.ofKind "mock") (Traced.untouched (Scripted.ofDialect .sqlite)),
    ⟨.empty, ⟨[], [⟨word, 1, "no", .query⟩], [], []⟩⟩)

/-- A start that fails changes nothing of the transaction; a commit that fails is not followed by a
rollback. -/
theorem failed_control_scripted :
    let start := failingStart "START"
    let begun := (perform (.startGroup false) :
      Action (Session (Traced Scripted)) Script Answer).run start
    let group := after [.startGroup false] (failingStart "COMMIT")
    let ended := (perform .completeGroup :
      Action (Session (Traced Scripted)) Script Answer).run group
    begun.1 = .error (.query 1 "no" "") ∧ begun.2.1.transaction = start.1.transaction ∧
      ended.1 = .error (.query 1 "no" "") ∧ ended.2.1.transaction.depth = 0 ∧
      after [.rollbackManual] ended.2 = ended.2 := by
  intro start begun group ended
  have hbegun : begun.1 = .error (.query 1 "no" "") := by decide +kernel
  have hended : ended.1 = .error (.query 1 "no" "") := by decide +kernel
  have hunopened := (failed_control (.startGroup false) start.1 start.2 _ hbegun).1 rfl
  obtain ⟨hclosed, hlater⟩ := (failed_control .completeGroup group.1 group.2 _ hended).2 rfl
  refine ⟨hbegun, hunopened.unchanged rfl, hended, ?_, (hlater [.rollbackManual] (by decide)).2⟩
  rw [hclosed.transaction]

/-- So a call that fails may change the transaction: a group that could not be committed is
closed. -/
theorem failed_commit_closes :
    ¬ ∀ (op : Operation) (s : Session (Traced Scripted) × World Script) (e : DbError),
      op.isTransactional = true →
      ((perform op : Action (Session (Traced Scripted)) Script Answer).run s).1 = .error e →
      let t := ((perform op : Action (Session (Traced Scripted)) Script Answer).run s).2.1
      t.transaction.depth = s.1.transaction.depth ∧
        t.transaction.failed = s.1.transaction.failed := by
  intro hatomic
  have hdepth := (hatomic .completeGroup (after [.startGroup false] (failingStart "COMMIT"))
    (.query 1 "no" "") rfl (by decide +kernel)).1
  revert hdepth
  decide +kernel

end SqlGateway.Session
