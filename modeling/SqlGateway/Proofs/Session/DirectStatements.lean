import SqlGateway.Proofs.Session.TestGroups

/-!
# Direct statements in a group

A statement reaches the backend as a query, or directly. To a group it makes a difference: a query
that is rejected raises the failure flag, so that the group is rolled back; a direct statement
leaves the flag alone, whatever becomes of it. So a group may be committed although one of its
statements was rejected, and that is the case exactly if nothing else has failed the group.

Main definition:

* `Session.status`: no failure is remembered.

Main result:

* `Session.direct_statement_fails_group_iff`: what a group owes to its direct statements, and what
  it would owe to a query in their place.
-/

namespace SqlGateway.Session

variable {C E : Type}

/-- The answer to the question whether all has gone well in the group. -/
def status (s : Session C) : Bool :=
  !s.transaction.failed

theorem status_eq_false_iff {s : Session C} : s.status = false ↔ s.transaction.failed = true := by
  rw [status, Bool.not_eq_false']

variable [Connection C] [Backend C E]

theorem anyRejected_append (ops more : List Operation) (s : Session (Traced C) × World E) :
    anyRejected (ops ++ more) s = (anyRejected ops s || anyRejected more (after ops s)) := by
  rw [anyRejected, heard_append, List.any_append]
  rfl

/-- What the backend says of a direct statement is not heard. -/
theorem anyRejected_runDirect (sql : String) (ops : List Operation)
    (s : Session (Traced C) × World E) :
    anyRejected (.runDirect sql :: ops) s = anyRejected ops ((perform (.runDirect sql)).run s).2 :=
  Bool.false_or _

/-- A group that was open for the whole of a stretch was open for its beginning. -/
theorem OpenSince.of_prefix {s : Session (Traced C) × World E} {before : List Operation}
    {opener : Operation} {inside start : List Operation} (h : OpenSince s before opener inside)
    (hstart : start <+: inside) : OpenSince s before opener start where
  closed := h.closed
  isOpen more hmore := h.isOpen more (hmore.trans hstart)

section
variable {s : Session (Traced C) × World E} {before : List Operation} {opener : Operation}
  {inside rest : List Operation} {sql : String}

/-- A run that opens a group, from a place within the group on. -/
theorem after_within (s : Session (Traced C) × World E) (before : List Operation)
    (opener : Operation) (inside rest : List Operation) :
    after (before ++ opener :: (inside ++ rest)) s =
      after rest (after (before ++ opener :: inside) s) := by
  rw [← after_append, List.append_assoc, List.cons_append]

/-- In a group, the flag that counts rejections goes by the part before a place and the part from
there on. -/
theorem OpenSince.failed_within (hgroup : OpenSince s before opener (inside ++ rest))
    (hops : .disableTransactions ∉ before ++ opener :: (inside ++ rest))
    (henabled : s.1.transaction.enabled = true) :
    (after rest (after (before ++ opener :: inside) s)).1.transaction.failed =
      (opener.opensFailed (after before s).1.transaction ||
        (anyRejected (opener :: inside) (after before s) ||
          anyRejected rest (after (before ++ opener :: inside) s))) := by
  rw [← after_within, hgroup.failed_eq hops henabled, ← List.cons_append, anyRejected_append,
    after_append before]

/-- A query that was rejected has failed its group, for as long as that is open. -/
theorem failed_of_rejected_query {binds : List Value} (henabled : s.1.transaction.enabled = true)
    (hops : .disableTransactions ∉ before ++ opener :: (inside ++ .query sql binds :: rest))
    (hgroup : OpenSince s before opener (inside ++ .query sql binds :: rest))
    (hrejected : (verdict (.query sql binds) (after (before ++ opener :: inside) s)).rejected =
      true) :
    (after (.query sql binds :: rest)
      (after (before ++ opener :: inside) s)).1.transaction.failed = true := by
  have hany : anyRejected (.query sql binds :: rest) (after (before ++ opener :: inside) s) =
      true := by
    show ((verdict (.query sql binds) _).rejected || _) = true
    rw [hrejected, Bool.true_or]
  rw [hgroup.failed_within hops henabled, hany, Bool.or_true, Bool.or_true]

/-- **Direct statements.** Let a statement be sent directly while a group is open. It leaves the
transaction as it is, whether the backend rejects it or not. So afterwards the status is bad, and
the call that closes the group rolls back, exactly if something else has failed the group: it was
opened failed, or a query was rejected. In the place of the direct statement, a query whose
statement is rejected fails the group by itself. -/
theorem direct_statement_fails_group_iff (henabled : s.1.transaction.enabled = true)
    (hops : .disableTransactions ∉ before ++ opener :: (inside ++ .runDirect sql :: rest))
    (hgroup : OpenSince s before opener (inside ++ .runDirect sql :: rest))
    (houtermost : (after (before ++ opener :: (inside ++ .runDirect sql :: rest))
      s).1.transaction.depth = 1) :
    let opened := opener.opensFailed (after before s).1.transaction
    let sooner := anyRejected (opener :: inside) (after before s)
    let place := after (before ++ opener :: inside) s
    let direct := ((perform (.runDirect sql) : Action (Session (Traced C)) E Answer).run place).2
    direct.1.transaction = place.1.transaction ∧
      (direct.1.status = false ↔ opened = true ∨ sooner = true) ∧
      (Ends true (after rest direct) ↔
        opened = true ∨ sooner = true ∨ anyRejected rest direct = true) ∧
      ∀ binds more, .disableTransactions ∉ more →
        OpenSince s before opener (inside ++ .query sql binds :: more) →
        (verdict (.query sql binds) place).rejected = true →
        let queried := ((perform (.query sql binds)).run place).2
        queried.1.status = false ∧ ((after more queried).1.transaction.depth = 1 →
          Ends true (after more queried)) := by
  intro opened sooner place direct
  have hkept : direct.1.transaction = place.1.transaction := (kept_perform rfl rfl place).2
  have hbefore {more : List Operation} (hmore : .disableTransactions ∉ more) :
      .disableTransactions ∉ before ++ opener :: (inside ++ more) := by
    simp only [List.mem_append, List.mem_cons] at hops ⊢
    tauto
  have hends {more : List Operation} {failed : Bool} (hmore : .disableTransactions ∉ more)
      (hdepth : (after more place).1.transaction.depth = 1) :
      Ends failed (after more place) ↔ (after more place).1.transaction.failed = failed := by
    refine ends_iff ?_ hdepth
    rw [← after_within]
    exact (transaction_after (hbefore hmore) henabled).2.2
  have hrest : .disableTransactions ∉ .runDirect sql :: rest := fun hmem => hops (by simp [hmem])
  refine ⟨hkept, ?_, ?_, fun binds more hmore hgroup' hrejected => ?_⟩
  · have hsooner : OpenSince s before opener inside := hgroup.of_prefix (List.prefix_append _ _)
    have hinside := hbefore List.not_mem_nil
    rw [List.append_nil] at hinside
    have hplace := hsooner.failed_eq hinside henabled
    rw [status_eq_false_iff, hkept, hplace, Bool.or_eq_true]
  · rw [after_within] at houtermost
    refine (hends hrest houtermost).trans ?_
    rw [hgroup.failed_within hops henabled, anyRejected_runDirect, Bool.or_eq_true,
      Bool.or_eq_true]
  · intro queried
    have hquery : .disableTransactions ∉ Operation.query sql binds :: more := by simp [hmore]
    have hfirst : OpenSince s before opener (inside ++ [.query sql binds]) :=
      hgroup'.of_prefix ((List.prefix_append_right_inj inside).2 ⟨more, rfl⟩)
    refine ⟨?_, fun hdepth => (hends hquery hdepth).2 ?_⟩
    · rw [status_eq_false_iff]
      exact failed_of_rejected_query henabled (hbefore (by simp)) hfirst hrejected
    · exact failed_of_rejected_query henabled (hbefore hquery) hgroup' hrejected

end

/-! ## A group with a direct statement -/

/-- A session over a server that rejects what has a word in it. -/
def rejectingStart : Session (Traced Scripted) × World Script :=
  (create (ConnectionConfig.ofKind "mock") (Traced.untouched (Scripted.ofDialect .mysql)),
    rejectingWorld)

/-- A group with one statement in it, which the server rejects. It is not failed by that, and would
be by a query. -/
theorem direct_statement_fails_group_iff_alone :
    let place := after [.startGroup false] rejectingStart
    let direct := (perform (.runDirect "BAD") : Action _ Script Answer).run place
    let queried := (perform (.query "BAD" []) : Action _ Script Answer).run place
    (direct.2.1.status = true ∧ ¬ Ends true direct.2) ∧
      queried.2.1.status = false ∧ Ends true queried.2 := by
  have hgroup : OpenSince rejectingStart [] (.startGroup false) ([] ++ [.runDirect "BAD"]) :=
    .of_inits (by decide +kernel) (by decide +kernel)
  have hgroup' : OpenSince rejectingStart [] (.startGroup false) ([] ++ [.query "BAD" []]) :=
    .of_inits (by decide +kernel) (by decide +kernel)
  have henabled : rejectingStart.1.transaction.enabled = true := rfl
  have houtermost : (after [.startGroup false, .runDirect "BAD"]
      rejectingStart).1.transaction.depth = 1 := by
    decide +kernel
  have houtermost' : (after [.startGroup false, .query "BAD" []]
      rejectingStart).1.transaction.depth = 1 := by
    decide +kernel
  have hopened : (Operation.startGroup false).opensFailed rejectingStart.1.transaction = false :=
    rfl
  have hsooner : anyRejected [.startGroup false] rejectingStart = false := by decide +kernel
  have hrejected : (verdict (.query "BAD" []) (after [.startGroup false] rejectingStart)).rejected =
      true := by
    decide +kernel
  -- from here on it does not matter which state the run starts from
  generalize rejectingStart = s at *
  intro place direct queried
  obtain ⟨-, hstatus, hends, hquery⟩ :=
    direct_statement_fails_group_iff henabled (by decide) hgroup houtermost
  obtain ⟨hstatus', hends'⟩ := hquery [] [] (by decide) hgroup' hrejected
  refine ⟨⟨?_, ?_⟩, hstatus', hends' houtermost'⟩
  · refine Bool.of_not_eq_false fun hbad => (hstatus.1 hbad).elim ?_ ?_
    · exact Bool.eq_false_iff.1 hopened
    · exact Bool.eq_false_iff.1 hsooner
  · intro hrolledBack
    obtain h | h | h := hends.1 hrolledBack
    · exact Bool.eq_false_iff.1 hopened h
    · exact Bool.eq_false_iff.1 hsooner h
    · cases h

/-- So a group is committed whose only statement was rejected, if the statement was sent directly.
If it was a query, the group is rolled back. -/
theorem rejected_direct_statement_committed :
    let place := after [.startGroup false] rejectingStart
    let direct := (perform (.runDirect "BAD") : Action _ Script Answer).run place
    let queried := (perform (.query "BAD" []) : Action _ Script Answer).run place
    let close := (completeGroup : Action (Session (Traced Scripted)) Script _).run
    place.1.config.debug = false ∧ place.1.transaction.enabled = true ∧
      place.1.transaction.depth = 1 ∧
      (direct.1.isOk = false ∧ direct.2.1.status = true ∧ (close direct.2).1 = .ok .committed) ∧
      queried.1.isOk = false ∧ queried.2.1.status = false ∧
        (close queried.2).1 = .ok .rolledBack := by
  decide +kernel

end SqlGateway.Session
