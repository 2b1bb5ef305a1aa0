import SqlGateway.Proofs.Session.GroupOutcome

/-!
# Transactions as a machine

What an operation makes of the transaction of a session depends on little: on the transaction, on
debug mode, and on two things that the backend said in the meantime, whether it began a transaction
and whether it rejected a query. So the transactions of a run can be computed from the operations
and these verdicts alone, and two runs can be compared by comparing verdicts, whatever else the
backend did in them.

Main definitions:

* `Session.Verdict`: what the backend said during an operation.
* `Session.Operation.next`, `Session.follow`: the transaction after an operation, and after a run.
* `Session.heard`: the operations of a run with the verdicts on them.
* `Session.Steps`: the operation did what the machine does.

Main results:

* `Session.steps_perform`: an operation on a session is a step of the machine.
* `Session.transaction_after`: so is a run.
-/

namespace SqlGateway.Session

variable {C E : Type}

/-! ## The machine -/

/-- What the backend said during an operation, as far as the transaction depends on it. -/
structure Verdict where
  begun : Bool
  rejected : Bool
  deriving DecidableEq

/-- The transaction after an operation. -/
def Operation.next (debug : Bool) (t : Transaction) (v : Verdict) : Operation → Transaction
  | startGroup test =>
    if t.isOpen then t.enterInner else { t.enterOuter test with depth := if v.begun then 1 else 0 }
  | completeGroup => t.leave.2
  | beginManual test =>
    if t.isOpen then t else { t with failed := test, depth := if v.begun then 1 else 0 }
  | commitManual | rollbackManual => if t.depth = 1 then { t with depth := 0 } else t
  | disableTransactions => { t with enabled := false }
  | setStrict strict => { t with strict }
  | _ => if v.rejected then t.reject debug else t

/-- The transaction after a run. -/
def follow (debug : Bool) (t : Transaction) : List (Operation × Verdict) → Transaction
  | [] => t
  | (op, v) :: steps => follow debug (op.next debug t v) steps

theorem Operation.isPlain_of_isInquiry {op : Operation} (h : op.isInquiry = true) :
    op.isPlain = true := by
  cases op <;> first | rfl | cases h

/-- Other operations matter by the queries that they ask. -/
theorem Operation.next_plain {op : Operation} (hplain : op.isPlain = true) (debug : Bool)
    (t : Transaction) (v : Verdict) :
    op.next debug t v = if v.rejected then t.reject debug else t := by
  cases op <;> first | rfl | cases hplain

/-- Transactions are switched off by the one operation that does so. -/
theorem Operation.enabled_next {op : Operation} (hop : op ≠ .disableTransactions) (debug : Bool)
    (t : Transaction) (v : Verdict) : (op.next debug t v).enabled = t.enabled := by
  cases op with
  | startGroup test | beginManual test | commitManual | rollbackManual =>
    simp only [next]
    split <;> rfl
  | completeGroup => exact Transaction.enabled_leave t
  | disableTransactions => exact absurd rfl hop
  | setStrict strict => rfl
  | _ =>
    simp only [next]
    split
    · exact Transaction.enabled_reject debug t
    · rfl

variable [Connection C] [Backend C E]

/-! ## Operations -/

/-- The verdict on an operation. Only what asks queries asks for a verdict on them. -/
def verdict (op : Operation) (s : Session (Traced C) × World E) : Verdict :=
  let added := eventsSince s.1 ((perform op : Action (Session (Traced C)) E Answer).run s).2.1
  ⟨(added.filterMap BackendEvent.mark?).contains .begun,
    op.isInquiry && added.any BackendEvent.isRejection⟩

omit [Connection C] [Backend C E] in
theorem marks_eventsSince {ms : List Mark} {s t : Session (Traced C)} (h : Adds ms s t) :
    (eventsSince s t).filterMap BackendEvent.mark? = ms := by
  obtain ⟨added, hevents, hmarks, -⟩ := h
  rw [eventsSince_of_append hevents, hmarks]

/-- What neither asks queries nor deals with transactions leaves settings and transaction alone. -/
theorem kept_perform {op : Operation} (hplain : op.isPlain = true)
    (hother : op.isInquiry = false) (s : Session (Traced C) × World E) :
    let t := ((perform op : Action (Session (Traced C)) E Answer).run s).2.1
    t.config = s.1.config ∧ t.transaction = s.1.transaction := by
  have htended : Tended E (upkeep (Traced.appending fun _ => True) : Law (Session (Traced C))) :=
    .of_upkept (Traced.upkept fun _ _ => trivial)
  have hconnect := governs_connect htended
  have hgoverned : (upkeep (Traced.appending fun _ => True) : Law (Session (Traced C))).Governs
      (perform op : Action (Session (Traced C)) E Answer).run := by
    cases op with
    | connect => exact .run_bind hconnect fun _ => .run_pure
    | reconnect =>
      exact .run_bind (governs_reconnect hconnect htended.reconnect) fun _ => .run_pure
    | close => exact .run_bind (.run_act (governs_close htended)) fun _ => .run_pure
    | runDirect sql =>
      exact .run_bind (governs_runDirect hconnect (governs_onConn
        (Traced.governs_noting fun _ => trivial))) fun _ => .run_pure
    | forgetResults => exact .run_bind (.run_act governs_onStore) fun _ => .run_pure
    | setCaching | renewStore | forgetNames =>
      exact .run_bind (.run_modifySubject fun _ => upkeep_rel_of_eq rfl rfl rfl) fun _ => .run_pure
    | query | tables | tableExists | columns | columnExists | columnData | primaryKey | version
      | countAll => cases hother
    | _ => cases hplain
  exact ⟨(hgoverned s).1, (hgoverned s).2.1⟩

/-- The verdict on a call that began a transaction, or did not. -/
theorem begun_verdict (op : Operation) {s : Session (Traced C)} {w : World E} {begun : Bool}
    (h : Adds (if begun then [.begun] else []) s
      ((perform op : Action (Session (Traced C)) E Answer).run (s, w)).2.1) :
    (verdict op (s, w)).begun = begun := by
  show ((eventsSince s _).filterMap BackendEvent.mark?).contains .begun = begun
  rw [marks_eventsSince h]
  cases begun <;> rfl

/-- The operation is a step of the machine from this state. -/
def Steps (op : Operation) (s : Session (Traced C) × World E) : Prop :=
  let t := ((perform op : Action (Session (Traced C)) E Answer).run s).2.1
  t.transaction = op.next s.1.config.debug s.1.transaction (verdict op s) ∧
    t.config.debug = s.1.config.debug

theorem steps_startGroup (test : Bool) {s : Session (Traced C)} (w : World E)
    (henabled : s.transaction.enabled = true) : Steps (.startGroup test) (s, w) := by
  have hstate : ((perform (.startGroup test) : Action (Session (Traced C)) E Answer).run
      (s, w)).2 = ((startGroup test : Action (Session (Traced C)) E Unit).run (s, w)).2 :=
    state_answer (startGroup test) (fun _ => .done) (s, w)
  unfold Steps
  rcases Nat.eq_zero_or_pos s.transaction.depth with hdepth | hdepth
  · have hclosed : s.transaction.isOpen = false := decide_eq_false (by omega)
    -- the one mark that the call may add is the verdict on it
    obtain ⟨hconfig, htransaction, hadds⟩ := startGroup_outer (E := E) test w henabled hdepth
    have hbegun := begun_verdict (.startGroup test) (by rw [hstate]; exact hadds)
    simp only [hstate, hconfig, htransaction, Operation.next, hclosed, hbegun, Bool.false_eq_true,
      ↓reduceIte, and_self]
  · have hopen : s.transaction.isOpen = true := decide_eq_true hdepth
    simp only [hstate, run_startGroup_inner test w henabled hdepth, Operation.next, hopen,
      ↓reduceIte, and_self]

theorem steps_beginManual (test : Bool) {s : Session (Traced C)} (w : World E)
    (henabled : s.transaction.enabled = true) : Steps (.beginManual test) (s, w) := by
  have hstate : ((perform (.beginManual test) : Action (Session (Traced C)) E Answer).run
      (s, w)).2 = ((beginManual test : Action (Session (Traced C)) E Unit).run (s, w)).2 :=
    state_answer (beginManual test) (fun _ => .done) (s, w)
  unfold Steps
  rcases Nat.eq_zero_or_pos s.transaction.depth with hdepth | hdepth
  · have hclosed : s.transaction.isOpen = false := decide_eq_false (by omega)
    obtain ⟨hconfig, htransaction, hadds⟩ := beginManual_outer (E := E) test w henabled hdepth
    have hbegun := begun_verdict (.beginManual test) (by rw [hstate]; exact hadds)
    simp only [hstate, hconfig, htransaction, Operation.next, hclosed, hbegun, Bool.false_eq_true,
      ↓reduceIte, and_self]
  · have hopen : s.transaction.isOpen = true := decide_eq_true hdepth
    simp only [hstate, run_beginManual_idle test w (.inr hdepth), Operation.next, hopen,
      ↓reduceIte, and_self]

theorem steps_completeGroup {s : Session (Traced C)} (w : World E)
    (henabled : s.transaction.enabled = true) : Steps .completeGroup (s, w) := by
  have hstate : ((perform .completeGroup : Action (Session (Traced C)) E Answer).run (s, w)).2 =
      ((completeGroup : Action (Session (Traced C)) E _).run (s, w)).2 :=
    state_answer completeGroup .transaction (s, w)
  unfold Steps
  by_cases hdepth : s.transaction.depth = 1
  · obtain ⟨hconfig, htransaction, -⟩ := completeGroup_outer (E := E) w henabled hdepth
    simp only [hstate, hconfig, htransaction, Operation.next, Transaction.leave_outer hdepth,
      and_self]
  · simp only [hstate, run_completeGroup_inner w henabled hdepth, Operation.next, and_self]

theorem transaction_endManual (failed : Bool) {s : Session (Traced C)} (w : World E)
    (henabled : s.transaction.enabled = true) :
    let t := ((endManual (closeGroup failed) : Action (Session (Traced C)) E Unit).run (s, w)).2.1
    t.transaction =
        (if s.transaction.depth = 1 then { s.transaction with depth := 0 } else s.transaction) ∧
      t.config.debug = s.config.debug := by
  by_cases hdepth : s.transaction.depth = 1
  · obtain ⟨hconfig, htransaction, -⟩ := endManual_outer (E := E) failed w henabled hdepth
    rw [if_pos hdepth]
    exact ⟨htransaction, by rw [hconfig]⟩
  · rw [if_neg hdepth, run_endManual_idle _ w (.inr hdepth)]
    exact ⟨rfl, rfl⟩

/-- An operation on a session with transactions is a step of the machine. -/
theorem steps_perform (op : Operation) {s : Session (Traced C)} (w : World E)
    (henabled : s.transaction.enabled = true) : Steps op (s, w) := by
  by_cases hplain : op.isPlain = true
  · unfold Steps
    rw [Operation.next_plain hplain]
    -- what asks no queries is not judged by the statements that it sends
    cases hinquiry : op.isInquiry with
    | true =>
      obtain ⟨hconfig, added, hevents, htransaction⟩ := notices_inquiry hinquiry w henabled
      have hrejected : (verdict op (s, w)).rejected = added.any BackendEvent.isRejection := by
        show (op.isInquiry && _) = _
        rw [hinquiry, Bool.true_and, eventsSince_of_append hevents]
      rw [hrejected]
      exact ⟨htransaction, by rw [hconfig]⟩
    | false =>
      obtain ⟨hconfig, htransaction⟩ := kept_perform hplain hinquiry (s, w)
      have hrejected : (verdict op (s, w)).rejected = false := by
        show (op.isInquiry && _) = _
        rw [hinquiry, Bool.false_and]
      rw [hrejected]
      exact ⟨htransaction, by rw [hconfig]⟩
  · cases op with
    | startGroup test => exact steps_startGroup test w henabled
    | completeGroup => exact steps_completeGroup w henabled
    | beginManual test => exact steps_beginManual test w henabled
    | commitManual =>
      unfold Steps
      rw [perform, state_answer commitManual (fun _ => .done)]
      exact transaction_endManual false w henabled
    | rollbackManual =>
      unfold Steps
      rw [perform, state_answer rollbackManual (fun _ => .done)]
      exact transaction_endManual true w henabled
    | disableTransactions | setStrict | setCacheDir | setTablePrefix => exact ⟨rfl, rfl⟩
    | _ => exact absurd rfl hplain

/-! ## Runs -/

/-- The operations of a run, each with the verdict on it. -/
def heard : List Operation → Session (Traced C) × World E → List (Operation × Verdict)
  | [], _ => []
  | op :: ops, s =>
    (op, verdict op s) :: heard ops ((perform op : Action (Session (Traced C)) E Answer).run s).2

theorem heard_append (ops more : List Operation) (s : Session (Traced C) × World E) :
    heard (ops ++ more) s = heard ops s ++ heard more (after ops s) := by
  induction ops generalizing s with
  | nil => rfl
  | cons op ops ih => exact congrArg ((op, verdict op s) :: ·) (ih _)

theorem length_heard (ops : List Operation) (s : Session (Traced C) × World E) :
    (heard ops s).length = ops.length := by
  induction ops generalizing s with
  | nil => rfl
  | cons op ops ih => exact congrArg Nat.succ (ih _)

/-- Where the backend says the same all along, it says the same in every part of the run. -/
theorem heard_congr {ops more : List Operation} {s t : Session (Traced C) × World E}
    (h : heard (ops ++ more) s = heard (ops ++ more) t) :
    heard ops s = heard ops t ∧ heard more (after ops s) = heard more (after ops t) := by
  rw [heard_append, heard_append] at h
  exact List.append_inj h (by rw [length_heard, length_heard])

/-- A run on a session with transactions is a run of the machine. -/
theorem transaction_after {ops : List Operation} (hops : .disableTransactions ∉ ops)
    {s : Session (Traced C) × World E} (henabled : s.1.transaction.enabled = true) :
    (after ops s).1.transaction = follow s.1.config.debug s.1.transaction (heard ops s) ∧
      (after ops s).1.config.debug = s.1.config.debug ∧
      (after ops s).1.transaction.enabled = true := by
  induction ops generalizing s with
  | nil => exact ⟨rfl, rfl, henabled⟩
  | cons op ops ih =>
    obtain ⟨hop, hops⟩ := not_or.1 (mt List.mem_cons.2 hops)
    obtain ⟨htransaction, hdebug⟩ := steps_perform op s.2 henabled
    have henabled' : ((perform op : Action (Session (Traced C)) E Answer).run
        s).2.1.transaction.enabled = true := by
      rw [htransaction, Operation.enabled_next (Ne.symm hop)]
      exact henabled
    obtain ⟨hrest, hdebug', henabled''⟩ := ih hops henabled'
    rw [hdebug, htransaction] at hrest
    exact ⟨hrest, hdebug'.trans hdebug, henabled''⟩

end SqlGateway.Session
