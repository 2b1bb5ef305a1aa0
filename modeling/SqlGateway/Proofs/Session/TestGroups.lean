import SqlGateway.Proofs.Session.Holding
import SqlGateway.Proofs.Session.Transitions

/-!
# What a test group leaves behind

A group that is opened as a test counts as failed from the start, so it is rolled back. The flag
that says so is the flag that remembers failures, and strict mode keeps it for the groups that
follow: so a test group may decide how a later group ends, though nothing went wrong in either of
the two.

To say when it does, a run with a test group is compared with the run that leaves the group out. The
two sessions have transactions that differ in the flag at most, and they go on in step; either the
flag is settled somewhere, and the two are equal from then on, or each run keeps the flag that it
had.

Main definitions:

* `Session.Operation.settles`, `Session.settled`: the flag afterwards does not depend on the flag
  before.
* `Session.QuietGroup`: a group of a run in which no query is rejected.
* `Session.Ends`: how the call that closes a group ends it.

Main results:

* `Session.follow_failed`: two runs that differ in the flag.
* `Session.OpenSince.failed_eq`: the flag of a group, from its opening and from the queries in it.
* `Session.QuietGroup.failed_eq`: the flag at the end of a group in which no query is rejected.
* `Session.test_group_traceless_iff`: when a test group makes no difference to a later group.
-/

namespace SqlGateway.Session

variable {C E : Type}

/-! ## The flag in the machine -/

/-- The failure flag after the operation does not depend on the flag before it. -/
def Operation.settles (t : Transaction) (v : Verdict) : Operation → Bool
  | startGroup test => !t.isOpen && (test || !t.strict)
  | completeGroup => decide (t.depth = 1) && !t.strict
  | beginManual _ => !t.isOpen
  | commitManual | rollbackManual | disableTransactions | setStrict _ => false
  | _ => v.rejected && t.isOpen

/-- What does not settle the flag keeps it, and nothing else depends on it. -/
theorem Operation.next_failed (op : Operation) (debug : Bool) (t : Transaction) (v : Verdict)
    (failed : Bool) :
    op.next debug { t with failed } v =
      { op.next debug t v with
        failed := if op.settles t v then (op.next debug t v).failed else failed } := by
  obtain ⟨depth, was, enabled, strict⟩ := t
  obtain ⟨begun, rejected⟩ := v
  cases op with
  | startGroup test =>
    cases depth with
    | zero => cases test <;> cases strict <;> rfl
    | succ depth => rfl
  | completeGroup =>
    match depth with
    | 0 => rfl
    | 1 => cases strict <;> cases was <;> cases failed <;> rfl
    | depth + 2 => rfl
  | beginManual test => cases depth <;> rfl
  | commitManual | rollbackManual =>
    simp only [next, settles]
    split <;> rfl
  | disableTransactions | setStrict strict => rfl
  | _ =>
    -- a rejection settles the flag of an open group
    cases rejected with
    | false => rfl
    | true => cases depth <;> cases debug <;> rfl

/-- Somewhere on the way the flag is settled. -/
def settled (debug : Bool) (t : Transaction) : List (Operation × Verdict) → Bool
  | [] => false
  | (op, v) :: steps => op.settles t v || settled debug (op.next debug t v) steps

/-- Runs that differ in the flag go on in step, until the flag is settled and they are the same. -/
theorem follow_failed (debug : Bool) (t : Transaction) (failed : Bool)
    (steps : List (Operation × Verdict)) :
    follow debug { t with failed } steps =
      { follow debug t steps with
        failed := if settled debug t steps then (follow debug t steps).failed else failed } := by
  induction steps generalizing t with
  | nil => rfl
  | cons step steps ih =>
    obtain ⟨op, v⟩ := step
    show follow debug (op.next debug { t with failed } v) steps = _
    rw [op.next_failed]
    cases hsettles : op.settles t v with
    | true =>
      -- from here on the two runs are one
      simp only [settled, hsettles, Bool.true_or, ↓reduceIte]
      rfl
    | false =>
      simp only [settled, hsettles, Bool.false_or, Bool.false_eq_true, ↓reduceIte]
      exact ih _

/-- Where the flag is not settled it stays. -/
theorem failed_follow {debug : Bool} {t : Transaction} {steps : List (Operation × Verdict)}
    (h : settled debug t steps = false) : (follow debug t steps).failed = t.failed := by
  have hfailed := congrArg Transaction.failed (follow_failed debug t t.failed steps)
  rw [h] at hfailed
  exact hfailed

/-- Whether the flag is settled does not depend on it. -/
theorem settled_failed (debug : Bool) (t : Transaction) (failed : Bool)
    (steps : List (Operation × Verdict)) :
    settled debug { t with failed } steps = settled debug t steps := by
  induction steps generalizing t failed with
  | nil => rfl
  | cons step steps ih =>
    obtain ⟨op, v⟩ := step
    have hsettles : op.settles { t with failed } v = op.settles t v := by cases op <;> rfl
    show (_ || settled debug (op.next debug { t with failed } v) steps) = _
    rw [hsettles, op.next_failed, ih]
    rfl

/-- The flag of a group goes up with a rejection and stays otherwise, unless the operation opens the
group or closes it. Only queries are judged by rejections. -/
theorem Operation.failed_next_within {op : Operation} {debug : Bool} {t : Transaction} {v : Verdict}
    (hopen : 0 < t.depth) (hstays : 0 < (op.next debug t v).depth)
    (hverdict : v.rejected = true → op.isInquiry = true) :
    (op.next debug t v).failed = (t.failed || v.rejected) := by
  have hisOpen : t.isOpen = true := decide_eq_true hopen
  cases hrejected : v.rejected with
  | true =>
    have hplain : op.isPlain = true := Operation.isPlain_of_isInquiry (hverdict hrejected)
    rw [Operation.next_plain hplain, if_pos hrejected] at hstays ⊢
    -- in debug mode the group would have ended
    cases debug with
    | true => exact absurd (Transaction.depth_reject_debug t) (by omega)
    | false =>
      rw [Transaction.reject_quiet, Transaction.markFailed, if_pos hisOpen, Bool.or_true]
  | false =>
    rw [Bool.or_false]
    cases op with
    | startGroup test =>
      simp only [next, hisOpen, ↓reduceIte]
      rfl
    | beginManual test => simp only [next, hisOpen, ↓reduceIte]
    | completeGroup =>
      have hstays : 0 < t.leave.2.depth := hstays
      rw [Transaction.depth_leave] at hstays
      exact Transaction.failed_leave (by omega)
    | commitManual | rollbackManual =>
      simp only [next]
      split <;> rfl
    | disableTransactions | setStrict strict => rfl
    | _ => simp only [next, hrejected, Bool.false_eq_true, ↓reduceIte]

/-- A group that was opened has the flag that its opening gave it. -/
theorem Operation.failed_next_opening {op : Operation} (hopening : op.isOpening = true)
    {debug : Bool} {t : Transaction} {v : Verdict} (hclosed : t.depth = 0) :
    (op.next debug t v).failed = op.opensFailed t := by
  have hisOpen : t.isOpen = false := decide_eq_false (by omega)
  cases op with
  | startGroup test | beginManual test =>
    simp only [next, hisOpen, Bool.false_eq_true, ↓reduceIte]
    rfl
  | _ => cases hopening

variable [Connection C] [Backend C E]

/-! ## The flag of a group -/

/-- A query was rejected on the way. -/
def anyRejected (ops : List Operation) (s : Session (Traced C) × World E) : Bool :=
  (heard ops s).any fun step => step.2.rejected

/-- While a group is open its flag tells of the queries that were rejected. -/
theorem failed_after_open {ops : List Operation} {s : Session (Traced C) × World E}
    (hops : .disableTransactions ∉ ops) (henabled : s.1.transaction.enabled = true)
    (hopen : ∀ more, more <+: ops → 0 < (after more s).1.transaction.depth) :
    (after ops s).1.transaction.failed = (s.1.transaction.failed || anyRejected ops s) := by
  induction ops generalizing s with
  | nil => exact (Bool.or_false _).symm
  | cons op ops ih =>
    obtain ⟨hop, hops⟩ := not_or.1 (mt List.mem_cons.2 hops)
    obtain ⟨htransaction, -⟩ := steps_perform op s.2 henabled
    -- the group is open on both sides of the first operation, which so neither opens nor closes it
    have hstays : 0 < ((perform op).run s).2.1.transaction.depth :=
      hopen [op] ((List.prefix_cons_inj op).2 List.nil_prefix)
    have hfailed : ((perform op).run s).2.1.transaction.failed =
        (s.1.transaction.failed || (verdict op s).rejected) := by
      rw [htransaction] at hstays ⊢
      exact Operation.failed_next_within (hopen [] List.nil_prefix) hstays fun hrejected =>
        (Bool.and_eq_true_iff.1 hrejected).1
    have henabled' : ((perform op).run s).2.1.transaction.enabled = true := by
      rw [htransaction, Operation.enabled_next (Ne.symm hop)]
      exact henabled
    rw [after_cons, ih hops henabled' fun more hmore =>
      hopen (op :: more) ((List.prefix_cons_inj op).2 hmore), hfailed, Bool.or_assoc]
    rfl

/-- The flag of a group is the one that it was opened with, and up as well if a query was rejected
since. -/
theorem OpenSince.failed_eq {s : Session (Traced C) × World E} {before : List Operation}
    {opener : Operation} {inside : List Operation} (h : OpenSince s before opener inside)
    (hops : .disableTransactions ∉ before ++ opener :: inside)
    (henabled : s.1.transaction.enabled = true) :
    (after (before ++ opener :: inside) s).1.transaction.failed =
      (opener.opensFailed (after before s).1.transaction ||
        anyRejected (opener :: inside) (after before s)) := by
  obtain ⟨hbefore, hops⟩ := not_or.1 (mt List.mem_append.2 hops)
  obtain ⟨hopener, hinside⟩ := not_or.1 (mt List.mem_cons.2 hops)
  obtain ⟨-, -, henabled⟩ := transaction_after hbefore henabled
  have hwhole (more : List Operation) : after (before ++ opener :: more) s =
      after more ((perform opener).run (after before s)).2 := by
    rw [after_append, after_cons]
  obtain ⟨htransaction, -⟩ := steps_perform opener (after before s).2 henabled
  have hopens := h.isOpen [] List.nil_prefix
  rw [hwhole] at hopens
  have hopening := isOpening_of_perform h.closed hopens
  have hquiet : (verdict opener (after before s)).rejected = false := by
    show (opener.isInquiry && _) = false
    rw [Operation.isInquiry_of_isOpening hopening, Bool.false_and]
  have henabled' : ((perform opener).run (after before s)).2.1.transaction.enabled = true := by
    rw [htransaction, Operation.enabled_next (Ne.symm hopener)]
    exact henabled
  rw [hwhole, failed_after_open hinside henabled' fun more hmore => by
    rw [← hwhole]
    exact h.isOpen more hmore, htransaction, Operation.failed_next_opening hopening h.closed]
  show _ = (_ || ((verdict opener (after before s)).rejected || _))
  rw [hquiet, Bool.false_or]
  rfl

/-! ## Groups in which nothing is rejected -/

/-- The run opens a group, no query is rejected in it, and one call is left to close it. -/
structure QuietGroup (s : Session (Traced C) × World E) (before : List Operation)
    (opener : Operation) (inside : List Operation) : Prop
    extends OpenSince s before opener inside where
  outermost : (after (before ++ opener :: inside) s).1.transaction.depth = 1
  quiet : ∀ step ∈ heard (opener :: inside) (after before s), step.2.rejected = false

/-- There are only so many points within a group to look at. -/
theorem OpenSince.of_inits {s : Session (Traced C) × World E} {before : List Operation}
    {opener : Operation} {inside : List Operation}
    (hclosed : (after before s).1.transaction.depth = 0)
    (hopen : ∀ more ∈ inside.inits,
      0 < (after (before ++ opener :: more) s).1.transaction.depth) :
    OpenSince s before opener inside :=
  ⟨hclosed, fun more hmore => hopen more ((List.mem_inits more inside).2 hmore)⟩

theorem QuietGroup.of_inits {s : Session (Traced C) × World E} {before : List Operation}
    {opener : Operation} {inside : List Operation}
    (hclosed : (after before s).1.transaction.depth = 0)
    (hopen : ∀ more ∈ inside.inits,
      0 < (after (before ++ opener :: more) s).1.transaction.depth)
    (houtermost : (after (before ++ opener :: inside) s).1.transaction.depth = 1)
    (hquiet : ∀ step ∈ heard (opener :: inside) (after before s), step.2.rejected = false) :
    QuietGroup s before opener inside :=
  ⟨.of_inits hclosed hopen, houtermost, hquiet⟩

/-- The flag at the end of a group in which no query is rejected is the one that it was opened
with. -/
theorem QuietGroup.failed_eq {s : Session (Traced C) × World E} {before : List Operation}
    {opener : Operation} {inside : List Operation}
    (h : QuietGroup s before opener inside)
    (hops : .disableTransactions ∉ before ++ opener :: inside)
    (henabled : s.1.transaction.enabled = true) :
    (after (before ++ opener :: inside) s).1.transaction.failed =
      opener.opensFailed (after before s).1.transaction := by
  have hnone : anyRejected (opener :: inside) (after before s) = false :=
    List.any_eq_false.2 fun step hstep => Bool.eq_false_iff.1 (h.quiet step hstep)
  rw [h.toOpenSince.failed_eq hops henabled, hnone, Bool.or_false]

/-! ## How groups end -/

/-- The call that closes the group asks the backend for what the flag says, and answers so if the
backend agrees. -/
def Ends (failed : Bool) (s : Session (Traced C) × World E) : Prop :=
  let r := (completeGroup : Action (Session (Traced C)) E _).run s
  r.2.1.conn.events = s.1.conn.events ++ [⟨.closing failed, r.1.isOk⟩] ∧
    ∀ outcome, r.1 = .ok outcome → outcome = if failed then .rolledBack else .committed

theorem ends_iff {failed : Bool} {s : Session (Traced C) × World E}
    (henabled : s.1.transaction.enabled = true) (hdepth : s.1.transaction.depth = 1) :
    Ends failed s ↔ s.1.transaction.failed = failed := by
  obtain ⟨-, -, hevents, -, houtcome⟩ := completeGroup_outer s.2 henabled hdepth
  constructor
  · rintro ⟨hends, -⟩
    have hlast := List.append_cancel_left (hevents.symm.trans hends)
    have hcall : BackendCall.closing s.1.transaction.failed = BackendCall.closing failed :=
      congrArg BackendEvent.call (List.singleton_inj.1 hlast)
    revert hcall
    cases s.1.transaction.failed <;> cases failed <;> decide
  · rintro rfl
    exact ⟨hevents, houtcome⟩

/-! ## With the test group, and without it -/

/-- The state after a group. -/
def ended (opener : Operation) (inside : List Operation) (s : Session (Traced C) × World E) :
    Session (Traced C) × World E :=
  after (opener :: inside ++ [.completeGroup]) s

/-- The state without the group. The strict switch is no part of it, so that is where the group left
it. -/
def spared (opener : Operation) (inside : List Operation) (s : Session (Traced C) × World E) :
    Session (Traced C) × World E :=
  after [.setStrict (ended opener inside s).1.transaction.strict] s

section
variable {s t : Session (Traced C) × World E} {failed : Bool} {ops : List Operation}
  (henabled : t.1.transaction.enabled = true) (hdebug : s.1.config.debug = t.1.config.debug)
  (hflag : s.1.transaction = { t.1.transaction with failed })
include henabled hdebug hflag

/-- Two sessions that differ in the flag go on in step as long as the backend says the same. -/
theorem transaction_after_in_step (hops : .disableTransactions ∉ ops)
    (hsame : heard ops s = heard ops t) :
    (after ops s).1.transaction = { (after ops t).1.transaction with
      failed := if settled s.1.config.debug s.1.transaction (heard ops s)
        then (after ops t).1.transaction.failed else failed } := by
  have henabled' : s.1.transaction.enabled = true := by rw [hflag, ← henabled]
  rw [(transaction_after hops henabled').1, (transaction_after hops henabled).1, hsame, hdebug,
    hflag, settled_failed]
  exact follow_failed ..

/-- A group of the one is a group of the other. -/
theorem QuietGroup.in_step {before : List Operation} {opener : Operation}
    {inside : List Operation} (h : QuietGroup s before opener inside)
    (hops : .disableTransactions ∉ before ++ opener :: inside)
    (hsame : heard (before ++ opener :: inside) s = heard (before ++ opener :: inside) t) :
    QuietGroup t before opener inside := by
  -- what is true of the whole run is true of its beginnings
  have hdepth (ops rest : List Operation) (hsplit : before ++ opener :: inside = ops ++ rest) :
      (after ops s).1.transaction.depth = (after ops t).1.transaction.depth := by
    rw [hsplit] at hops hsame
    rw [transaction_after_in_step henabled hdebug hflag
      (fun hmem => hops (List.mem_append_left _ hmem)) (heard_congr hsame).1]
  refine ⟨⟨(hdepth before _ rfl).symm.trans h.closed, ?_⟩, ?_, ?_⟩
  · rintro more ⟨rest, rfl⟩
    rw [← hdepth (before ++ opener :: more) rest (by simp)]
    exact h.isOpen more ⟨rest, rfl⟩
  · rw [← hdepth _ [] (List.append_nil _).symm]
    exact h.outermost
  · rw [← (heard_congr hsame).2]
    exact h.quiet

/-- A group that is opened without test mode, and in which nothing is rejected, ends in the same way
in both, unless it asks for a flag that is still not the same. -/
theorem ends_in_step {before : List Operation} {opener : Operation} {inside : List Operation}
    (h : QuietGroup s before opener inside)
    (hops : .disableTransactions ∉ before ++ opener :: inside)
    (hplain : opener = .startGroup false ∨ opener = .beginManual false)
    (hsame : heard (before ++ opener :: inside) s = heard (before ++ opener :: inside) t) :
    (Ends false (after (before ++ opener :: inside) s) ↔
        Ends false (after (before ++ opener :: inside) t)) ↔
      opener = .beginManual false ∨ (after before s).1.transaction.strict = false ∨
        settled s.1.config.debug s.1.transaction (heard before s) = true ∨
        failed = t.1.transaction.failed := by
  have henabled' : s.1.transaction.enabled = true := by rw [hflag, ← henabled]
  have h' := h.in_step henabled hdebug hflag hops hsame
  rw [ends_iff (transaction_after hops henabled').2.2 h.outermost,
    ends_iff (transaction_after hops henabled).2.2 h'.outermost,
    h.failed_eq hops henabled', h'.failed_eq hops henabled]
  -- a group that is begun by hand asks for no flag
  rcases hplain with rfl | rfl
  · have hbefore : .disableTransactions ∉ before := fun hmem => hops (List.mem_append_left _ hmem)
    have hstep := transaction_after_in_step henabled hdebug hflag hbefore (heard_congr hsame).1
    have hkept : settled s.1.config.debug s.1.transaction (heard before s) = false →
        (after before t).1.transaction.failed = t.1.transaction.failed := by
      intro hunsettled
      rw [hflag, settled_failed, hdebug, (heard_congr hsame).1] at hunsettled
      rw [(transaction_after hbefore henabled).1]
      exact failed_follow hunsettled
    have hbools : ∀ a b c : Bool, ((a && b) = false ↔ (a && c) = false) ↔ a = false ∨ b = c := by
      decide
    show ((false || (_ && _)) = false ↔ (false || (_ && _)) = false) ↔ _
    rw [hstep]
    simp only [Bool.false_or, reduceCtorEq, false_or, hbools]
    refine or_congr Iff.rfl ?_
    cases hsettled : settled s.1.config.debug s.1.transaction (heard before s) with
    | true => simp only [↓reduceIte, true_or]
    | false => simp only [Bool.false_eq_true, ↓reduceIte, false_or, hkept hsettled]
  · exact iff_of_true Iff.rfl (.inl rfl)

end

/-- A test group leaves the flag of strict mode, and nothing else. -/
theorem transaction_ended {opener : Operation} {inside : List Operation}
    {s : Session (Traced C) × World E} (hgroup : QuietGroup s [] opener inside)
    (htest : opener = .startGroup true ∨ opener = .beginManual true)
    (hops : .disableTransactions ∉ opener :: inside) (henabled : s.1.transaction.enabled = true) :
    (after (opener :: inside) s).1.transaction.failed = true ∧
      (ended opener inside s).1.transaction = { (spared opener inside s).1.transaction with
        failed := (ended opener inside s).1.transaction.strict } := by
  have hfailed : (after (opener :: inside) s).1.transaction.failed = true := by
    rw [← List.nil_append (opener :: inside), hgroup.failed_eq hops henabled]
    rcases htest with rfl | rfl <;> rfl
  obtain ⟨-, -, henabled'⟩ := transaction_after hops henabled
  obtain ⟨-, htransaction, -⟩ :=
    completeGroup_outer (E := E) (after (opener :: inside) s).2 henabled' hgroup.outermost
  have hended : (ended opener inside s).1.transaction =
      { (after (opener :: inside) s).1.transaction with
        depth := 0, failed := (after (opener :: inside) s).1.transaction.strict } := by
    unfold ended
    rw [after_concat, perform, state_answer completeGroup .transaction]
    refine htransaction.trans ?_
    rw [hfailed, Bool.true_and]
  have hspared : (spared opener inside s).1.transaction =
      { s.1.transaction with strict := (ended opener inside s).1.transaction.strict } :=
    rfl
  have hclosed : s.1.transaction.depth = 0 := hgroup.closed
  refine ⟨hfailed, ?_⟩
  simp only [hspared, hended, henabled, henabled', hclosed]

/-- **Test groups.** A test group in which no query is rejected is rolled back. Let a later group be
opened without test mode, let no query be rejected in it either, and let the backend say the same
with the test group and without it. Then the later group is committed in both runs or in none,
exactly if it does not ask for what is remembered, or what is remembered was settled between the
groups, or the test group left the flag that it found. -/
theorem test_group_traceless_iff {s : Session (Traced C) × World E}
    {opener later : Operation} {inside between within : List Operation}
    (henabled : s.1.transaction.enabled = true)
    (hops : .disableTransactions ∉ opener :: inside)
    (hmore : .disableTransactions ∉ between ++ later :: within)
    (htest : opener = .startGroup true ∨ opener = .beginManual true)
    (hgroup : QuietGroup s [] opener inside)
    (hplain : later = .startGroup false ∨ later = .beginManual false)
    (hlater : QuietGroup (ended opener inside s) between later within)
    (hsame : heard (between ++ later :: within) (ended opener inside s) =
      heard (between ++ later :: within) (spared opener inside s)) :
    Ends true (after (opener :: inside) s) ∧
      ((Ends false (after (between ++ later :: within) (ended opener inside s)) ↔
          Ends false (after (between ++ later :: within) (spared opener inside s))) ↔
        later = .beginManual false ∨
        (after between (ended opener inside s)).1.transaction.strict = false ∨
        settled s.1.config.debug (ended opener inside s).1.transaction
          (heard between (ended opener inside s)) = true ∨
        (ended opener inside s).1.transaction.strict = s.1.transaction.failed) := by
  obtain ⟨hfailed, hflag⟩ := transaction_ended hgroup htest hops henabled
  have hwhole : .disableTransactions ∉ opener :: inside ++ [.completeGroup] := fun hmem =>
    (List.mem_append.1 hmem).elim hops (by decide)
  have hdebug : (ended opener inside s).1.config.debug = s.1.config.debug :=
    (transaction_after hwhole henabled).2.1
  refine ⟨(ends_iff (transaction_after hops henabled).2.2 hgroup.outermost).2 hfailed, ?_⟩
  rw [← hdebug]
  exact ends_in_step (t := spared opener inside s) henabled hdebug hflag hlater hmore hplain hsame

/-! ## Runs with and without a test group -/

/-- One statement, which is accepted. -/
def oneWrite : List Operation :=
  [.query "INSERT INTO t VALUES (1)" []]

/-- Outside of strict mode a test group makes no difference to the group after it. -/
theorem test_group_traceless_lenient :
    let s := after [.setStrict false] scriptedStart
    let later := .startGroup false :: oneWrite
    Ends true (after (.startGroup true :: oneWrite) s) ∧
      (Ends false (after later (ended (.startGroup true) oneWrite s)) ↔
        Ends false (after later (spared (.startGroup true) oneWrite s))) := by
  intro s later
  have hgroup : QuietGroup s [] (.startGroup true) oneWrite :=
    .of_inits (by decide +kernel) (by decide +kernel) (by decide +kernel) (by decide +kernel)
  have hlater : QuietGroup (ended (.startGroup true) oneWrite s) [] (.startGroup false) oneWrite :=
    .of_inits (by decide +kernel) (by decide +kernel) (by decide +kernel) (by decide +kernel)
  obtain ⟨hends, htraceless⟩ := test_group_traceless_iff (s := s) (by decide +kernel)
    (by decide +kernel) (by decide +kernel) (.inl rfl) hgroup (.inl rfl) hlater (by decide +kernel)
  exact ⟨hends, htraceless.2 (.inr (.inl (by decide +kernel)))⟩

/-- In strict mode it does: a group in which nothing went wrong is rolled back after a test group in
which nothing went wrong, and would have been committed without it. -/
theorem test_group_leaves_trace :
    let later := .startGroup false :: oneWrite
    let close := (completeGroup : Action (Session (Traced Scripted)) Script _).run
    (heard (.startGroup true :: oneWrite ++ .completeGroup :: later) scriptedStart).all
        (fun step => !step.2.rejected) = true ∧
      (close (after (.startGroup true :: oneWrite) scriptedStart)).1 = .ok .rolledBack ∧
      (close (after (.startGroup true :: oneWrite ++ .completeGroup :: later) scriptedStart)).1 =
        .ok .rolledBack ∧
      (close (after later scriptedStart)).1 = .ok .committed := by
  decide +kernel

end SqlGateway.Session
