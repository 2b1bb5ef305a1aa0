import Mathlib.Data.List.Induction
import Mathlib.Data.List.Infix
import SqlGateway.Backend.Scripted
import SqlGateway.Proofs.Session.Rejections

/-!
# How a group ends

A managed group is committed or rolled back as its failure flag says when its outermost level
closes. The flag is one field that every group uses after the other, so what it stands for has to be
read off the history: here it is shown to be up exactly if the group was opened with it up, or a
statement was rejected since.

The invariant is `Session.Remembers`, between the state that opened the group and any later one. It
is kept by everything that leaves the group open: inner levels and the strict switch do not touch
the flag, and a rejected statement raises it. The levels are counted on the way, since only that
tells the call that closes the group from those that close inner levels.

Main definitions:

* `Session.Remembers`: the flag went up exactly if a statement was rejected in between.
* `Session.Operation.isManaged`: the calls that runs are made of here.
* `Session.OpenSince`: a stretch of a run during which one group was open.

Main results:

* `Session.remembers_perform`: a call that leaves the group open keeps the flag right.
* `Session.opening_spec`: what the flag is when a group was opened.
* `Session.group_outcome`: how a group ends.
-/

namespace SqlGateway.Session

variable {C E : Type}

/-! ## The failure flag -/

/-- Between the two states the failure flag went up exactly if a statement was rejected. -/
def Remembers (s t : Session (Traced C)) : Prop :=
  ∃ added, t.conn.events = s.conn.events ++ added ∧
    t.transaction.failed = (s.transaction.failed || added.any BackendEvent.isRejection)

theorem Remembers.of_eq {s t : Session (Traced C)} (hevents : t.conn.events = s.conn.events)
    (hfailed : t.transaction.failed = s.transaction.failed) : Remembers s t :=
  ⟨[], by rw [hevents, List.append_nil], by rw [hfailed, List.any_nil, Bool.or_false]⟩

theorem Remembers.trans {s t u : Session (Traced C)} (hst : Remembers s t) (htu : Remembers t u) :
    Remembers s u := by
  obtain ⟨es, hes, hfailed⟩ := hst
  obtain ⟨fs, hfs, hfailed'⟩ := htu
  refine ⟨es ++ fs, by rw [hfs, hes, List.append_assoc], ?_⟩
  rw [hfailed', hfailed, List.any_append, Bool.or_assoc]

/-! ## Calls -/

/-- The calls of managed use. Commits and rollbacks by hand are not among them, nor is switching
transactions off. -/
def Operation.isManaged : Operation → Bool
  | startGroup _ | completeGroup | beginManual _ | setStrict _ | query _ _ => true
  | _ => false

/-- The settings are as the whole of this module wants them. -/
structure Ready (s : Session (Traced C)) : Prop where
  quiet : s.config.debug = false
  enabled : s.transaction.enabled = true

variable [Connection C] [Backend C E]

/-- Outside of debug mode a query leaves settings and levels alone, and a rejection is remembered
while a group is open. -/
theorem remembers_query (sql : String) (binds : List Value) {s : Session (Traced C)} (w : World E)
    (hs : s.Ready) :
    let t := ((perform (.query sql binds) : Action (Session (Traced C)) E Answer).run (s, w)).2.1
    t.config = s.config ∧ t.transaction.depth = s.transaction.depth ∧
      t.transaction.enabled = s.transaction.enabled ∧
      (0 < s.transaction.depth → Remembers s t) := by
  intro t
  have hnotices : Notices s t := notices_inquiry rfl w hs.enabled
  obtain ⟨hconfig, added, hevents, htransaction⟩ := id hnotices
  rw [hs.quiet, Transaction.reject_quiet] at htransaction
  refine ⟨hconfig, ?_, hnotices.enabled, fun hopen => ⟨added, hevents, ?_⟩⟩
  · rw [htransaction]
    split
    · exact Transaction.depth_markFailed _
    · rfl
  · rw [htransaction]
    have hisOpen : s.transaction.isOpen = true := decide_eq_true hopen
    cases added.any BackendEvent.isRejection with
    | false => exact (Bool.or_false _).symm
    | true =>
      show s.transaction.markFailed.failed = (s.transaction.failed || true)
      rw [Transaction.markFailed, if_pos hisOpen, Bool.or_true]

theorem ready_perform {op : Operation} (hmanaged : op.isManaged = true) :
    (Law.preserving Ready).Governs
      (perform op : Action (Session (Traced C)) E Answer).run := by
  intro ⟨s, w⟩ hs
  have hkeep {t : Session (Traced C)} (hconfig : t.config = s.config)
      (henabled : t.transaction.enabled = s.transaction.enabled) : t.Ready :=
    ⟨by rw [hconfig, hs.quiet], by rw [henabled, hs.enabled]⟩
  cases op with
  | startGroup test =>
    rw [perform, state_answer (startGroup test) (fun _ => .done)]
    rcases Nat.eq_zero_or_pos s.transaction.depth with hdepth | hdepth
    · obtain ⟨hconfig, htransaction, -⟩ := startGroup_outer test w hs.enabled hdepth
      exact hkeep hconfig (by rw [htransaction]; rfl)
    · rw [run_startGroup_inner test w hs.enabled hdepth]
      exact hkeep rfl rfl
  | completeGroup =>
    rw [perform, state_answer completeGroup .transaction]
    by_cases hdepth : s.transaction.depth = 1
    · obtain ⟨hconfig, htransaction, -⟩ := completeGroup_outer w hs.enabled hdepth
      exact hkeep hconfig (by rw [htransaction])
    · rw [run_completeGroup_inner w hs.enabled hdepth]
      exact hkeep rfl (Transaction.enabled_leave _)
  | beginManual test =>
    rw [perform, state_answer (beginManual test) (fun _ => .done)]
    rcases Nat.eq_zero_or_pos s.transaction.depth with hdepth | hdepth
    · obtain ⟨hconfig, htransaction, -⟩ := beginManual_outer test w hs.enabled hdepth
      exact hkeep hconfig (by rw [htransaction])
    · rw [run_beginManual_idle test w (.inr hdepth)]
      exact hs
  | setStrict strict => exact hkeep rfl rfl
  | query sql binds =>
    obtain ⟨hconfig, -, henabled, -⟩ := remembers_query sql binds w hs
    exact hkeep hconfig henabled
  | _ => cases hmanaged

/-- A call that finds a group open and leaves it open raises the flag exactly if it is a query that
is rejected. -/
theorem remembers_perform {op : Operation} (hmanaged : op.isManaged = true)
    {s : Session (Traced C)} (w : World E) (hs : s.Ready) (hopen : 0 < s.transaction.depth)
    (hstays : 0 < ((perform op : Action (Session (Traced C)) E Answer).run
      (s, w)).2.1.transaction.depth) :
    Remembers s ((perform op : Action (Session (Traced C)) E Answer).run (s, w)).2.1 := by
  cases op with
  | startGroup test =>
    rw [perform, state_answer (startGroup test) (fun _ => .done),
      run_startGroup_inner test w hs.enabled hopen]
    exact .of_eq rfl rfl
  | completeGroup =>
    rw [perform, state_answer completeGroup .transaction] at hstays ⊢
    by_cases hdepth : s.transaction.depth = 1
    · -- the call that closes the group is not within it
      obtain ⟨-, htransaction, -⟩ := completeGroup_outer w hs.enabled hdepth
      rw [htransaction] at hstays
      exact absurd hstays (Nat.lt_irrefl 0)
    · rw [run_completeGroup_inner w hs.enabled hdepth]
      exact .of_eq rfl (Transaction.failed_leave hdepth)
  | beginManual test =>
    rw [perform, state_answer (beginManual test) (fun _ => .done),
      run_beginManual_idle test w (.inr hopen)]
    exact .of_eq rfl rfl
  | setStrict strict => exact .of_eq rfl rfl
  | query sql binds =>
    obtain ⟨-, -, -, hremembers⟩ := remembers_query sql binds w hs
    exact hremembers hopen
  | _ => cases hmanaged

/-- The failure flag of a group that the call opens. A manual transaction forgets what a strict one
would keep. -/
def Operation.opensFailed (t : Transaction) : Operation → Bool
  | startGroup test => test || (t.strict && t.failed)
  | beginManual test => test
  | _ => false

/-- A call that opened a group sent no statement, and left the flag as its arguments say. -/
theorem opening_spec {op : Operation} (hmanaged : op.isManaged = true)
    {s : Session (Traced C)} (w : World E) (hs : s.Ready) (hclosed : s.transaction.depth = 0)
    (hopens : 0 < ((perform op : Action (Session (Traced C)) E Answer).run
      (s, w)).2.1.transaction.depth) :
    let t := ((perform op : Action (Session (Traced C)) E Answer).run (s, w)).2.1
    t.transaction.failed = op.opensFailed s.transaction ∧
      ∃ added, t.conn.events = s.conn.events ++ added ∧
        added.any BackendEvent.isRejection = false := by
  have hadds {ms : List Mark} {t : Session (Traced C)} (h : Adds ms s t) :
      ∃ added, t.conn.events = s.conn.events ++ added ∧
        added.any BackendEvent.isRejection = false := by
    obtain ⟨added, hevents, -, hnone⟩ := h
    refine ⟨added, hevents, List.any_eq_false.2 fun e he => ?_⟩
    rw [BackendEvent.isRejection, hnone e he]
    exact Bool.false_ne_true
  cases op with
  | startGroup test =>
    rw [perform, state_answer (startGroup test) (fun _ => .done)] at hopens ⊢
    obtain ⟨-, htransaction, h⟩ := startGroup_outer test w hs.enabled hclosed
    exact ⟨by rw [htransaction]; rfl, hadds h⟩
  | beginManual test =>
    rw [perform, state_answer (beginManual test) (fun _ => .done)] at hopens ⊢
    obtain ⟨-, htransaction, h⟩ := beginManual_outer test w hs.enabled hclosed
    exact ⟨by rw [htransaction]; rfl, hadds h⟩
  | completeGroup =>
    rw [perform, state_answer completeGroup .transaction] at hopens
    rw [run_completeGroup_inner w hs.enabled (by omega)] at hopens
    have hopens : 0 < s.transaction.leave.2.depth := hopens
    rw [Transaction.depth_leave] at hopens
    omega
  | setStrict strict =>
    have hopens : 0 < s.transaction.depth := hopens
    omega
  | query sql binds =>
    obtain ⟨-, hdepth, -, -⟩ := remembers_query sql binds w hs
    omega
  | _ => cases hmanaged

/-! ## Groups in a run -/

/-- What was added to the trace since an earlier state. -/
def eventsSince (start s : Session (Traced C)) : List BackendEvent :=
  s.conn.events.drop start.conn.events.length

omit [Connection C] [Backend C E] in
theorem eventsSince_of_append {start s : Session (Traced C)} {added : List BackendEvent}
    (h : s.conn.events = start.conn.events ++ added) : eventsSince start s = added := by
  unfold eventsSince
  rw [h, List.drop_left]

/-- The run opened a group with the call `opener`, and the group was open all through what it did
from then on. -/
structure OpenSince (s : Session (Traced C) × World E) (before : List Operation)
    (opener : Operation) (inside : List Operation) : Prop where
  closed : (after before s).1.transaction.depth = 0
  isOpen : ∀ more, more <+: inside →
    0 < (after (before ++ opener :: more) s).1.transaction.depth

/-- A group that is open was opened somewhere. -/
theorem exists_openSince {s : Session (Traced C) × World E} (hs : s.1.transaction.depth = 0)
    {ops : List Operation} (hopen : 0 < (after ops s).1.transaction.depth) :
    ∃ before opener inside, ops = before ++ opener :: inside ∧
      OpenSince s before opener inside := by
  induction ops using List.reverseRecOn with
  | nil =>
    rw [after_nil] at hopen
    omega
  | append_singleton ops op ih =>
    -- either the last call opened the group, or the group was open before it
    rcases Nat.eq_zero_or_pos (after ops s).1.transaction.depth with hdepth | hdepth
    · refine ⟨ops, op, [], rfl, hdepth, fun more hmore => ?_⟩
      rw [List.prefix_nil.1 hmore]
      exact hopen
    · obtain ⟨before, opener, inside, rfl, hsince⟩ := ih hdepth
      refine ⟨before, opener, inside ++ [op], by simp, hsince.closed, fun more hmore => ?_⟩
      rcases List.prefix_concat_iff.1 hmore with rfl | hmore
      · rw [List.append_assoc, List.cons_append] at hopen
        exact hopen
      · exact hsince.isOpen more hmore

/-- Managed calls keep the settings, however many there are. -/
theorem ready_after {s : Session (Traced C) × World E} {ops : List Operation}
    (hmanaged : ∀ op ∈ ops, op.isManaged = true) (hs : s.1.Ready) : (after ops s).1.Ready :=
  rel_after (fun op hop => ready_perform (hmanaged op hop)) s hs

/-- From the call that opened a group on, the flag is remembered. -/
theorem remembers_after {s : Session (Traced C) × World E} {before : List Operation}
    {opener : Operation} {inside : List Operation}
    (hmanaged : ∀ op ∈ before ++ opener :: inside, op.isManaged = true) (hs : s.1.Ready)
    (hsince : OpenSince s before opener inside) :
    Remembers (after (before ++ [opener]) s).1 (after (before ++ opener :: inside) s).1 := by
  induction inside using List.reverseRecOn with
  | nil => exact .of_eq rfl rfl
  | append_singleton inside op ih =>
    -- the group is open on both sides of the last call, so that call did not close it
    have hsplit : before ++ opener :: (inside ++ [op]) = (before ++ opener :: inside) ++ [op] := by
      simp
    have hsooner : inside <+: inside ++ [op] := List.prefix_append _ _
    have hmanaged' : ∀ o ∈ before ++ opener :: inside, o.isManaged = true := fun o ho =>
      hmanaged o (by rw [hsplit]; exact List.mem_append_left _ ho)
    have hopen := hsince.isOpen inside hsooner
    have hstays := hsince.isOpen (inside ++ [op]) (List.prefix_refl _)
    have hbefore := ih hmanaged' ⟨hsince.closed, fun more hmore =>
      hsince.isOpen more (hmore.trans hsooner)⟩
    rw [hsplit, after_concat (before ++ opener :: inside)] at hstays ⊢
    exact hbefore.trans (remembers_perform (hmanaged op (by simp)) _ (ready_after hmanaged' hs)
      hopen hstays)

/-- The flag says how the group was opened and whether a statement was rejected since. -/
theorem failed_eq {s : Session (Traced C) × World E} {before : List Operation}
    {opener : Operation} {inside : List Operation}
    (hmanaged : ∀ op ∈ before ++ opener :: inside, op.isManaged = true) (hs : s.1.Ready)
    (hsince : OpenSince s before opener inside) :
    (after (before ++ opener :: inside) s).1.transaction.failed =
      (opener.opensFailed (after before s).1.transaction ||
        (eventsSince (after before s).1 (after (before ++ opener :: inside) s).1).any
          BackendEvent.isRejection) := by
  -- the trace since the opening is what the opener added, then what was added inside
  have hbefore : (after before s).1.Ready :=
    ready_after (fun op hop => hmanaged op (List.mem_append_left _ hop)) hs
  have hopens := hsince.isOpen [] List.nil_prefix
  rw [after_concat] at hopens
  obtain ⟨hfailed, opening, hopening, hquiet⟩ :=
    opening_spec (hmanaged opener (by simp)) _ hbefore hsince.closed hopens
  obtain ⟨added, hadded, hremembered⟩ := remembers_after hmanaged hs hsince
  rw [after_concat] at hadded hremembered
  have hsplit : (after (before ++ opener :: inside) s).1.conn.events =
      (after before s).1.conn.events ++ (opening ++ added) := by
    rw [hadded, ← List.append_assoc]
    exact congrArg (· ++ added) hopening
  rw [eventsSince_of_append hsplit, List.any_append, hquiet, Bool.false_or, hremembered]
  exact congrArg (· || added.any BackendEvent.isRejection) hfailed

/-- What keeps a group from being committed: a statement that was rejected since it was opened, a
call that opened it as a test, or a strict start over a failure that was still remembered. -/
def Doomed (opened : Session (Traced C)) (opener : Operation) (s : Session (Traced C)) : Prop :=
  (∃ e ∈ eventsSince opened s, e.isRejection = true) ∨
    (opener = .startGroup true ∨ opener = .beginManual true) ∨
      ((∃ test, opener = .startGroup test) ∧
        opened.transaction.strict = true ∧ opened.transaction.failed = true)

omit [Connection C] [Backend C E] in
theorem opensFailed_or_any_iff (opened s : Session (Traced C)) (opener : Operation) :
    (opener.opensFailed opened.transaction ||
      (eventsSince opened s).any BackendEvent.isRejection) = true ↔ Doomed opened opener s := by
  unfold Doomed
  rw [Bool.or_eq_true, List.any_eq_true, or_comm]
  refine or_congr Iff.rfl ?_
  cases opener with
  | startGroup test => simp [Operation.opensFailed]
  | beginManual test => simp [Operation.opensFailed]
  | _ => simp [Operation.opensFailed]

/-- **Group outcome.** Outside of debug mode, after any run of managed calls that leaves one level
open, the call that closes it rolls the group back exactly if the group is doomed, and commits it
exactly if it is not. -/
theorem group_outcome (config : ConnectionConfig) (conn : C) (w : World E) (ops : List Operation)
    (hdebug : config.debug = false) (henabled : config.transactions = true)
    (hmanaged : ∀ op ∈ ops, op.isManaged = true)
    (hdepth : (after ops (create config (Traced.untouched conn), w)).1.transaction.depth = 1)
    (hanswers : ∀ failed, ((closeGroup failed : Action C E Unit).run
      ((after ops (create config (Traced.untouched conn), w)).1.conn.conn,
        (after ops (create config (Traced.untouched conn), w)).2)).1.isOk = true) :
    let start := (create config (Traced.untouched conn), w)
    let s := after ops start
    let r := (completeGroup : Action (Session (Traced C)) E _).run s
    (∃ before opener inside, ops = before ++ opener :: inside ∧
      OpenSince start before opener inside) ∧
    ∀ before opener inside, ops = before ++ opener :: inside →
      OpenSince start before opener inside →
      ((r.1 = .ok .rolledBack ∧ r.2.1.conn.events = s.1.conn.events ++ [⟨.rollback, true⟩]) ↔
        Doomed (after before start).1 opener s.1) ∧
      ((r.1 = .ok .committed ∧ r.2.1.conn.events = s.1.conn.events ++ [⟨.commit, true⟩]) ↔
        ¬Doomed (after before start).1 opener s.1) := by
  intro start s r
  have hstart : start.1.Ready := ⟨hdebug, henabled⟩
  have hs : s.1.Ready := ready_after hmanaged hstart
  refine ⟨exists_openSince rfl (by rw [hdepth]; exact Nat.one_pos), ?_⟩
  rintro before opener inside rfl hsince
  have hfailed := failed_eq hmanaged hstart hsince
  rw [← opensFailed_or_any_iff, ← hfailed]
  obtain ⟨-, -, hevents, hisOk, houtcome⟩ := completeGroup_outer s.2 hs.enabled hdepth
  have hisOk : r.1.isOk = true := hisOk.trans (hanswers _)
  have hanswer : r.1 = .ok (if s.1.transaction.failed then .rolledBack else .committed) := by
    cases hr : r.1 with
    | ok outcome => exact congrArg Except.ok (houtcome outcome hr)
    | error e => rw [hr] at hisOk; cases hisOk
  have hevents : r.2.1.conn.events =
      s.1.conn.events ++ [⟨.closing s.1.transaction.failed, r.1.isOk⟩] := hevents
  rw [hisOk] at hevents
  show ((r.1 = _ ∧ r.2.1.conn.events = _) ↔ s.1.transaction.failed = true) ∧
    ((r.1 = _ ∧ r.2.1.conn.events = _) ↔ ¬s.1.transaction.failed = true)
  rw [hanswer, hevents]
  cases s.1.transaction.failed with
  | true => simp [BackendCall.closing]
  | false => simp [BackendCall.closing]

/-- A server that rejects what contains a word. -/
def rejectingWorld : World Script :=
  ⟨.empty, ⟨[], [⟨"BAD", 1, "no", .query⟩], [], []⟩⟩

/-- A statement is rejected within a group, and an inner level is opened and closed after that. -/
def rejectedRun : List Operation :=
  [.startGroup false, .query "BAD" [], .startGroup true, .completeGroup]

/-- The group of that run is rolled back, though the inner level closed well. -/
theorem group_outcome_rejectedRun :
    let config := ConnectionConfig.ofKind "mock"
    let s := after rejectedRun
      (create config (Traced.untouched (Scripted.ofDialect .sqlite)), rejectingWorld)
    let r := (completeGroup : Action (Session (Traced Scripted)) Script _).run s
    config.debug = false ∧ config.transactions = true ∧
      (∀ op ∈ rejectedRun, op.isManaged = true) ∧ s.1.transaction.depth = 1 ∧
      (∀ failed, ((closeGroup failed : Action Scripted Script Unit).run
        (s.1.conn.conn, s.2)).1.isOk = true) ∧
      r.1 = .ok .rolledBack ∧ r.2.1.conn.events = s.1.conn.events ++ [⟨.rollback, true⟩] := by
  have hmanaged : ∀ op ∈ rejectedRun, op.isManaged = true := by decide
  have hdepth : (after rejectedRun (create (ConnectionConfig.ofKind "mock") (Traced.untouched
      (Scripted.ofDialect .sqlite)), rejectingWorld)).1.transaction.depth = 1 := by
    decide +kernel
  have hanswers : ∀ failed, ((closeGroup failed : Action Scripted Script Unit).run
      ((after rejectedRun (create (ConnectionConfig.ofKind "mock") (Traced.untouched
        (Scripted.ofDialect .sqlite)), rejectingWorld)).1.conn.conn,
      (after rejectedRun (create (ConnectionConfig.ofKind "mock") (Traced.untouched
        (Scripted.ofDialect .sqlite)), rejectingWorld)).2)).1.isOk = true := by
    decide +kernel
  have hsince : OpenSince (create (ConnectionConfig.ofKind "mock") (Traced.untouched
      (Scripted.ofDialect .sqlite)), rejectingWorld) [] (.startGroup false)
      [.query "BAD" [], .startGroup true, .completeGroup] := by
    refine ⟨rfl, fun more hmore => ?_⟩
    rw [← List.mem_inits] at hmore
    revert more
    decide +kernel
  have houtcome := group_outcome (ConnectionConfig.ofKind "mock") (Scripted.ofDialect .sqlite)
    rejectingWorld rejectedRun rfl rfl hmanaged hdepth hanswers
  -- the doom of this group is the statement that was rejected
  have hrolledBack := (houtcome.2 [] _ _ rfl hsince).1.2 (.inl (by decide +kernel))
  exact ⟨rfl, rfl, hmanaged, hdepth, hanswers, hrolledBack.1, hrolledBack.2⟩

end SqlGateway.Session
