import SqlGateway.Proofs.Session.Alternation
import SqlGateway.Proofs.Session.GroupOutcome
import SqlGateway.Proofs.Session.Steadfast

/-!
# What an open group holds

A group is open as long as the session counts levels, and what is sent meanwhile is meant to be part
of one transaction. It is, as far as beginnings and ends go: the transaction was begun by the call
that opened the group, and it is not ended before the group is. But a transaction lives no longer
than its connection, and closing a connection leaves the counted levels as they are. So statements
of an open group are part of its transaction exactly as long as the connection was not closed.

The invariant is `Session.Held`, between the state that opened the group and any later one. A query
that fails in debug mode ends the transaction and closes the group, and it is the last thing that
its operation does; this is why the contract `Session.holding` tells failures from successes.

Main definitions:

* `Session.holding`: what an operation may do to the transaction of an open group.
* `Session.Held`: what happened since the group was opened.
* `Session.inTransaction`: whether a transaction is open on the connection.

Main result:

* `Session.group_held`: which statements of a group are part of its transaction.
-/

namespace SqlGateway

namespace Session

variable {C E α : Type}

/-! ## The transaction of a group -/

/-- Levels are only closed, and what is sent when the last one closes is no statement. -/
def closing (C : Type) : Law (Session (Traced C)) where
  rel s t := t.transaction.depth ≤ s.transaction.depth ∧
    ∃ added, t.conn.events = s.conn.events ++ added ∧ (∀ e ∈ added, e.statement? = none) ∧
      (0 < t.transaction.depth → added = [])
  refl s := ⟨Nat.le_refl _, [], by simp, by simp, fun _ => rfl⟩
  trans := by
    rintro s t u ⟨hst, es, hes, hnone, hopen⟩ ⟨htu, fs, hfs, hnone', hopen'⟩
    refine ⟨htu.trans hst, es ++ fs, by rw [hfs, hes, List.append_assoc], fun e he => ?_,
      fun hu => ?_⟩
    · exact (List.mem_append.1 he).elim (hnone e) (hnone' e)
    · rw [hopen (Nat.lt_of_lt_of_le hu htu), hopen' hu, List.append_nil]

/-- What succeeds neither ends a transaction nor closes a level. What fails may close levels at the
end, and sends nothing after that. -/
def holding (C : Type) : Contract (Session (Traced C)) where
  done :=
    { rel := fun s t => t.transaction.depth = s.transaction.depth ∧
        (Traced.appending fun e => e.mark? = none).rel s.conn t.conn
      refl := fun s => ⟨rfl, Law.refl _ _⟩
      trans := fun hst htu => ⟨htu.1.trans hst.1, Law.trans _ hst.2 htu.2⟩ }
  failed s t := ∃ u : Session (Traced C), (u.transaction.depth = s.transaction.depth ∧
    (Traced.appending fun e => e.mark? = none).rel s.conn u.conn) ∧ (closing C).rel u t
  failed_of_done {s t} h := ⟨t, h, (closing C).refl t⟩
  trans := by
    rintro s t u ⟨hdepth, hevents⟩ ⟨v, ⟨hdepth', hevents'⟩, hclosing⟩
    exact ⟨v, ⟨hdepth'.trans hdepth, Law.trans _ hevents hevents'⟩, hclosing⟩

theorem holding_done_of_upkeep {s t : Session (Traced C)}
    (h : (upkeep (Traced.appending fun e => e.mark? = none)).rel s t) :
    (holding C).done.rel s t :=
  ⟨by rw [h.2.1], h.2.2⟩

variable [Connection C] [Backend C E]

theorem governs_completeGroup_closing :
    (closing C).Governs (completeGroup : Action (Session (Traced C)) E _).run := by
  intro ⟨s, w⟩
  by_cases henabled : s.transaction.enabled = true
  · by_cases hdepth : s.transaction.depth = 1
    · obtain ⟨-, htransaction, hevents, -⟩ := completeGroup_outer w henabled hdepth
      refine ⟨by rw [htransaction]; exact Nat.zero_le _, _, hevents, fun e he => ?_,
        fun hopen => ?_⟩
      · rw [List.mem_singleton.1 he, statement?_closing]
      · rw [htransaction] at hopen
        exact absurd hopen (Nat.lt_irrefl 0)
    · rw [run_completeGroup_inner w henabled hdepth]
      refine ⟨?_, [], by simp, by simp, fun _ => rfl⟩
      show s.transaction.leave.2.depth ≤ s.transaction.depth
      rw [Transaction.depth_leave]
      exact Nat.sub_le _ _
  · rw [run_completeGroup_disabled w (Bool.eq_false_iff.2 henabled)]
    exact (closing C).refl s

theorem governs_endManual_closing (failed : Bool) :
    (closing C).Governs
      (endManual (closeGroup failed) : Action (Session (Traced C)) E Unit).run := by
  intro ⟨s, w⟩
  by_cases hidle : s.transaction.enabled = false ∨ s.transaction.depth ≠ 1
  · rw [run_endManual_idle _ w hidle]
    exact (closing C).refl s
  · obtain ⟨henabled, hdepth⟩ := not_or.1 hidle
    obtain ⟨-, htransaction, hevents⟩ :=
      endManual_outer failed w (eq_true_of_ne_false henabled) (not_not.1 hdepth)
    refine ⟨by rw [htransaction]; exact Nat.zero_le _, _, hevents, fun e he => ?_, fun hopen => ?_⟩
    · rw [List.mem_singleton.1 he, statement?_closing]
    · rw [htransaction] at hopen
      exact absurd hopen (Nat.lt_irrefl 0)

/-- A rejected statement is the last one of its operation, and levels are closed after it. -/
theorem meets_dispatch_holding (sql : String) :
    (holding C).Meets (dispatch sql : Action (Session (Traced C)) E _) := by
  have hexecute : (holding C).done.Governs
      (onConn (Backend.execute sql) : Action (Session (Traced C)) E _).run :=
    Law.Governs.mono (governs_onConn (Traced.governs_noting fun _ => rfl))
      fun _ _ => holding_done_of_upkeep
  refine .bind (.of_governs (.run_attempt hexecute)) fun outcome => ?_
  refine .bind (.modifySubject fun s => ⟨rfl, Law.refl _ _⟩) fun _ => ?_
  cases outcome with
  | ok handle? => exact .pure
  | error e =>
    refine .act_throw fun s => ⟨s.1, (holding C).done.refl s.1, ?_⟩
    refine governs_reject (fun t => ?_) governs_completeGroup_closing s
    exact ⟨(Transaction.depth_markFailed _).le, [], by simp, by simp, fun _ => rfl⟩

theorem served_holding : Served E (holding C) :=
  have htended : Tended E (upkeep (Traced.appending fun e => e.mark? = none)) :=
    .of_upkept (C := Traced C) (Traced.upkept fun _ => BackendEvent.mark?_of_isUpkeep)
  have hconnect := (governs_connect htended).mono fun _ _ => holding_done_of_upkeep
  have hreconnect := governs_reconnect (governs_connect htended) htended.reconnect
  have hexecute (sql : String) : (holding C).done.Governs
      (onConn (Backend.execute sql) : Action (Session (Traced C)) E _).run :=
    Law.Governs.mono (governs_onConn (Traced.governs_noting fun _ => rfl))
      fun _ _ => holding_done_of_upkeep
  { query := fun _ _ => meets_query
      (fun _ _ h => holding_done_of_upkeep (upkeep_of_unchanged h))
      fun sql => meets_send (.of_governs hconnect) (fun _ _ _ => ⟨rfl, Law.refl _ _⟩)
        (meets_dispatch_holding sql)
    names := fun _ _ => ⟨rfl, Law.refl _ _⟩
    connect := .of_governs hconnect
    reconnect := .of_governs (hreconnect.mono fun _ _ => holding_done_of_upkeep)
    runDirect := fun sql => .of_governs (governs_runDirect hconnect (hexecute sql))
    store := governs_onStore.mono fun _ _ => holding_done_of_upkeep }

/-- The operation opens a group if none is open. -/
def Operation.isOpening : Operation → Bool
  | startGroup _ | beginManual _ => true
  | _ => false

/-- Opening a group asks no queries. -/
theorem Operation.isInquiry_of_isOpening {op : Operation} (h : op.isOpening = true) :
    op.isInquiry = false := by
  cases op with
  | startGroup | beginManual => rfl
  | _ => cases h

theorem failed_perform_holding {op : Operation} (hop : op.isOpening = false)
    (s : Session (Traced C)) (w : World E) :
    (holding C).failed s ((perform op : Action (Session (Traced C)) E Answer).run (s, w)).2.1 := by
  have hclosing {t : Session (Traced C)} (h : (closing C).rel s t) : (holding C).failed s t :=
    ⟨s, (holding C).done.refl s, h⟩
  cases hother : op.isTransactional with
  | false =>
    have htended : Tended E (upkeep (Traced.appending fun e => e.mark? = none)) :=
      .of_upkept (C := Traced C) (Traced.upkept fun _ => BackendEvent.mark?_of_isUpkeep)
    refine (meets_perform served_holding hother (fun _ => ?_) fun f hf s => ?_).ends (s, w)
    · exact (governs_close htended).mono fun _ _ => holding_done_of_upkeep
    · obtain ⟨hconn, hdepth⟩ := Operation.edit?_spec hf s
      exact ⟨hdepth, [], by rw [hconn, List.append_nil], by simp⟩
  | true =>
    cases op with
    | completeGroup =>
      rw [perform, state_answer completeGroup .transaction]
      exact hclosing (governs_completeGroup_closing (s, w))
    | commitManual =>
      rw [perform, state_answer commitManual (fun _ => .done)]
      exact hclosing (governs_endManual_closing false (s, w))
    | rollbackManual =>
      rw [perform, state_answer rollbackManual (fun _ => .done)]
      exact hclosing (governs_endManual_closing true (s, w))
    | startGroup | beginManual => cases hop
    | _ => cases hother

/-- An operation on an open group neither begins nor ends a transaction before the last statement
that it sends, and not at all if it leaves the group open. -/
theorem perform_open (op : Operation) {s : Session (Traced C)} (w : World E)
    (hopen : 0 < s.transaction.depth) :
    let t := ((perform op : Action (Session (Traced C)) E Answer).run (s, w)).2.1
    ∃ inside rest, t.conn.events = s.conn.events ++ (inside ++ rest) ∧
      (∀ e ∈ inside, e.mark? = none) ∧ (∀ e ∈ rest, e.statement? = none) ∧
      (0 < t.transaction.depth → rest = []) := by
  intro t
  cases hop : op.isOpening with
  | true =>
    -- an inner level is opened without the backend
    have hinner : op.isInner s.transaction = true := by
      cases op with
      | startGroup | beginManual => exact decide_eq_true hopen
      | _ => cases hop
    have hconn : t.conn = s.conn := conn_perform_of_isInner w hinner
    exact ⟨[], [], by rw [hconn]; simp, by simp, by simp, fun _ => rfl⟩
  | false =>
    obtain ⟨u, ⟨-, inside, hinside, hunmarked⟩, -, rest, hrest, hnone, hclosed⟩ :=
      failed_perform_holding hop s w
    refine ⟨inside, rest, ?_, hunmarked, hnone, hclosed⟩
    rw [← List.append_assoc, ← hinside]
    exact hrest

/-- Only opening opens. -/
theorem isOpening_of_perform {op : Operation} {s : Session (Traced C)} {w : World E}
    (hclosed : s.transaction.depth = 0)
    (hopens : 0 < ((perform op : Action (Session (Traced C)) E Answer).run
      (s, w)).2.1.transaction.depth) : op.isOpening = true := by
  by_contra hop
  obtain ⟨u, ⟨hdepth, -⟩, hle, -⟩ := failed_perform_holding (Bool.eq_false_iff.2 hop) s w
  omega

/-! ## Opening -/

/-- A transaction that could be started was begun last, and its connection is open. -/
theorem startPhysical_ok {s t : Session (Traced C)} {w w' : World E}
    (hr : (startPhysical : Action (Session (Traced C)) E Unit).run (s, w) = (.ok (), t, w')) :
    (∃ earlier, t.conn.events = earlier ++ [⟨.startTransaction, true⟩]) ∧
      (Steadfast C E → t.isConnected = true) := by
  have hstart {s t : Session (Traced C)} {w w' : World E}
      (hr : (call Backend.startTransaction : Action (Session (Traced C)) E Unit).run (s, w) =
        (.ok (), t, w')) : ∃ earlier, t.conn.events = earlier ++ [⟨.startTransaction, true⟩] := by
    obtain ⟨conn, ht⟩ := call_startTransaction s w
    rw [hr] at ht
    exact ⟨s.conn.events, congrArg (fun s => s.conn.events) ht⟩
  unfold startPhysical at hr
  rw [run_unless_connect_bind, Action.run_bind_apply] at hr
  rcases hconnect : (connect : Action (Session (Traced C)) E Unit).run (s, w) with ⟨e | u, v, w₁⟩
  · rw [hconnect] at hr
    cases hr
  · rw [hconnect] at hr
    have hkept (h : Steadfast C E) : (keepingOpen C).Governs
        (call Backend.startTransaction : Action (Session (Traced C)) E Unit).run :=
      governs_call (governs_onConn_keepingOpen (fun _ => rfl) h.startTransaction)
    exact ⟨hstart hr, fun h => ((hkept h).rel_of_eq hr (isConnected_connect h hconnect)).1⟩

/-- The call that opened a group began its transaction, on an open connection. -/
theorem perform_opening {op : Operation} {s : Session (Traced C)} {w : World E}
    (hclosed : s.transaction.depth = 0)
    (hopens : 0 < ((perform op : Action (Session (Traced C)) E Answer).run
      (s, w)).2.1.transaction.depth) :
    let t := ((perform op : Action (Session (Traced C)) E Answer).run (s, w)).2.1
    (∃ earlier, t.conn.events = earlier ++ [⟨.startTransaction, true⟩]) ∧
      (Steadfast C E → t.isConnected = true) := by
  have hidle {t : Session (Traced C)} (ht : t = s) : ¬0 < t.transaction.depth := by
    rw [ht, hclosed]
    exact Nat.lt_irrefl 0
  have hopening := isOpening_of_perform hclosed hopens
  cases op with
  | startGroup test =>
    rw [perform, state_answer (startGroup test) (fun _ => .done)] at hopens ⊢
    by_cases henabled : s.transaction.enabled = true
    · rw [run_startGroup_outer test w henabled hclosed] at hopens ⊢
      rcases hstart : (startPhysical : Action (Session (Traced C)) E Unit).run
        ({ s with transaction := s.transaction.enterOuter test }, w) with ⟨e | u, t, w'⟩
      · rw [hstart] at hopens
        exact absurd hopens (Nat.lt_irrefl 0)
      · exact startPhysical_ok hstart
    · rw [run_startGroup_disabled test w (Bool.eq_false_iff.2 henabled)] at hopens
      exact absurd hopens (hidle rfl)
  | beginManual test =>
    rw [perform, state_answer (beginManual test) (fun _ => .done)] at hopens ⊢
    by_cases henabled : s.transaction.enabled = true
    · rw [run_beginManual_outer test w henabled hclosed] at hopens ⊢
      rcases hstart : (startPhysical : Action (Session (Traced C)) E Unit).run
        ({ s with transaction := { s.transaction with failed := test } }, w) with ⟨e | u, t, w'⟩
      · -- a start that goes wrong leaves the depth as it was
        obtain ⟨-, htransaction, -⟩ :=
          startPhysical_spec { s with transaction := { s.transaction with failed := test } } w
        rw [hstart] at hopens htransaction
        have hopens : 0 < t.transaction.depth := hopens
        have htransaction : t.transaction = { s.transaction with failed := test } := htransaction
        rw [htransaction] at hopens
        exact absurd hopens (hidle rfl)
      · obtain ⟨hbegun, hopen⟩ := startPhysical_ok hstart
        exact ⟨hbegun, hopen⟩
    · rw [run_beginManual_idle test w (.inl (Bool.eq_false_iff.2 henabled))] at hopens
      exact absurd hopens (hidle rfl)
  | _ => cases hopening

/-! ## Runs -/

/-- What happened since the group was opened: nothing that begins or ends a transaction, and nothing
that opens or closes the connection unless that was asked for. -/
structure Held (E : Type) [Backend C E] (opened s : Session (Traced C)) (inside : List Operation)
    (since : List BackendEvent) : Prop where
  events : s.conn.events = opened.conn.events ++ since
  unmarked : ∀ e ∈ since, e.mark? = none
  kept : Steadfast C E → .close ∉ inside → s.isConnected = true ∧ ∀ e ∈ since, e.isSwitch = false
  given : Steadfast C E → .close ∈ inside → ∃ e ∈ since, e.isSwitch = true

/-- Closing an open connection is a call on the backend. -/
theorem perform_close {s : Session (Traced C)} (w : World E) (hopen : s.isConnected = true) :
    ((perform .close : Action (Session (Traced C)) E Answer).run (s, w)).2.1.conn.events =
      s.conn.events ++ [⟨.close, true⟩] := by
  rw [perform, state_answer (Effect.act close) (fun _ => .done), Action.run_act_apply]
  unfold close
  rw [Effect.bind_apply, Effect.subject_apply]
  simp only [hopen, ↓reduceIte]
  rfl

/-- An operation that leaves the group open holds on to what was held. -/
theorem Held.concat {opened s : Session (Traced C)} {inside : List Operation}
    {since : List BackendEvent} (h : Held E opened s inside since) (op : Operation) (w : World E)
    (hopen : 0 < s.transaction.depth)
    (hstays : 0 < ((perform op : Action (Session (Traced C)) E Answer).run
      (s, w)).2.1.transaction.depth) :
    ∃ since', Held E opened ((perform op : Action (Session (Traced C)) E Answer).run (s, w)).2.1
      (inside ++ [op]) since' := by
  obtain ⟨added, rest, hadded, hunmarked, -, hrest⟩ := perform_open op w hopen
  rw [hrest hstays, List.append_nil] at hadded
  refine ⟨since ++ added, by rw [hadded, h.events, List.append_assoc], fun e he => ?_,
    fun hC hclose => ?_, fun hC hclose => ?_⟩
  · exact (List.mem_append.1 he).elim (h.unmarked e) (hunmarked e)
  · rw [List.mem_append, List.mem_singleton, not_or] at hclose
    obtain ⟨hconnected, hsince⟩ := h.kept hC hclose.1
    obtain ⟨hconnected', more, hmore, hswitch⟩ :=
      governs_perform_keepingOpen hC (Ne.symm hclose.2) (s, w) hconnected
    obtain rfl : added = more := List.append_cancel_left (hadded.symm.trans hmore)
    exact ⟨hconnected', fun e he => (List.mem_append.1 he).elim (hsince e) (hswitch e)⟩
  · by_cases hearlier : .close ∈ inside
    · obtain ⟨e, he, hswitch⟩ := h.given hC hearlier
      exact ⟨e, List.mem_append_left _ he, hswitch⟩
    · -- the first call that closes finds the connection open
      obtain rfl : .close = op :=
        List.mem_singleton.1 ((List.mem_append.1 hclose).resolve_left hearlier)
      have hclosed := perform_close w (h.kept hC hearlier).1
      rw [hclosed] at hadded
      obtain rfl := List.append_cancel_left hadded
      exact ⟨⟨.close, true⟩, by simp, rfl⟩

/-- From the call that opened a group on, its transaction is held. -/
theorem held_after {s : Session (Traced C) × World E} {before : List Operation}
    {opener : Operation} {inside : List Operation} (hsince : OpenSince s before opener inside) :
    ∃ since, Held E (after (before ++ [opener]) s).1 (after (before ++ opener :: inside) s).1
      inside since := by
  have hopens := hsince.isOpen [] List.nil_prefix
  rw [after_concat] at hopens
  obtain ⟨-, hconnected⟩ := perform_opening hsince.closed hopens
  induction inside using List.reverseRecOn with
  | nil =>
    refine ⟨[], by simp, by simp, fun hC _ => ⟨?_, by simp⟩, fun _ h => nomatch h⟩
    rw [after_concat]
    exact hconnected hC
  | append_singleton inside op ih =>
    have hsplit : before ++ opener :: (inside ++ [op]) = (before ++ opener :: inside) ++ [op] := by
      simp
    have hsooner : inside <+: inside ++ [op] := List.prefix_append _ _
    obtain ⟨since, hheld⟩ :=
      ih ⟨hsince.closed, fun more hmore => hsince.isOpen more (hmore.trans hsooner)⟩
    have hstays := hsince.isOpen (inside ++ [op]) (List.prefix_refl _)
    rw [hsplit, after_concat (before ++ opener :: inside)] at hstays ⊢
    exact hheld.concat op _ (hsince.isOpen inside hsooner) hstays

/-- Whether a transaction is open on the connection after these calls: one was begun, it was not
ended since, and the connection is still the one it was begun on. -/
def inTransaction (events : List BackendEvent) : Bool :=
  events.foldl (fun isIn e => match e.mark? with
    | some .begun => true
    | some .ended => false
    | none => isIn && !e.isSwitch) false

omit [Connection C] [Backend C E] in
/-- After a beginning it is for the calls on the connection to tell. -/
theorem inTransaction_begun (earlier : List BackendEvent) {since : List BackendEvent}
    (h : ∀ e ∈ since, e.mark? = none) :
    inTransaction (earlier ++ ⟨.startTransaction, true⟩ :: since) = true ↔
      ∀ e ∈ since, e.isSwitch = false := by
  induction since using List.reverseRecOn with
  | nil => simp [inTransaction, BackendEvent.mark?]
  | append_singleton since e ih =>
    have hconcat (events : List BackendEvent) : inTransaction (events ++ [e]) =
        (inTransaction events && !e.isSwitch) := by
      unfold inTransaction
      rw [List.foldl_append, List.foldl_cons, List.foldl_nil, h e (by simp)]
    rw [← List.cons_append, ← List.append_assoc, hconcat, Bool.and_eq_true,
      ih fun e he => h e (List.mem_append_left _ he), Bool.not_eq_true']
    simp only [List.forall_mem_append, List.forall_mem_singleton]

/-- **Statements of a group.** While a level is open, no statement is sent but between the beginning
of the group's transaction, which the call that opened the group made, and its end. If connections
are given up by closing them alone, the statements up to the first call that closes the connection
are part of the transaction, and those after it are not. -/
theorem group_held (config : ConnectionConfig) (conn : C) (w : World E) (ops : List Operation)
    (op : Operation)
    (hopen : 0 < (after ops (create config (Traced.untouched conn), w)).1.transaction.depth) :
    let start := (create config (Traced.untouched conn), w)
    let s := after ops start
    ∃ before opener inside, ops = before ++ opener :: inside ∧
      OpenSince start before opener inside ∧
      ∃ earlier since added,
        (after (before ++ [opener]) start).1.conn.events =
          earlier ++ [⟨.startTransaction, true⟩] ∧
        s.1.conn.events = earlier ++ ⟨.startTransaction, true⟩ :: since ∧
        ((perform op : Action (Session (Traced C)) E Answer).run s).2.1.conn.events =
          s.1.conn.events ++ added ∧
        ∀ sooner e later, added = sooner ++ e :: later → e.statement?.isSome = true →
          (∀ e ∈ since ++ sooner, e.mark? = none) ∧
            (Steadfast C E →
              (inTransaction (s.1.conn.events ++ sooner) = true ↔ .close ∉ inside)) := by
  intro start s
  obtain ⟨before, opener, inside, rfl, hsince⟩ := exists_openSince rfl hopen
  refine ⟨before, opener, inside, rfl, hsince, ?_⟩
  have hopens := hsince.isOpen [] List.nil_prefix
  rw [after_concat] at hopens
  obtain ⟨⟨earlier, hbegun⟩, -⟩ := perform_opening hsince.closed hopens
  have hearlier : (after (before ++ [opener]) start).1.conn.events =
      earlier ++ [⟨.startTransaction, true⟩] := by
    rw [after_concat]
    exact hbegun
  obtain ⟨since, hheld⟩ := held_after hsince
  obtain ⟨quiet, rest, hadded, hquiet, hnone, -⟩ := perform_open op s.2 hopen
  have hevents : s.1.conn.events = earlier ++ ⟨.startTransaction, true⟩ :: since := by
    rw [hheld.events, hearlier, List.append_assoc, List.singleton_append]
  refine ⟨earlier, since, quiet ++ rest, hearlier, hevents, hadded,
    fun sooner e later hsplit he => ?_⟩
  -- nothing is sent once levels were closed, so the statement is among the quiet calls
  have hsooner : ∀ e ∈ sooner, e ∈ quiet := by
    rcases List.append_eq_append_iff.1 hsplit with ⟨more, -, hmore⟩ | ⟨more, hmore, -⟩
    · have hstatement := hnone e (by rw [hmore]; simp)
      rw [hstatement] at he
      cases he
    · exact fun e he => by rw [hmore]; exact List.mem_append_left _ he
  have hunmarked : ∀ e ∈ since ++ sooner, e.mark? = none := fun e he =>
    (List.mem_append.1 he).elim (hheld.unmarked e) fun he => hquiet e (hsooner e he)
  refine ⟨hunmarked, fun hC => ?_⟩
  rw [hevents, List.append_assoc, List.cons_append, inTransaction_begun earlier hunmarked]
  constructor
  · intro hkept hclose
    obtain ⟨e, he, hswitch⟩ := hheld.given hC hclose
    rw [hkept e (List.mem_append_left _ he)] at hswitch
    cases hswitch
  · intro hclose
    obtain ⟨hconnected, hkept⟩ := hheld.kept hC hclose
    have hop : op ≠ .close := by
      rintro rfl
      have hclosed := perform_close s.2 hconnected
      rw [hadded] at hclosed
      have hmem : e ∈ quiet ++ rest := by rw [hsplit]; simp
      rw [List.append_cancel_left hclosed, List.mem_singleton] at hmem
      rw [hmem] at he
      cases he
    obtain ⟨-, more, hmore, hswitch⟩ := governs_perform_keepingOpen hC hop s hconnected
    obtain rfl : quiet ++ rest = more := List.append_cancel_left (hadded.symm.trans hmore)
    exact fun e he => (List.mem_append.1 he).elim (hkept e) fun he =>
      hswitch e (List.mem_append_left _ (hsooner e he))

/-- A session that was not used yet, with a scripted connection. -/
def scriptedStart : Session (Traced Scripted) × World Script :=
  (create (ConnectionConfig.ofKind "mock") (Traced.untouched (Scripted.ofDialect .mysql)),
    ⟨.empty, default⟩)

/-- A group is opened, and a level of it is opened and closed again. -/
def heldRun : List Operation :=
  [.startGroup false, .startGroup true, .completeGroup]

/-- The next statement is part of the group's transaction. -/
theorem group_held_open :
    0 < (after heldRun scriptedStart).1.transaction.depth ∧ Steadfast Scripted Script ∧
      ((perform (.query "SELECT 1" []) : Action (Session (Traced Scripted)) Script Answer).run
        (after heldRun scriptedStart)).2.1.conn.events =
          (after heldRun scriptedStart).1.conn.events ++ [⟨.execute "SELECT 1", true⟩] ∧
      inTransaction (after heldRun scriptedStart).1.conn.events = true := by
  have hopen : 0 < (after heldRun scriptedStart).1.transaction.depth := by decide +kernel
  have hevents : ((perform (.query "SELECT 1" []) :
      Action (Session (Traced Scripted)) Script Answer).run
        (after heldRun scriptedStart)).2.1.conn.events =
          (after heldRun scriptedStart).1.conn.events ++ [⟨.execute "SELECT 1", true⟩] := by
    decide +kernel
  unfold scriptedStart at hopen hevents ⊢
  obtain ⟨before, opener, inside, hops, -, earlier, since, added, -, -, hadded, hstatements⟩ :=
    group_held (ConnectionConfig.ofKind "mock") (Scripted.ofDialect .mysql) ⟨.empty, default⟩
      heldRun (.query "SELECT 1" []) hopen
  have hadded : added = [⟨.execute "SELECT 1", true⟩] :=
    List.append_cancel_left (hadded.symm.trans hevents)
  have hclose : .close ∉ inside := fun hmem => by
    have hheld : Operation.close ∈ heldRun := hops ▸ by simp [hmem]
    revert hheld
    decide
  have hin := ((hstatements [] _ [] hadded rfl).2 Scripted.steadfast).2 hclose
  rw [List.append_nil] at hin
  exact ⟨hopen, Scripted.steadfast, hevents, hin⟩

/-- A statement in a group whose connection was closed opens another connection, on which no
transaction was begun. -/
theorem group_held_reopened :
    let s := after [.startGroup false, .close] scriptedStart
    let opened : List BackendEvent :=
      [⟨.connect, true⟩, ⟨.setCharset "utf8" "utf8_general_ci", true⟩]
    s.1.transaction.depth = 1 ∧
      s.1.conn.events = opened ++ [⟨.startTransaction, true⟩, ⟨.close, true⟩] ∧
      ((perform (.query "SELECT 1" []) :
        Action (Session (Traced Scripted)) Script Answer).run s).2.1.conn.events =
          s.1.conn.events ++ (opened ++ ⟨.execute "SELECT 1", true⟩ :: []) ∧
      inTransaction (s.1.conn.events ++ opened) = false := by
  decide +kernel

end Session

end SqlGateway
