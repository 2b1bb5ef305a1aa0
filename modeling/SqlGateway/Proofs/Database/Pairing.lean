import SqlGateway.Proofs.Database.Operation
import SqlGateway.Proofs.Session.Steadfast

/-!
# Openings and closings come in pairs

A session opens its connection in many places: when it is asked to, and on the way to nearly
everything else that needs one. What it opened may be of no use, as the database cannot be selected
or a statement is rejected right after; it is open all the same, and has to be closed. Here the
openings that the backend accepted are counted against the closings, over everything that can be
done with a database up to its being given up.

The invariant is `Session.Paired`: the openings and closings so far are pairs, and one opening more
if the connection is open. Only opening a closed connection and closing an open one touch it.

Main definitions:

* `Switch`, `BackendEvent.switch?`: what a call did to the connection.
* `Switch.pairs`: so many openings, each closed before the next one.
* `Switched`: backends whose connections are opened by opening them and closed by closing them.
* `Session.Paired`: the invariant.
* `BackendEvent.Balanced`: calls that leave nothing open.

Main results:

* `Session.governs_perform_paired`: every operation keeps it.
* `Database.paired_run`: so it holds at every point of every run.
* `Database.openings_closed`: once the database was given up, each opening has its closing, and
  there are no others.
* `Scripted.switched`: scripted backends are of this kind.
-/

namespace SqlGateway

/-! ## Switches -/

/-- What a call may do to a connection. -/
inductive Switch where
  | opened
  | closed
  deriving DecidableEq, Repr

/-- What the call did to the connection. An opening that was refused did nothing. -/
def BackendEvent.switch? (e : BackendEvent) : Option Switch :=
  match e.call with
  | .connect => if e.accepted then some .opened else none
  | .close => some .closed
  | _ => none

theorem BackendEvent.switch?_eq_none {e : BackendEvent} (h : e.isSwitch = false) :
    e.switch? = none := by
  obtain ⟨call, accepted⟩ := e
  cases call with
  | connect | close => cases h
  | _ => rfl

namespace Switch

/-- Openings, each with its closing right after it. -/
def pairs : Nat → List Switch
  | 0 => []
  | n + 1 => opened :: closed :: pairs n

/-- What a connection that is open has beyond its pairs. -/
def unclosed (isOpen : Bool) : List Switch :=
  if isOpen then [opened] else []

/-- Closing what is open completes a pair. -/
theorem pairs_snoc (n : Nat) : pairs n ++ unclosed true ++ [closed] = pairs (n + 1) := by
  induction n with
  | zero => rfl
  | succ n ih =>
    show opened :: closed :: (pairs n ++ unclosed true ++ [closed]) = _
    rw [ih]
    rfl

/-- After an opening comes its closing, and then pairs again. -/
theorem eq_of_pairs_eq_opened {n : Nat} {before after : List Switch}
    (h : pairs n = before ++ opened :: after) : ∃ m, after = closed :: pairs m := by
  -- two steps of the list make one pair
  induction n generalizing before with
  | zero => simp [pairs] at h
  | succ n ih =>
    match before with
    | [] =>
      simp only [pairs, List.nil_append, List.cons.injEq, true_and] at h
      exact ⟨n, h.symm⟩
    | [_] => simp [pairs] at h
    | _ :: _ :: before =>
      simp only [pairs, List.cons_append, List.cons.injEq] at h
      exact ih h.2.2

/-- Before a closing come pairs, and then an opening. -/
theorem eq_of_pairs_eq_closed {n : Nat} {before after : List Switch}
    (h : pairs n = before ++ closed :: after) : ∃ m, before = pairs m ++ [opened] := by
  -- the closing is that of the first pair, or one of the pairs that follow
  induction n generalizing before with
  | zero => simp [pairs] at h
  | succ n ih =>
    match before with
    | [] => simp [pairs] at h
    | [first] =>
      simp only [pairs, List.cons_append, List.cons.injEq] at h
      rw [← h.1]
      exact ⟨0, rfl⟩
    | first :: second :: before =>
      simp only [pairs, List.cons_append, List.cons.injEq] at h
      obtain ⟨m, hm⟩ := ih h.2.2
      rw [← h.1, ← h.2.1, hm]
      exact ⟨m + 1, rfl⟩

end Switch

/-- The openings that were accepted and the closings, in their order. -/
def Traced.switches {C : Type} (t : Traced C) : List Switch :=
  t.events.filterMap BackendEvent.switch?

/-! ## Backends -/

/-- The law of being as open as before. -/
def asOpen (C : Type) [Connection C] : Law C where
  rel c d := Connection.isConnected d = Connection.isConnected c
  refl _ := rfl
  trans hcd hde := hde.trans hcd

/-- An opening that is accepted opens the connection, one that is refused leaves it closed, closing
closes it, and nothing else has to do with it. -/
structure Switched (C E : Type) [Connection C] [Backend C E] : Prop where
  connect : ∀ config (s : C × World E), Connection.isConnected s.1 = false →
    Connection.isConnected ((Backend.connect config : Action C E Unit).run s).2.1 =
      ((Backend.connect config : Action C E Unit).run s).1.isOk
  close : Backend.Disconnects C E
  reconnect : (asOpen C).Governs (Backend.reconnect : Action C E Unit).run
  selectDatabase : ∀ name, (asOpen C).Governs (Backend.selectDatabase name : Action C E Unit).run
  setCharset : ∀ charset collation,
    (asOpen C).Governs (Backend.setCharset charset collation : Action C E Unit).run
  execute : ∀ sql, (asOpen C).Governs (Backend.execute sql : Action C E _).run
  startTransaction : (asOpen C).Governs (Backend.startTransaction : Action C E Unit).run
  commit : (asOpen C).Governs (Backend.commit : Action C E Unit).run
  rollback : (asOpen C).Governs (Backend.rollback : Action C E Unit).run

theorem Scripted.switched : Switched Scripted Script :=
  have hsame : ∀ c d : Scripted, d.connected = c.connected → (asOpen Scripted).rel c d :=
    fun _ _ hsame => hsame
  { connect := fun config s hclosed => by
      have hconnected := connected_connect config s
      rw [show s.1.connected = false from hclosed, Bool.or_false] at hconnected
      exact hconnected
    close := fun _ => rfl
    reconnect := governs_reconnect
    selectDatabase := fun _ => .run_bind (governs_note _) fun _ => governs_allow _
    setCharset := fun _ _ => .run_bind (governs_note _) fun _ => governs_allow _
    execute := governs_execute hsame
    startTransaction := governs_run hsame _
    commit := governs_run hsame _
    rollback := governs_run hsame _ }

/-! ## Sessions -/

namespace Session

variable {C E α : Type} [Connection C]

/-- The connection was opened and closed in turn, and is open exactly if it was opened last. -/
def Paired (s : Session (Traced C)) : Prop :=
  ∃ n, s.conn.switches = Switch.pairs n ++ Switch.unclosed s.isConnected

/-- The law of keeping openings and closings paired. -/
abbrev stayingPaired (C : Type) [Connection C] : Law (Session (Traced C)) :=
  .preserving Paired

/-- A connection that nothing was asked of, and that is closed, was neither opened nor closed. -/
theorem paired_create {conn : C} (hclosed : Connection.isConnected conn = false)
    (config : ConnectionConfig) : (create config (Traced.untouched conn)).Paired := by
  refine ⟨0, ?_⟩
  rw [show (create config (Traced.untouched conn)).isConnected = false from hclosed]
  rfl

theorem Paired.of_conn_eq {s t : Session (Traced C)} (hs : s.Paired) (h : t.conn = s.conn) :
    t.Paired := by
  unfold Paired isConnected at *
  rw [h]
  exact hs

omit [Connection C] in
theorem switches_concat (t : Traced C) (conn : C) (e : BackendEvent) :
    Traced.switches ⟨conn, t.events ++ [e]⟩ = t.switches ++ e.switch?.toList := by
  unfold Traced.switches
  rw [List.filterMap_append]
  cases he : e.switch? with
  | none => simp [he]
  | some switch => simp [he]

/-- Calls that neither open nor close keep the pairs. -/
theorem governs_onConn_paired {call : BackendCall} {a : Action C E α}
    (hcall : ∀ accepted, BackendEvent.isSwitch ⟨call, accepted⟩ = false)
    (h : (asOpen C).Governs a.run) :
    (stayingPaired C).Governs (onConn (Traced.noting call a)).run := by
  intro ⟨s, w⟩ ⟨n, hn⟩
  refine ⟨n, ?_⟩
  rw [run_onConn_apply, Traced.run_noting]
  dsimp only
  rw [switches_concat, BackendEvent.switch?_eq_none (hcall _), Option.toList_none, List.append_nil,
    hn]
  -- the connection is as open as it was
  exact congrArg (Switch.pairs n ++ Switch.unclosed ·) (h (s.conn.conn, w)).symm

section

variable [Backend C E] (h : Switched C E)
include h

/-- Opening a closed connection is the first half of a pair. -/
theorem paired_call_connect (config : ConnectionConfig) {s : Session (Traced C)} (w : World E)
    (hs : s.Paired) (hclosed : s.isConnected = false) :
    ((call (Backend.connect config) : Action (Session (Traced C)) E Unit).run
      (s, w)).2.1.Paired := by
  obtain ⟨n, hn⟩ := hs
  have hopens := h.connect config (s.conn.conn, w) hclosed
  rw [hclosed] at hn
  refine ⟨n, ?_⟩
  -- the call ends as the connection says, and adds its event
  obtain ⟨q, hq⟩ : ∃ q, (Backend.connect config : Action C E Unit).run (s.conn.conn, w) = q :=
    ⟨_, rfl⟩
  have hrun : ((call (Backend.connect config) : Action (Session (Traced C)) E Unit).run
      (s, w)).2.1 = { s with conn := ⟨q.2.1, s.conn.events ++ [⟨.connect, q.1.isOk⟩]⟩ } :=
    hq ▸ rfl
  rw [hq] at hopens
  rw [hrun, show isConnected { s with conn := Traced.mk q.2.1 _ } = q.1.isOk from hopens,
    switches_concat, hn]
  cases q.1.isOk with
  | true => simp [BackendEvent.switch?, Switch.unclosed]
  | false => simp [BackendEvent.switch?, Switch.unclosed]

theorem governs_connect_paired :
    (stayingPaired C).Governs (connect : Action (Session (Traced C)) E Unit).run := by
  intro ⟨s, w⟩ hs
  have hset {error : DbError} : (stayingPaired C).Governs
      (callOr error (Backend.setCharset s.config.charset s.config.collation) :
        Action (Session (Traced C)) E Unit).run :=
    governs_callOr (governs_onConn_paired (fun _ => rfl) (h.setCharset _ _))
  have hselect {error : DbError} : (stayingPaired C).Governs
      (callOr error (Backend.selectDatabase s.config.database) :
        Action (Session (Traced C)) E Unit).run :=
    governs_callOr (governs_onConn_paired (fun _ => rfl) (h.selectDatabase _))
  cases hopen : s.isConnected with
  | true =>
    -- what is open is not opened again
    rw [run_connect_open w hopen]
    exact hs
  | false =>
    have hcalled := paired_call_connect h s.config w hs hopen
    unfold connect
    rw [Action.run_bind_apply, Action.run_subject_apply]
    simp only [hopen, Bool.false_eq_true, ↓reduceIte]
    rw [Action.run_bind_apply]
    -- what follows an opening keeps what the opening kept, and nothing follows a failed one
    rcases hcall : (call (Backend.connect s.config) : Action (Session (Traced C)) E Unit).run
      (s, w) with ⟨e | u, t⟩
    · rw [hcall] at hcalled
      exact hcalled
    · rw [hcall] at hcalled
      dsimp only
      split
      · exact Law.Governs.run_bind hselect (fun _ => hset) t hcalled
      · exact hset t hcalled

/-- Closing an open connection is the other half. -/
theorem governs_close_paired :
    (stayingPaired C).Governs (close : Effect (Session (Traced C)) E Unit) := by
  intro ⟨s, w⟩ hs
  unfold close
  rw [Effect.bind_apply, Effect.subject_apply]
  cases hopen : s.isConnected with
  | false =>
    -- what is not open is not closed
    simp only [Bool.false_eq_true, ↓reduceIte]
    exact hs
  | true =>
    obtain ⟨n, hn⟩ := hs
    rw [hopen] at hn
    simp only [↓reduceIte] at hn ⊢
    refine ⟨n + 1, ?_⟩
    show Traced.switches ⟨_, s.conn.events ++ [⟨.close, true⟩]⟩ = _ ++ Switch.unclosed
      (Connection.isConnected ((Backend.close : Effect C E Unit) (s.conn.conn, w)).2.1)
    rw [switches_concat, hn, h.close, ← Switch.pairs_snoc]
    simp [BackendEvent.switch?, Switch.unclosed]

theorem governs_completeGroup_paired :
    (stayingPaired C).Governs (completeGroup : Action (Session (Traced C)) E _).run :=
  governs_completeGroup (fun _ _ hs => hs.of_conn_eq rfl)
    (governs_onConn_paired (fun _ => rfl) h.commit)
    (governs_onConn_paired (fun _ => rfl) h.rollback)

theorem served_paired : Served E (stayingPaired C).contract :=
  -- where the connection is not asked for anything there is nothing to count
  have hstill : ∀ s t, (upkeep .unchanged).rel s t → (stayingPaired C).rel s t :=
    fun _ _ h hs => hs.of_conn_eq h.2.2
  have hexecute (sql : String) : (stayingPaired C).Governs
      (onConn (Backend.execute sql) : Action (Session (Traced C)) E _).run :=
    governs_onConn_paired (fun _ => rfl) (h.execute sql)
  have hdispatch (sql : String) : (stayingPaired C).Governs
      (dispatch sql : Action (Session (Traced C)) E _).run :=
    governs_dispatch (fun _ _ _ hs => hs.of_conn_eq rfl) (hexecute sql)
      (fun _ hs => hs.of_conn_eq rfl) (governs_completeGroup_paired h)
  { query := fun _ _ => meets_query hstill fun sql =>
      Contract.meets_contract_iff.2 (governs_send (governs_connect_paired h)
        (fun _ _ _ hs => hs.of_conn_eq rfl) (hdispatch sql))
    names := fun _ _ hs => hs.of_conn_eq rfl
    connect := Contract.meets_contract_iff.2 (governs_connect_paired h)
    reconnect := Contract.meets_contract_iff.2 (governs_reconnect (governs_connect_paired h)
      (governs_onConn_paired (fun _ => rfl) h.reconnect))
    runDirect := fun sql => Contract.meets_contract_iff.2
      (governs_runDirect (governs_connect_paired h) (hexecute sql))
    store := governs_onStore.mono hstill }

/-- Every operation keeps openings and closings paired, whether it fails or not. -/
theorem governs_perform_paired (op : Operation) :
    (stayingPaired C).Governs (perform op : Action (Session (Traced C)) E Answer).run := by
  have hstart : (stayingPaired C).Governs
      (startPhysical : Action (Session (Traced C)) E Unit).run :=
    governs_unless_connect_bind (governs_connect_paired h)
      (governs_call (governs_onConn_paired (fun _ => rfl) h.startTransaction))
  cases hother : op.isTransactional with
  | false =>
    -- of these only the edits of settings are no service of the session
    refine Contract.meets_contract_iff.1 (meets_perform (served_paired h) hother
      (fun _ => governs_close_paired h) fun f hf s hs => ?_)
    exact hs.of_conn_eq (Operation.edit?_spec hf s).1
  | true =>
    exact governs_transactional hother (fun _ _ hs => hs.of_conn_eq rfl) hstart
      (governs_onConn_paired (fun _ => rfl) h.commit)
      (governs_onConn_paired (fun _ => rfl) h.rollback)

end

end Session

/-! ## Databases -/

/-- Of these calls each accepted opening was closed again, and nothing was closed that was not open:
what closes a connection is the only closing between its opening and the next one. -/
structure BackendEvent.Balanced (events : List BackendEvent) : Prop where
  /-- Openings and closings take turns, an opening first and a closing last. -/
  paired : ∃ n, events.filterMap switch? = Switch.pairs n
  /-- What follows an accepted opening is its closing, and then pairs. -/
  closed : ∀ before after, events = before ++ ⟨.connect, true⟩ :: after →
    ∃ n, after.filterMap switch? = .closed :: Switch.pairs n
  /-- What comes before a closing are pairs, and then an accepted opening. -/
  opened : ∀ before after accepted, events = before ++ ⟨.close, accepted⟩ :: after →
    ∃ n, before.filterMap switch? = Switch.pairs n ++ [.opened]

theorem BackendEvent.balanced_of_pairs {events : List BackendEvent} {n : Nat}
    (h : events.filterMap switch? = Switch.pairs n) : Balanced events := by
  have hopening : switch? ⟨.connect, true⟩ = some .opened := rfl
  have hclosing (accepted : Bool) : switch? ⟨.close, accepted⟩ = some .closed := rfl
  refine ⟨⟨n, h⟩, fun before after hevents => ?_, fun before after accepted hevents => ?_⟩
  · rw [hevents, List.filterMap_append, List.filterMap_cons_some hopening] at h
    exact Switch.eq_of_pairs_eq_opened h.symm
  · rw [hevents, List.filterMap_append, List.filterMap_cons_some (hclosing accepted)] at h
    exact Switch.eq_of_pairs_eq_closed h.symm

namespace Database

variable {C E : Type} [Connection C] [Backend C E]

/-- Openings and closings are paired at every point of a run. -/
theorem paired_run (h : Switched C E) {conn : C} (hclosed : Connection.isConnected conn = false)
    (config : ConnectionConfig) (w : World E) (ops : List Operation) :
    (run ops (create config (Traced.untouched conn), w)).2.1.session.Paired :=
  rel_run (Session.governs_perform_paired h) ops _ (Session.paired_create hclosed config)

/-- What was opened while a database was used is closed, once, by the time that the database was
given up, and nothing else is. On the way there is one opening more than there are closings while
the connection is open, and as many of them while it is not. -/
theorem openings_closed (h : Switched C E) {conn : C}
    (hclosed : Connection.isConnected conn = false) (config : ConnectionConfig) (w : World E)
    (ops : List Operation) :
    let reached := (run ops (create config (Traced.untouched conn), w)).2
    (∃ n, reached.1.session.conn.switches = Switch.pairs n ++ Switch.unclosed reached.1.isOpen) ∧
      BackendEvent.Balanced
        ((release : Effect (Database (Traced C)) E Unit) reached).2.1.session.conn.events := by
  intro reached
  have hpaired : reached.1.session.Paired := paired_run h hclosed config w ops
  refine ⟨hpaired, ?_⟩
  -- the closing that giving up brings leaves nothing but pairs
  obtain ⟨n, hn⟩ : ((release : Effect (Database (Traced C)) E Unit) reached).2.1.session.Paired :=
    Session.governs_close_paired h (reached.1.session, reached.2) hpaired
  have hshut := isOpen_release (E := E) (C := Traced C) (fun s => h.close (s.1.conn, s.2))
    reached.1 reached.2
  rw [show Session.isConnected _ = false from hshut, Switch.unclosed, if_neg Bool.false_ne_true,
    List.append_nil] at hn
  exact BackendEvent.balanced_of_pairs hn

/-- The database cannot be selected, so opening fails each time, and the connection is open. -/
theorem openings_closed_refused :
    let w : World Script := ⟨.empty, { (default : Script) with refused := ["select_db"] }⟩
    let config := { ConnectionConfig.ofKind "mock" with database := "crm" }
    let conn := Scripted.ofDialect .mysql
    let ops : List Operation :=
      [.session .connect, .session (.query "SELECT 1" []), .session .close,
        .session (.startGroup false)]
    let events := ((release : Effect (Database (Traced Scripted)) Script Unit)
      (run ops (create config (Traced.untouched conn), w)).2).2.1.session.conn.events
    Connection.isConnected conn = false ∧ Switched Scripted Script ∧
      events =
        [⟨.connect, true⟩, ⟨.selectDatabase "crm", false⟩, ⟨.execute "SELECT 1", true⟩,
          ⟨.close, true⟩, ⟨.connect, true⟩, ⟨.selectDatabase "crm", false⟩, ⟨.close, true⟩] ∧
      BackendEvent.Balanced events := by
  intro w config conn ops events
  have hclosed : Connection.isConnected conn = false := rfl
  have hbalanced := (openings_closed Scripted.switched hclosed config w ops).2
  exact ⟨hclosed, Scripted.switched, by decide +kernel, hbalanced⟩

end Database

end SqlGateway
