import Mathlib.Data.List.Basic
import Mathlib.Data.List.Induction
import SqlGateway.Backend.Scripted
import SqlGateway.Proofs.Session.Control

/-!
# Use of connections that are set up

Before a connection is used it is opened, its database is selected and its character set is chosen,
and a call that is refused ends this work. But from then on the session only asks whether the
connection is open, and a connection that was opened and refused its database is. So what is sent
later reaches a connection that is set up exactly where no call of that work was refused since the
connection was last opened; and nothing is ever sent before a first attempt to open it.

Main definitions:

* `sinceConnect`: what happened since the last attempt to open the connection.
* `Initialised`: the connection is open, has its database and its character set.
* `Session.Prepared`: the invariant of a session that has tried to open its connection.

Main result:

* `Session.initialised_at_use`: when statements and transactions meet an initialised connection.
-/

namespace SqlGateway

/-! ## Traces -/

namespace BackendEvent

/-- The call opens a connection or sets it up. -/
def isSetUp (e : BackendEvent) : Bool :=
  match e.call with
  | .connect | .selectDatabase _ | .setCharset _ _ => true
  | _ => false

/-- The call uses a connection, by a statement or to begin a transaction. -/
def isUse (e : BackendEvent) : Bool :=
  match e.call with
  | .execute _ | .startTransaction => true
  | _ => false

theorem isUse_of_isSetUp {e : BackendEvent} (h : e.isSetUp = true) : e.isUse = false := by
  obtain ⟨call, accepted⟩ := e
  cases call <;> first | rfl | cases h

end BackendEvent

/-- The events from the last attempt to open the connection on. -/
def sinceConnect (events : List BackendEvent) : List BackendEvent :=
  events.foldl (fun since e => if e.call = .connect then [e] else since ++ [e]) []

theorem sinceConnect_concat (events : List BackendEvent) (e : BackendEvent) :
    sinceConnect (events ++ [e]) =
      if e.call = .connect then [e] else sinceConnect events ++ [e] := by
  unfold sinceConnect
  rw [List.foldl_append]
  rfl

/-- A new attempt begins anew. -/
theorem sinceConnect_append_connect (events : List BackendEvent) (accepted : Bool)
    {rest : List BackendEvent} (h : ∀ e ∈ rest, e.call ≠ .connect) :
    sinceConnect (events ++ ⟨.connect, accepted⟩ :: rest) = ⟨.connect, accepted⟩ :: rest := by
  induction rest using List.reverseRecOn with
  | nil =>
    rw [sinceConnect_concat]
    rfl
  | append_singleton rest e ih =>
    have hrest := ih fun e he => h e (List.mem_append_left _ he)
    rw [← List.cons_append, ← List.append_assoc, sinceConnect_concat, hrest,
      if_neg (h e (List.mem_append_right _ (List.mem_singleton_self e)))]

/-- The connection was opened, has the database of the settings, if they name one, and their
character set. -/
structure Initialised (config : ConnectionConfig) (events : List BackendEvent) : Prop where
  connected : ⟨.connect, true⟩ ∈ sinceConnect events
  database : config.database ≠ "" →
    ⟨.selectDatabase config.database, true⟩ ∈ sinceConnect events
  charset : ⟨.setCharset config.charset config.collation, true⟩ ∈ sinceConnect events

theorem initialised_iff {config : ConnectionConfig} {events : List BackendEvent} :
    Initialised config events ↔ ⟨.connect, true⟩ ∈ sinceConnect events ∧
      (config.database ≠ "" → ⟨.selectDatabase config.database, true⟩ ∈ sinceConnect events) ∧
      ⟨.setCharset config.charset config.collation, true⟩ ∈ sinceConnect events :=
  ⟨fun h => ⟨h.connected, h.database, h.charset⟩, fun h => ⟨h.1, h.2.1, h.2.2⟩⟩

/-- No call of the last attempt to set the connection up was refused. -/
def Unrefused (events : List BackendEvent) : Prop :=
  ∀ e ∈ sinceConnect events, e.isSetUp = true → e.accepted = true

/-- There was an attempt to set the connection up, and it is initialised unless a call of the last
attempt was refused. -/
structure Attempted (config : ConnectionConfig) (events : List BackendEvent) : Prop where
  connect : ∃ accepted, ⟨.connect, accepted⟩ ∈ sinceConnect events
  initialised : Initialised config events ↔ Unrefused events

/-- What else happens leaves the connection as it was set up. -/
theorem Attempted.concat {config : ConnectionConfig} {events : List BackendEvent}
    (h : Attempted config events) {e : BackendEvent} (he : e.isSetUp = false) :
    Attempted config (events ++ [e]) := by
  have hconnect : e.call ≠ .connect := by
    intro hcall
    unfold BackendEvent.isSetUp at he
    rw [hcall] at he
    cases he
  -- both halves speak of calls that set up, and the new event is none
  have hmem (e' : BackendEvent) (he' : e'.isSetUp = true) :
      e' ∈ sinceConnect (events ++ [e]) ↔ e' ∈ sinceConnect events := by
    rw [sinceConnect_concat, if_neg hconnect, List.mem_append, List.mem_singleton]
    refine or_iff_left fun heq => ?_
    rw [heq, he] at he'
    cases he'
  obtain ⟨accepted, haccepted⟩ := h.connect
  refine ⟨⟨accepted, (hmem _ rfl).2 haccepted⟩, ?_⟩
  have hinitialised : Initialised config (events ++ [e]) ↔ Initialised config events := by
    rw [initialised_iff, initialised_iff, hmem ⟨.connect, true⟩ rfl,
      hmem ⟨.selectDatabase config.database, true⟩ rfl,
      hmem ⟨.setCharset config.charset config.collation, true⟩ rfl]
  have hunrefused : Unrefused (events ++ [e]) ↔ Unrefused events :=
    forall_congr' fun e' => ⟨fun hu he' hs => hu ((hmem e' hs).2 he') hs,
      fun hu he' hs => hu ((hmem e' hs).1 he') hs⟩
  rw [hinitialised, hunrefused]
  exact h.initialised

/-- Whatever used the connection came after an attempt to set it up. -/
def UsedWhenAttempted (config : ConnectionConfig) (events : List BackendEvent) : Prop :=
  ∀ before e rest, events = before ++ e :: rest → e.isUse = true → Attempted config before

theorem usedWhenAttempted_nil (config : ConnectionConfig) : UsedWhenAttempted config [] := by
  intro before e rest h
  cases before <;> cases h

theorem UsedWhenAttempted.concat {config : ConnectionConfig} {events : List BackendEvent}
    (h : UsedWhenAttempted config events) {e : BackendEvent}
    (he : e.isUse = true → Attempted config events) : UsedWhenAttempted config (events ++ [e]) := by
  intro before e' rest heq huse
  rcases List.eq_nil_or_concat' rest with rfl | ⟨rest, last, rfl⟩
  · obtain ⟨rfl, hlast⟩ := List.append_inj' heq rfl
    rw [List.cons.injEq] at hlast
    exact he (hlast.1 ▸ huse)
  · rw [← List.cons_append, ← List.append_assoc] at heq
    exact h before e' rest (List.append_inj' heq rfl).1 huse

/-- Setting up is no use. -/
theorem UsedWhenAttempted.append {config : ConnectionConfig} {events added : List BackendEvent}
    (h : UsedWhenAttempted config events) (hadded : ∀ e ∈ added, e.isUse = false) :
    UsedWhenAttempted config (events ++ added) := by
  induction added generalizing events with
  | nil =>
    rw [List.append_nil]
    exact h
  | cons e added ih =>
    obtain ⟨he, hadded⟩ := List.forall_mem_cons.1 hadded
    rw [List.append_cons]
    refine ih (h.concat fun huse => ?_) hadded
    rw [he] at huse
    cases huse

/-- Once the set-up was attempted, any use is fine. -/
theorem UsedWhenAttempted.append_attempted {config : ConnectionConfig}
    {events added : List BackendEvent} (h : UsedWhenAttempted config events)
    (hattempted : Attempted config events) (hadded : ∀ e ∈ added, e.isSetUp = false) :
    UsedWhenAttempted config (events ++ added) ∧ Attempted config (events ++ added) := by
  induction added generalizing events with
  | nil =>
    rw [List.append_nil]
    exact ⟨h, hattempted⟩
  | cons e added ih =>
    obtain ⟨he, hadded⟩ := List.forall_mem_cons.1 hadded
    rw [List.append_cons]
    exact ih (h.concat fun _ => hattempted) (hattempted.concat he) hadded

/-! ## Setting up -/

/-- What follows an attempt to open a connection: nothing if it was refused, and else the database
and the character set, up to the first refusal. -/
inductive SetUpSteps (config : ConnectionConfig) : Bool → List BackendEvent → Prop
  | closed : SetUpSteps config false []
  | noDatabase : config.database ≠ "" →
    SetUpSteps config true [⟨.selectDatabase config.database, false⟩]
  | charset (accepted : Bool) : config.database = "" →
    SetUpSteps config true [⟨.setCharset config.charset config.collation, accepted⟩]
  | databaseCharset (accepted : Bool) : config.database ≠ "" →
    SetUpSteps config true [⟨.selectDatabase config.database, true⟩,
      ⟨.setCharset config.charset config.collation, accepted⟩]

/-- Two settings ask for the same set-up. -/
structure SameSetUp (c d : ConnectionConfig) : Prop where
  database : c.database = d.database
  charset : c.charset = d.charset
  collation : c.collation = d.collation

theorem SameSetUp.refl (c : ConnectionConfig) : SameSetUp c c :=
  ⟨rfl, rfl, rfl⟩

theorem SameSetUp.trans {b c d : ConnectionConfig} (hbc : SameSetUp b c) (hcd : SameSetUp c d) :
    SameSetUp b d :=
  ⟨hbc.database.trans hcd.database, hbc.charset.trans hcd.charset,
    hbc.collation.trans hcd.collation⟩

theorem SetUpSteps.congr {c d : ConnectionConfig} (h : SameSetUp c d) {accepted : Bool}
    {rest : List BackendEvent} (hsteps : SetUpSteps c accepted rest) :
    SetUpSteps d accepted rest := by
  cases hsteps with
  | closed => exact .closed
  | noDatabase hdatabase =>
    rw [h.database] at hdatabase ⊢
    exact .noDatabase hdatabase
  | charset accepted hdatabase =>
    rw [h.database] at hdatabase
    rw [h.charset, h.collation]
    exact .charset accepted hdatabase
  | databaseCharset accepted hdatabase =>
    rw [h.database] at hdatabase
    rw [h.database, h.charset, h.collation]
    exact .databaseCharset accepted hdatabase

theorem SetUpSteps.isSetUp {config : ConnectionConfig} {accepted : Bool}
    {rest : List BackendEvent} (h : SetUpSteps config accepted rest) :
    ∀ e ∈ rest, e.isSetUp = true ∧ e.call ≠ .connect := by
  cases h <;> simp [BackendEvent.isSetUp]

/-- An attempt decides whether the connection is initialised. -/
theorem SetUpSteps.attempted {config : ConnectionConfig} {accepted : Bool}
    {rest : List BackendEvent} (h : SetUpSteps config accepted rest)
    (events : List BackendEvent) : Attempted config (events ++ ⟨.connect, accepted⟩ :: rest) := by
  have hsince := sinceConnect_append_connect events accepted fun e he => (h.isSetUp e he).2
  refine ⟨⟨accepted, by rw [hsince]; exact List.mem_cons_self ..⟩, ?_⟩
  rw [initialised_iff, Unrefused, hsince]
  cases h with
  | closed => simp [BackendEvent.isSetUp]
  | noDatabase hdatabase => simp [BackendEvent.isSetUp, hdatabase]
  | charset accepted hdatabase => simp [BackendEvent.isSetUp, hdatabase]
  | databaseCharset accepted hdatabase => simp [BackendEvent.isSetUp]

namespace Session

variable {C E α : Type}

/-- The session went on by these events, and neither settings nor transaction changed. -/
structure Went (added : List BackendEvent) (s t : Session (Traced C)) : Prop where
  config : t.config = s.config
  transaction : t.transaction = s.transaction
  events : t.conn.events = s.conn.events ++ added

theorem Went.of_call {s : Session (Traced C)} (c : BackendCall) (a : Action C E α) (w : World E) :
    Went [⟨c, ((call (Traced.noting c a)).run (s, w)).1.isOk⟩] s
      ((call (Traced.noting c a)).run (s, w)).2.1 := by
  obtain ⟨conn, hcall⟩ := call_noting c a s w
  exact ⟨by rw [hcall], by rw [hcall], by rw [hcall]⟩

theorem Went.callOr {added : List BackendEvent} {s t : Session (Traced C)} (h : Went added s t)
    (error : DbError) (c : BackendCall) (a : Action C E α) (w : World E) :
    Went (added ++ [⟨c, ((callOr error (Traced.noting c a)).run (t, w)).1.isOk⟩]) s
      ((callOr error (Traced.noting c a)).run (t, w)).2.1 := by
  obtain ⟨conn, hcall⟩ := callOr_noting error c a t w
  refine ⟨by rw [hcall, h.config], by rw [hcall, h.transaction], ?_⟩
  rw [hcall, ← List.append_assoc, ← h.events]

variable [Connection C] [Backend C E]

/-- A closed connection is set up step by step. -/
theorem connect_closed {s : Session (Traced C)} (w : World E) (h : s.isConnected = false) :
    ∃ accepted rest, SetUpSteps s.config accepted rest ∧ Went (⟨.connect, accepted⟩ :: rest) s
      ((connect : Action (Session (Traced C)) E Unit).run (s, w)).2.1 := by
  have hopened := Went.of_call (s := s) .connect (Backend.connect s.config : Action C E Unit) w
  -- each call may end the set-up, so the steps are taken off the run one by one, with their events
  generalize hr : (connect : Action (Session (Traced C)) E Unit).run (s, w) = r
  unfold connect at hr
  rw [Action.run_bind_apply] at hr
  simp only [Action.run_subject_apply, h, Bool.false_eq_true, ↓reduceIte] at hr
  rw [Action.run_bind_apply] at hr
  have hconnect : (Backend.connect s.config : Action (Traced C) E Unit) =
    Traced.noting .connect (Backend.connect s.config) := rfl
  rw [hconnect] at hr
  generalize (call (Traced.noting .connect (Backend.connect s.config : Action C E Unit))).run
    (s, w) = q at hr hopened
  obtain ⟨outcome, t, w'⟩ := q
  cases outcome with
  | error e =>
    rw [← hr]
    exact ⟨false, [], .closed, hopened⟩
  | ok u =>
    by_cases hdatabase : s.config.database = ""
    · simp only [hdatabase, ne_eq, not_true_eq_false, ↓reduceIte] at hr
      rw [← hr]
      exact ⟨true, _, .charset _ hdatabase, hopened.callOr _ (.setCharset _ _) _ w'⟩
    · simp only [hdatabase, ne_eq, not_false_eq_true, ↓reduceIte] at hr
      rw [Action.run_bind_apply] at hr
      have hselected := hopened.callOr
        (.connection ("Unable to select the specified database: " ++ s.config.database))
        (.selectDatabase s.config.database)
        (Backend.selectDatabase s.config.database : Action C E Unit) w'
      have hselect : (Backend.selectDatabase s.config.database : Action (Traced C) E Unit) =
        Traced.noting (.selectDatabase s.config.database)
          (Backend.selectDatabase s.config.database) := rfl
      rw [hselect] at hr
      generalize (callOr _ (Traced.noting (.selectDatabase s.config.database)
        (Backend.selectDatabase s.config.database : Action C E Unit))).run (t, w') = q
        at hr hselected
      obtain ⟨outcome, t, w'⟩ := q
      rw [← hr]
      cases outcome with
      | error e => exact ⟨true, _, .noDatabase hdatabase, hselected⟩
      | ok u =>
        exact ⟨true, _, .databaseCharset _ hdatabase, hselected.callOr _ (.setCharset _ _) _ w'⟩

/-! ## Sessions that have tried to open their connection -/

omit [Connection C] in
/-- The settings ask for the set-up, and the connection was not used before it was attempted. -/
structure Orderly (config : ConnectionConfig) (s : Session (Traced C)) : Prop where
  setUp : SameSetUp s.config config
  used : UsedWhenAttempted config s.conn.events

/-- The set-up was attempted, so the connection may be used. -/
structure Prepared (config : ConnectionConfig) (s : Session (Traced C)) : Prop
    extends Orderly config s where
  attempted : Attempted config s.conn.events

/-- The law of staying prepared. -/
abbrev keepingPrepared (C : Type) (config : ConnectionConfig) : Law (Session (Traced C)) :=
  .preserving (Prepared config)

variable {config : ConnectionConfig}

omit [Connection C] in
/-- All but a new attempt leaves a session prepared. -/
theorem Prepared.append {s t : Session (Traced C)} (h : Prepared config s)
    (hsetUp : SameSetUp t.config s.config) {added : List BackendEvent}
    (hevents : t.conn.events = s.conn.events ++ added)
    (hadded : ∀ e ∈ added, e.isSetUp = false) : Prepared config t := by
  obtain ⟨hused, hattempted⟩ := h.used.append_attempted h.attempted hadded
  rw [← hevents] at hused hattempted
  exact ⟨⟨hsetUp.trans h.setUp, hused⟩, hattempted⟩

omit [Connection C] in
theorem keepingPrepared_of_upkeep {s t : Session (Traced C)}
    (h : (upkeep (Traced.appending fun e => e.isSetUp = false)).rel s t) :
    (keepingPrepared C config).rel s t := by
  obtain ⟨hconfig, -, added, hevents, hadded⟩ := h
  intro hs
  exact hs.append (hconfig ▸ .refl s.config) hevents hadded

/-- An attempt makes a session prepared, however it ends. -/
theorem Orderly.prepared_connect {s : Session (Traced C)} (h : Orderly config s) (w : World E)
    (hclosed : s.isConnected = false) :
    Prepared config ((connect : Action (Session (Traced C)) E Unit).run (s, w)).2.1 := by
  obtain ⟨accepted, rest, hsteps, hwent⟩ := connect_closed w hclosed
  have hsteps := hsteps.congr h.setUp
  have huse : ∀ e ∈ (⟨.connect, accepted⟩ : BackendEvent) :: rest, e.isUse = false :=
    List.forall_mem_cons.2 ⟨rfl, fun e he => BackendEvent.isUse_of_isSetUp (hsteps.isSetUp e he).1⟩
  refine ⟨⟨by rw [hwent.config]; exact h.setUp, ?_⟩, ?_⟩
  · rw [hwent.events]
    exact h.used.append huse
  · rw [hwent.events]
    exact hsteps.attempted _

/-- What is done once the connection is open finds the session prepared, or was not reached. -/
theorem Orderly.prepared_opened {s : Session (Traced C)} (h : Orderly config s) (w : World E)
    (hopen : s.isConnected = true → Attempted config s.conn.events)
    {rest : Action (Session (Traced C)) E α}
    (hrest : (keepingPrepared C config).Governs rest.run) :
    Prepared config ((do
      let s : Session (Traced C) ← Action.subject
      unless s.isConnected do connect
      rest : Action (Session (Traced C)) E α).run (s, w)).2.1 := by
  rw [Action.run_bind_apply, Action.run_subject_apply]
  dsimp only
  cases hconnected : s.isConnected with
  | true =>
    exact hrest (s, w) ⟨h, hopen hconnected⟩
  | false =>
    have hprepared := h.prepared_connect w hconnected
    show Prepared config ((do connect; rest : Action (Session (Traced C)) E α).run (s, w)).2.1
    rw [Action.run_bind_apply]
    generalize (connect : Action (Session (Traced C)) E Unit).run (s, w) = q at hprepared ⊢
    obtain ⟨outcome, t, w'⟩ := q
    cases outcome with
    | error e => exact hprepared
    | ok u => exact hrest (t, w') hprepared

/-! ## What keeps sessions prepared -/

theorem governs_completeGroup_prepared :
    (keepingPrepared C config).Governs (completeGroup : Action (Session (Traced C)) E _).run := by
  intro ⟨s, w⟩ hs
  by_cases henabled : s.transaction.enabled = true
  · by_cases hdepth : s.transaction.depth = 1
    · obtain ⟨hconfig, -, hevents, -⟩ := completeGroup_outer w henabled hdepth
      refine hs.append (hconfig ▸ .refl s.config) hevents fun e he => ?_
      rw [List.mem_singleton.1 he]
      cases s.transaction.failed <;> rfl
    · rw [run_completeGroup_inner w henabled hdepth]
      exact ⟨⟨hs.setUp, hs.used⟩, hs.attempted⟩
  · rw [run_completeGroup_disabled w (Bool.eq_false_iff.2 henabled)]
    exact hs

theorem governs_execute_prepared (sql : String) :
    (keepingPrepared C config).Governs
      (onConn (Backend.execute sql) : Action (Session (Traced C)) E _).run :=
  Law.Governs.mono (governs_onConn (Traced.governs_noting fun _ => rfl))
    fun _ _ => keepingPrepared_of_upkeep

theorem governs_dispatch_prepared (sql : String) :
    (keepingPrepared C config).Governs (dispatch sql : Action (Session (Traced C)) E _).run :=
  governs_dispatch (fun _ _ _ => keepingPrepared_of_upkeep (upkeep_notes ..))
    (governs_execute_prepared sql)
    (fun _ hs => ⟨⟨hs.setUp, hs.used⟩, hs.attempted⟩) governs_completeGroup_prepared

/-! ## Runs -/

/-- A session that has not tried to open its connection, and that has no open level which would
call upon it. -/
structure Fresh (config : ConnectionConfig) (s : Session (Traced C)) : Prop
    extends Orderly config s where
  closed : s.isConnected = false
  depth : s.transaction.depth = 0

/-- The invariant of runs. -/
def Settled (config : ConnectionConfig) (s : Session (Traced C)) : Prop :=
  Prepared config s ∨ Fresh config s

/-- The law of staying settled. -/
abbrev keepingSettled (C : Type) [Connection C] (config : ConnectionConfig) :
    Law (Session (Traced C)) :=
  .preserving (Settled config)

theorem Settled.orderly {s : Session (Traced C)} (h : Settled config s) : Orderly config s :=
  h.elim Prepared.toOrderly Fresh.toOrderly

/-- Only what is prepared is connected. -/
theorem Settled.prepared {s : Session (Traced C)} (h : Settled config s)
    (hopen : s.isConnected = true) : Prepared config s :=
  h.resolve_right fun hfresh => by
    rw [hfresh.closed] at hopen
    cases hopen

/-- Only what is prepared has an open level. -/
theorem Settled.prepared_of_depth {s : Session (Traced C)} (h : Settled config s)
    (hdepth : s.transaction.depth ≠ 0) : Prepared config s :=
  h.resolve_right fun hfresh => hdepth hfresh.depth

theorem Settled.prepared_opened {s : Session (Traced C)} (h : Settled config s) (w : World E)
    {rest : Action (Session (Traced C)) E α}
    (hrest : (keepingPrepared C config).Governs rest.run) :
    Prepared config ((do
      let s : Session (Traced C) ← Action.subject
      unless s.isConnected do connect
      rest : Action (Session (Traced C)) E α).run (s, w)).2.1 :=
  h.orderly.prepared_opened w (fun hopen => (h.prepared hopen).attempted) hrest

theorem Settled.of_eq {s t : Session (Traced C)} (h : Settled config s)
    (hsetUp : SameSetUp t.config s.config) (hconn : t.conn = s.conn)
    (hdepth : s.transaction.depth = 0 → t.transaction.depth = 0) : Settled config t := by
  have horderly : Orderly config t := ⟨hsetUp.trans h.orderly.setUp, hconn ▸ h.orderly.used⟩
  rcases h with h | h
  · exact .inl ⟨horderly, hconn ▸ h.attempted⟩
  · refine .inr ⟨horderly, ?_, hdepth h.depth⟩
    unfold isConnected
    rw [hconn]
    exact h.closed

theorem obeyed_keepingSettled : Obeyed E (keepingSettled C config) where
  still := by
    rintro s t ⟨hconfig, htransaction, hconn⟩ hs
    exact hs.of_eq (hconfig ▸ .refl s.config) hconn (htransaction ▸ id)
  connect := by
    intro ⟨s, w⟩ hs
    cases hconnected : s.isConnected with
    | true =>
      rw [run_connect_open w hconnected]
      exact hs
    | false => exact .inl (hs.orderly.prepared_connect w hconnected)
  reconnect := by
    intro ⟨s, w⟩ hs
    unfold reconnect
    rw [Action.run_bind_apply, Action.run_subject_apply]
    dsimp only
    split
    -- an open connection is only reconnected: what set it up is not done again
    · rename_i hopen
      refine .inl (Law.Governs.mono (governs_call (governs_onConn ?_))
        (fun _ _ => keepingPrepared_of_upkeep) (s, w) (hs.prepared hopen))
      exact Traced.governs_noting fun _ => rfl
    · rename_i hclosed
      exact .inl (hs.orderly.prepared_connect w (Bool.eq_false_iff.2 hclosed))
  close := by
    intro ⟨s, w⟩ hs
    unfold close
    rw [Effect.bind_apply, Effect.subject_apply]
    dsimp only
    split
    · rename_i hopen
      have hevents : ((Effect.part Session.conn (fun s conn => { s with conn }) Backend.close :
          Effect (Session (Traced C)) E Unit) (s, w)).2.1.conn.events =
            s.conn.events ++ [⟨.close, true⟩] :=
        rfl
      exact .inl ((hs.prepared hopen).append (.refl s.config) hevents
        (List.forall_mem_singleton.2 rfl))
    · exact hs
  send sql := by
    intro ⟨s, w⟩ hs
    rw [send_eq]
    refine .inl (hs.prepared_opened w ?_)
    exact .run_bind (governs_record fun _ _ _ => keepingPrepared_of_upkeep (upkeep_notes ..))
      fun _ => governs_dispatch_prepared sql
  runDirect sql := by
    intro ⟨s, w⟩ hs
    exact .inl (hs.prepared_opened w (governs_call (governs_execute_prepared sql)))

/-! ### Transactions -/

/-- A start on the backend leaves the session prepared, whether it was or not. -/
theorem Orderly.prepared_startPhysical {s : Session (Traced C)} (h : Orderly config s) (w : World E)
    (hopen : s.isConnected = true → Attempted config s.conn.events) :
    Prepared config ((startPhysical : Action (Session (Traced C)) E Unit).run (s, w)).2.1 :=
  h.prepared_opened w hopen
    (Law.Governs.mono (governs_call (governs_onConn (Traced.governs_noting fun _ => rfl)))
      fun _ _ => keepingPrepared_of_upkeep)

theorem governs_startGroup_settled (test : Bool) :
    (keepingSettled C config).Governs
      (startGroup test : Action (Session (Traced C)) E Unit).run := by
  intro ⟨s, w⟩ hs
  by_cases henabled : s.transaction.enabled = true
  · rcases Nat.eq_zero_or_pos s.transaction.depth with hdepth | hdepth
    · -- the level is open before the connection is, so the session is not settled in between
      have horderly : Orderly config { s with transaction := s.transaction.enterOuter test } :=
        ⟨hs.orderly.setUp, hs.orderly.used⟩
      have hprepared := horderly.prepared_startPhysical w fun hopen => (hs.prepared hopen).attempted
      rw [run_startGroup_outer test w henabled hdepth]
      generalize (startPhysical : Action (Session (Traced C)) E Unit).run _ = q at hprepared ⊢
      obtain ⟨outcome, t, w'⟩ := q
      cases outcome with
      | ok u => exact .inl hprepared
      | error e => exact .inl ⟨⟨hprepared.setUp, hprepared.used⟩, hprepared.attempted⟩
    · rw [run_startGroup_inner test w henabled hdepth]
      exact hs.of_eq (.refl s.config) rfl fun hzero => absurd hzero (Nat.ne_of_gt hdepth)
  · rw [run_startGroup_disabled test w (Bool.eq_false_iff.2 henabled)]
    exact hs

theorem governs_beginManual_settled (test : Bool) :
    (keepingSettled C config).Governs
      (beginManual test : Action (Session (Traced C)) E Unit).run := by
  intro ⟨s, w⟩ hs
  by_cases hidle : s.transaction.enabled = false ∨ 0 < s.transaction.depth
  · rw [run_beginManual_idle test w hidle]
    exact hs
  · obtain ⟨henabled, hdepth⟩ := not_or.1 hidle
    have horderly : Orderly config
        { s with transaction := { s.transaction with failed := test } } :=
      ⟨hs.orderly.setUp, hs.orderly.used⟩
    have hprepared := horderly.prepared_startPhysical w fun hopen => (hs.prepared hopen).attempted
    rw [run_beginManual_outer test w (eq_true_of_ne_false henabled) (Nat.eq_zero_of_not_pos hdepth)]
    generalize (startPhysical : Action (Session (Traced C)) E Unit).run _ = q at hprepared ⊢
    obtain ⟨outcome, t, w'⟩ := q
    cases outcome with
    | ok u => exact .inl ⟨⟨hprepared.setUp, hprepared.used⟩, hprepared.attempted⟩
    | error e => exact .inl hprepared

theorem governs_completeGroup_settled :
    (keepingSettled C config).Governs (completeGroup : Action (Session (Traced C)) E _).run := by
  intro ⟨s, w⟩ hs
  by_cases hdepth : s.transaction.depth = 0
  · by_cases henabled : s.transaction.enabled = true
    · rw [run_completeGroup_inner w henabled (by rw [hdepth]; exact Nat.zero_ne_one)]
      refine hs.of_eq (.refl s.config) rfl fun _ => ?_
      show s.transaction.leave.2.depth = 0
      rw [Transaction.depth_leave, hdepth]
    · rw [run_completeGroup_disabled w (Bool.eq_false_iff.2 henabled)]
      exact hs
  · exact .inl (governs_completeGroup_prepared (s, w) (hs.prepared_of_depth hdepth))

theorem governs_endManual_settled (failed : Bool) :
    (keepingSettled C config).Governs
      (endManual (closeGroup failed) : Action (Session (Traced C)) E Unit).run := by
  intro ⟨s, w⟩ hs
  by_cases hidle : s.transaction.enabled = false ∨ s.transaction.depth ≠ 1
  · rw [run_endManual_idle _ w hidle]
    exact hs
  · obtain ⟨henabled, hdepth⟩ := not_or.1 hidle
    have hdepth : s.transaction.depth = 1 := not_not.1 hdepth
    obtain ⟨hconfig, -, hevents⟩ :=
      endManual_outer failed w (eq_true_of_ne_false henabled) hdepth
    have hprepared := hs.prepared_of_depth (by rw [hdepth]; exact Nat.one_ne_zero)
    refine .inl (hprepared.append (hconfig ▸ .refl s.config) hevents ?_)
    exact List.forall_mem_singleton.2 (by cases failed <;> rfl)

/-- Every operation leaves a settled session settled. -/
theorem governs_perform_settled (op : Operation) :
    (keepingSettled C config).Governs
      (perform op : Action (Session (Traced C)) E Answer).run := by
  have hchange {f : Session (Traced C) → Session (Traced C)}
      (h : ∀ s, SameSetUp (f s).config s.config ∧ (f s).conn = s.conn ∧
        (f s).transaction.depth = s.transaction.depth) :
      (keepingSettled C config).Governs (change f : Action (Session (Traced C)) E Answer).run := by
    refine .run_bind (.run_modifySubject fun s hs => ?_) fun _ => .run_pure
    exact hs.of_eq (h s).1 (h s).2.1 ((h s).2.2 ▸ id)
  by_cases hplain : op.isPlain = true
  · exact governs_plain hplain obeyed_keepingSettled
  · cases op with
    | startGroup test => exact .run_bind (governs_startGroup_settled test) fun _ => .run_pure
    | completeGroup => exact .run_bind governs_completeGroup_settled fun _ => .run_pure
    | beginManual test => exact .run_bind (governs_beginManual_settled test) fun _ => .run_pure
    | commitManual => exact .run_bind (governs_endManual_settled false) fun _ => .run_pure
    | rollbackManual => exact .run_bind (governs_endManual_settled true) fun _ => .run_pure
    | disableTransactions => exact hchange fun s => ⟨.refl s.config, rfl, rfl⟩
    | setStrict strict => exact hchange fun s => ⟨.refl s.config, rfl, rfl⟩
    | setCacheDir directory => exact hchange fun s => ⟨⟨rfl, rfl, rfl⟩, rfl, rfl⟩
    | setTablePrefix tablePrefix => exact hchange fun s => ⟨⟨rfl, rfl, rfl⟩, rfl, rfl⟩
    | _ => exact absurd rfl hplain

/-- **Use of connections that are set up.** Whenever a statement or the beginning of a transaction
reaches the backend, there was an attempt to set the connection up, and the connection is
initialised exactly if no call of the last attempt was refused. -/
theorem initialised_at_use (config : ConnectionConfig) (conn : C) (w : World E)
    (ops : List Operation) (hclosed : Connection.isConnected conn = false) :
    let s := (after ops (create config (Traced.untouched conn), w)).1
    ∀ before e rest, s.conn.events = before ++ e :: rest → e.isUse = true →
      (∃ accepted, ⟨.connect, accepted⟩ ∈ sinceConnect before) ∧
        (Initialised config before ↔
          ∀ e ∈ sinceConnect before, e.isSetUp = true → e.accepted = true) := by
  intro s before e rest hevents huse
  -- settled, not prepared, is the invariant: the first operations need not open the connection
  have hfresh : Settled config (create config (Traced.untouched conn)) :=
    .inr ⟨⟨.refl config, usedWhenAttempted_nil config⟩, hclosed, rfl⟩
  have hs : Settled config s := rel_after (fun op _ => governs_perform_settled op)
    (create config (Traced.untouched conn), w) hfresh
  have hattempted := hs.orderly.used before e rest hevents huse
  exact ⟨hattempted.connect, hattempted.initialised⟩

/-- Settings that name a database. -/
def databaseConfig : ConnectionConfig :=
  { ConnectionConfig.ofKind "mock" with database := "app" }

/-- A statement, and after the connection was closed the beginning of a group. -/
def reopeningRun : List Operation :=
  [.query "SELECT 1" [], .close, .startGroup false]

/-- The calls of that run up to the beginning, if all of them are accepted. -/
def reopeningCalls : List BackendEvent :=
  [⟨.connect, true⟩, ⟨.selectDatabase "app", true⟩,
    ⟨.setCharset "utf8" "utf8_general_ci", true⟩, ⟨.execute "SELECT 1", true⟩, ⟨.close, true⟩,
    ⟨.connect, true⟩, ⟨.selectDatabase "app", true⟩,
    ⟨.setCharset "utf8" "utf8_general_ci", true⟩]

/-- The group finds the connection initialised, as it was set up a second time. -/
theorem initialised_at_use_reopened :
    let s := (after reopeningRun (create databaseConfig
      (Traced.untouched (Scripted.ofDialect .mysql)), (⟨.empty, default⟩ : World Script))).1
    Connection.isConnected (Scripted.ofDialect .mysql) = false ∧
      s.conn.events = reopeningCalls ++ ⟨.startTransaction, true⟩ :: [] ∧
      sinceConnect reopeningCalls = reopeningCalls.drop 5 ∧
      Initialised databaseConfig reopeningCalls := by
  have hevents : (after reopeningRun (create databaseConfig
      (Traced.untouched (Scripted.ofDialect .mysql)),
      (⟨.empty, default⟩ : World Script))).1.conn.events =
        reopeningCalls ++ ⟨.startTransaction, true⟩ :: [] := by
    decide +kernel
  have huse := initialised_at_use databaseConfig (Scripted.ofDialect .mysql) ⟨.empty, default⟩
    reopeningRun rfl reopeningCalls _ _ hevents rfl
  exact ⟨rfl, hevents, by decide, huse.2.2 (by decide)⟩

/-- A server that refuses to select databases. -/
def refusingWorld : World Script :=
  ⟨.empty, ⟨["select_db"], [], [], []⟩⟩

/-- The first statement fails with the database, and the second one is sent without it. -/
theorem initialised_at_use_refused :
    let s := (after [.query "SELECT 1" [], .query "SELECT 1" []]
      (create databaseConfig (Traced.untouched (Scripted.ofDialect .mysql)), refusingWorld)).1
    s.conn.events = [⟨.connect, true⟩, ⟨.selectDatabase "app", false⟩] ++
      ⟨.execute "SELECT 1", true⟩ :: [] ∧
    ¬Initialised databaseConfig [⟨.connect, true⟩, ⟨.selectDatabase "app", false⟩] := by
  refine ⟨by decide +kernel, fun h => ?_⟩
  have hcharset := h.charset
  revert hcharset
  decide

end Session

end SqlGateway
