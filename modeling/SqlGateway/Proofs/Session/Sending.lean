import SqlGateway.Database
import SqlGateway.Proofs.Session.Control

/-!
# What a write sends

The statements of a plan are the only ones that its write sends, each with the prefix in its place.
A plan without statements sends nothing at all, and its refusal is the answer.

Main definitions:

* `Session.sendingOnly`: the law that no other statements are sent than allowed.

Main results:

* `Session.governs_query_sendingOnly`: a query sends its final text, whatever else it does.
* `Session.rel_sendAll`: a list of statements sends what is in it.
* `Database.run_write`, `Database.sent_of_write`: what becomes of a write, and what it sends.
-/

namespace SqlGateway

variable {C E : Type}

namespace Session

/-- The settings stay, and no statement is sent but those allowed. -/
def sendingOnly (allowed : String → Prop) : Law (Session (Traced C)) where
  rel s t := t.config = s.config ∧ (Traced.appending fun e =>
    ∀ sql, e.statement? = some sql → allowed sql).rel s.conn t.conn
  refl _ := ⟨rfl, Law.refl _ _⟩
  trans hst htu := ⟨htu.1.trans hst.1, Law.trans _ hst.2 htu.2⟩

variable {allowed : String → Prop}

/-- Upkeep sends no statement. -/
theorem sendingOnly_of_upkeep {s t : Session (Traced C)}
    (h : (upkeep (Traced.appending fun e => e.isUpkeep = true)).rel s t) :
    (sendingOnly allowed).rel s t := by
  obtain ⟨hconfig, -, added, hevents, hkept⟩ := h
  refine ⟨hconfig, added, hevents, fun e he sql hsql => ?_⟩
  rw [BackendEvent.statement?_of_isUpkeep (hkept e he)] at hsql
  cases hsql

variable [Connection C] [Backend C E]

/-- Closing a level sends a control call at most. -/
theorem governs_completeGroup_sendingOnly :
    (sendingOnly allowed).Governs (completeGroup : Action (Session (Traced C)) E _).run := by
  intro ⟨s, w⟩
  by_cases henabled : s.transaction.enabled = true
  · by_cases hdepth : s.transaction.depth = 1
    · obtain ⟨hconfig, -, hevents, -⟩ := completeGroup_outer w henabled hdepth
      refine ⟨hconfig, _, hevents, fun e he sql hsql => ?_⟩
      rw [List.mem_singleton.1 he, statement?_closing] at hsql
      cases hsql
    · rw [run_completeGroup_inner w henabled hdepth]
      exact ⟨rfl, Law.refl _ _⟩
  · rw [run_completeGroup_disabled w (Bool.eq_false_iff.2 henabled)]
    exact (sendingOnly allowed).refl s

theorem governs_dispatch_sendingOnly {sql : String} (h : allowed sql) :
    (sendingOnly allowed).Governs (dispatch sql : Action (Session (Traced C)) E _).run := by
  refine governs_dispatch (fun _ _ _ => sendingOnly_of_upkeep (upkeep_notes ..)) ?_
    (fun s => ⟨rfl, Law.refl _ _⟩) governs_completeGroup_sendingOnly
  intro s
  refine ⟨rfl, Traced.governs_noting (fun accepted text htext => ?_) (s.1.conn, s.2)⟩
  rw [← Option.some.inj htext]
  exact h

/-- Without values the final text is the statement with the prefix in its place. -/
theorem finalText_nil {C : Type} [Connection C] (s : Session C) (sql : String) :
    s.finalText sql [] = PrefixSwap.apply s.config.tablePrefix s.config.swapPrefix sql := by
  have hfill (cs : List Char) : Statement.fillMarkers [] cs = cs := by
    cases cs <;> rfl
  unfold finalText Statement.fillBinds
  rw [List.map_nil, hfill, String.ofList_toList]

/-- A query sends its final text and nothing else. -/
theorem rel_query_sendingOnly {sql : String} {s : Session (Traced C)} (w : World E)
    (h : allowed (PrefixSwap.apply s.config.tablePrefix s.config.swapPrefix sql)) :
    (sendingOnly allowed).rel s
      ((query sql [] : Action (Session (Traced C)) E _).run (s, w)).2.1 := by
  refine rel_query (fun _ _ h => sendingOnly_of_upkeep (upkeep_of_unchanged h)) s w ?_
  rw [finalText_nil]
  have hconnect := governs_connect (E := E)
    (.of_upkept (C := Traced C) (Traced.upkept fun _ h => h))
  exact governs_send (hconnect.mono fun _ _ => sendingOnly_of_upkeep)
    (fun _ _ _ => sendingOnly_of_upkeep (upkeep_notes ..)) (governs_dispatch_sendingOnly h)

/-- A list of statements sends those of the list, as far as it gets. -/
theorem rel_sendAll {sqls : List String} {s : Session (Traced C)} (w : World E)
    (h : ∀ sql ∈ sqls,
      allowed (PrefixSwap.apply s.config.tablePrefix s.config.swapPrefix sql)) :
    (sendingOnly allowed).rel s
      ((Database.sendAll sqls : Action (Session (Traced C)) E Nat).run (s, w)).2.1 := by
  induction sqls generalizing s w with
  | nil => exact (sendingOnly allowed).refl s
  | cons sql rest ih =>
    have hfirst := rel_query_sendingOnly w (h sql (List.mem_cons_self ..))
    unfold Database.sendAll
    rw [Action.run_bind_apply]
    generalize (query sql [] : Action (Session (Traced C)) E _).run (s, w) = q at hfirst ⊢
    obtain ⟨outcome, t, w'⟩ := q
    cases outcome with
    | error e => exact hfirst
    | ok result =>
      -- the settings of the session are still the ones it had
      have hrest := ih w' fun sql hsql => by
        rw [hfirst.1]
        exact h sql (List.mem_cons_of_mem _ hsql)
      refine (sendingOnly allowed).trans hfirst ?_
      show (sendingOnly allowed).rel t ((do
        let s : Session (Traced C) ← Action.subject
        let affected := Connection.affectedRows s.conn
        return affected + (← Database.sendAll rest) :
          Action (Session (Traced C)) E Nat).run (t, w')).2.1
      rw [Action.run_bind_apply, Action.run_subject_apply]
      dsimp only
      rw [Action.run_bind_apply]
      cases ((Database.sendAll rest : Action (Session (Traced C)) E Nat).run (t, w')).1 <;>
        exact hrest

end Session

namespace Database

variable [Connection C] [Backend C E]

/-- The session after a write is that after its statements, and the builder is that of the plan. A
refusal is the answer where no statement went wrong. -/
theorem run_write (f : Style → Builder → Plan) (s : Session C) (b : Builder) (w : World E) :
    let plan := f ⟨s.dialect, s.rules⟩ b
    let q := (sendAll plan.statements : Action (Session C) E Nat).run (s, w)
    (write f : Action (Database C) E Nat).run (⟨s, some b⟩, w) =
      (q.1.bind fun n => plan.refusal.elim (.ok n) fun r => .error (q.2.1.upgrade r.error),
        ⟨q.2.1, some plan.after⟩, q.2.2) := by
  intro plan q
  have hbuilder : (needBuilder : Action (Database C) E Builder).run (⟨s, some b⟩, w) =
      (.ok b, ⟨s, some b⟩, w) :=
    rfl
  have hsent : (onSession (sendAll plan.statements) : Action (Database C) E Nat).run
      (⟨s, some b⟩, w) = (q.1, ⟨q.2.1, some b⟩, q.2.2) :=
    rfl
  have hstyle : style (⟨s, some b⟩ : Database C) = ⟨s.dialect, s.rules⟩ := rfl
  unfold write
  rw [Action.run_bind_apply, hbuilder]
  dsimp only
  rw [Action.run_bind_apply, Action.run_subject_apply]
  dsimp only
  rw [hstyle, Action.run_bind_apply, Action.run_attempt_apply, hsent]
  simp only [Action.run_bind_apply, setBuilder, Action.run_modifySubject_apply,
    Action.run_ofExcept_apply]
  show _ = (q.1.bind fun n => plan.refusal.elim _ _, _)
  cases q.1 with
  | error e => rfl
  | ok n =>
    dsimp only
    cases plan.refusal <;> rfl

/-- What a write sends is in its plan. -/
theorem sent_of_write (f : Style → Builder → Plan) (s : Session (Traced C)) (b : Builder)
    (w : World E) :
    let r := (write f : Action (Database (Traced C)) E Nat).run (⟨s, some b⟩, w)
    ∃ added, r.2.1.session.conn.events = s.conn.events ++ added ∧
      ∀ e ∈ added, ∀ sent, e.statement? = some sent →
        ∃ sql ∈ (f ⟨s.dialect, s.rules⟩ b).statements,
          sent = PrefixSwap.apply s.config.tablePrefix s.config.swapPrefix sql := by
  intro r
  have hr : r = _ := run_write f s b w
  rw [hr]
  exact (Session.rel_sendAll w fun sql hsql => ⟨sql, hsql, rfl⟩).2

end Database

end SqlGateway
