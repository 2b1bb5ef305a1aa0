import SqlGateway.Backend.Scripted
import SqlGateway.Proofs.Database.Operation

/-!
# Debug mode only upgrades errors

Debug mode is one flag of a session. A database with the flag does what the one without it does,
until something goes wrong; and then it fails in the same place, with the same error upgraded once.
No path to an error misses the upgrade and none takes it twice, whether the error comes from the
backend, from the session or from the builder, and however many levels of calls it passes.

What a backend may not do for this to hold is to upgrade errors by itself, or to look at the flag
among the settings that it is opened with (`Impartial`). Scripted backends do neither.

Main definitions:

* `Impartial`: backends that leave debug mode to the session.
* `Session.Shadow.debugging`: sessions in debug mode follow those that are not.
* `DbError.Upgraded`: what an error in debug mode is to the one without it.

Main result:

* `Database.debugging_upgrades`: up to the first failure nothing differs, and then only the error.
-/

namespace SqlGateway

namespace DbError

/-- The second error is the first one upgraded: it is fatal, tells the same cause, and can be
upgraded no further. -/
structure Upgraded (e e' : DbError) : Prop where
  plain : e.isUpgrade = false
  eq_intoFatal : e' = e.intoFatal
  isFatal : e'.isFatal = true
  root : e'.root = e.root
  isUsage : e'.isUsage = e.isUsage
  isQuery : e'.isQuery = e.isQuery
  once : e'.intoFatal = e'
  /-- Errors of configuration are fatal by themselves. -/
  shape : if e.isFatal then e' = e else e' = .fatal e.fatalText e

theorem upgraded_intoFatal {e : DbError} (h : e.isUpgrade = false) : Upgraded e e.intoFatal where
  plain := h
  eq_intoFatal := rfl
  isFatal := isFatal_intoFatal e
  root := root_intoFatal e
  isUsage := by rw [isUsage, isUsage, root_intoFatal]
  isQuery := by rw [isQuery, isQuery, root_intoFatal]
  once := intoFatal_of_isFatal (isFatal_intoFatal e)
  shape := by
    rw [intoFatal]
    split <;> rfl

theorem isUpgrade_withStatement (e : DbError) (sql : String) :
    (e.withStatement sql).isUpgrade = e.isUpgrade := by
  cases e <;> rfl

end DbError

variable {C E X α β : Type}

/-! ## Backends -/

/-- The errors of the action were not upgraded. -/
def Action.FailsPlainly (a : Action X E α) : Prop :=
  ∀ s e t, a.run s = (.error e, t) → e.isUpgrade = false

/-- A backend that upgrades no errors by itself and does not look at the debug flag. -/
structure Impartial (C E : Type) [Connection C] [Backend C E] : Prop where
  connect_debug : ∀ (config : ConnectionConfig) debug,
    (Backend.connect { config with debug } : Action C E Unit) = Backend.connect config
  connect : ∀ config, (Backend.connect config : Action C E Unit).FailsPlainly
  reconnect : (Backend.reconnect : Action C E Unit).FailsPlainly
  execute : ∀ sql, (Backend.execute sql : Action C E _).FailsPlainly
  startTransaction : (Backend.startTransaction : Action C E Unit).FailsPlainly
  commit : (Backend.commit : Action C E Unit).FailsPlainly
  rollback : (Backend.rollback : Action C E Unit).FailsPlainly

/-- An action fails plainly if its parts do. -/
theorem Action.FailsPlainly.bind {a : Action X E α} {f : α → Action X E β} (ha : a.FailsPlainly)
    (hf : ∀ x, (f x).FailsPlainly) : (a >>= f).FailsPlainly := by
  intro s e t hr
  rw [run_bind_apply] at hr
  rcases hs : a.run s with ⟨e₁ | x, u⟩
  · rw [hs] at hr
    cases hr
    exact ha _ _ _ hs
  · rw [hs] at hr
    exact hf x _ _ _ hr

theorem Action.FailsPlainly.throw {e : DbError} (h : e.isUpgrade = false) :
    (throw e : Action X E α).FailsPlainly := by
  intro s e' t hr
  cases hr
  exact h

theorem Action.FailsPlainly.of_ok {a : Action X E α} (h : ∀ s, (a.run s).1.isOk = true) :
    a.FailsPlainly := by
  intro s e t hr
  have hok := h s
  rw [hr] at hok
  cases hok

/-! ## Scripted backends -/

namespace Scripted

theorem failsPlainly_note (entry : String) : (note entry).FailsPlainly :=
  .of_ok fun _ => rfl

theorem failsPlainly_allow (call : String) : (allow call).FailsPlainly := by
  refine .bind (.of_ok fun _ => rfl) fun script => ?_
  split
  · exact .throw rfl
  · exact .of_ok fun _ => rfl

theorem isUpgrade_error (f : Failure) : f.error.isUpgrade = false := by
  unfold Failure.error
  cases f.kind <;> rfl

theorem failsPlainly_execute (sql : String) : (execute sql).FailsPlainly := by
  refine .bind (failsPlainly_note _) fun _ => .bind (.of_ok fun _ => rfl) fun _ => ?_
  refine .bind (.of_ok fun _ => rfl) fun script => ?_
  dsimp only
  split
  · exact .bind (.of_ok fun _ => rfl) fun _ => .throw (isUpgrade_error _)
  · exact .of_ok fun _ => rfl

theorem failsPlainly_run (sql : String) : (run sql).FailsPlainly :=
  .bind (failsPlainly_execute sql) fun _ => .of_ok fun _ => rfl

theorem failsPlainly_connect (config : ConnectionConfig) : (connect config).FailsPlainly := by
  refine .bind (.of_ok fun _ => rfl) fun c => .bind (failsPlainly_note _) fun _ => ?_
  exact .bind (failsPlainly_allow _) fun _ => .of_ok fun _ => rfl

theorem failsPlainly_reconnect : reconnect.FailsPlainly := by
  refine .bind (.of_ok fun _ => rfl) fun c => ?_
  split
  · exact .bind (failsPlainly_note _) fun _ => failsPlainly_allow _
  · exact .of_ok fun _ => rfl

/-- Scripts fail in their own words, whoever listens. -/
theorem impartial : Impartial Scripted Script where
  connect_debug _ _ := rfl
  connect := failsPlainly_connect
  reconnect := failsPlainly_reconnect
  execute := failsPlainly_execute
  startTransaction := failsPlainly_run _
  commit := failsPlainly_run _
  rollback := failsPlainly_run _

end Scripted

/-! ## Sessions -/

namespace Session

/-- Sessions in debug mode follow those that are not. Where these fail, with an error that is no
upgrade, they fail with the upgrade of that error. -/
def Shadow.debugging (C E : Type) : Shadow C C E where
  conn := id
  debug _ := true
  holds debug := debug = false
  fails r r' := r.1.isUpgrade = false ∧ r'.1 = r.1.intoFatal

open Simulation Shadow

theorem upgrade_of_not_debug {s : Session C} (h : s.config.debug = false) (e : DbError) :
    s.upgrade e = e := by
  simp only [upgrade, h, Bool.false_eq_true, ↓reduceIte]

/-- A failure of the session's own is shown upgraded. -/
theorem raise_debugging {e : DbError} (he : e.isUpgrade = false) :
    (debugging C E).sim.Follows (raise e : Action (Session C) E α) (raise e) where
  done _ hr := by cases hr
  failed {s w _ _} hs hr := by
    cases hr
    refine ⟨e.intoFatal, _, rfl, ?_⟩
    rw [upgrade_of_not_debug hs]
    exact ⟨he, rfl⟩

/-- So is a failure of a call, whatever the session makes of it before. -/
theorem mapError_debugging {a : Action C E α} {f : DbError → DbError}
    (hf : ∀ {s e t}, a.run s = (.error e, t) → (f e).isUpgrade = false) :
    (debugging C E).sim.Follows
      (do
        let s : Session C ← Action.subject
        Action.mapError (fun e => s.upgrade (f e)) (onConn a))
      (do
        let s : Session C ← Action.subject
        Action.mapError (fun e => s.upgrade (f e)) (onConn a)) where
  done {s w r t} hs hr := by
    rw [run_mapError_onConn] at hr ⊢
    rw [show ((debugging C E).sim.view s).conn = s.conn from rfl]
    rcases ha : a.run (s.conn, w) with ⟨e | q, u⟩
    · rw [ha] at hr
      cases hr
    · rw [ha] at hr
      cases hr
      exact ⟨hs, rfl⟩
  failed {s w e t} hs hr := by
    rw [run_mapError_onConn] at hr ⊢
    rw [show ((debugging C E).sim.view s).conn = s.conn from rfl]
    rcases ha : a.run (s.conn, w) with ⟨e₁ | q, u⟩
    · rw [ha] at hr
      cases hr
      refine ⟨(f e₁).intoFatal, _, rfl, ?_⟩
      dsimp only
      rw [upgrade_of_not_debug hs]
      exact ⟨hf ha, rfl⟩
    · rw [ha] at hr
      cases hr

theorem call_debugging {a : Action C E α} (ha : a.FailsPlainly) :
    (debugging C E).sim.Follows (call a : Action (Session C) E α) (call a) :=
  mapError_debugging (f := id) (ha _ _ _)

theorem callOr_debugging {a : Action C E α} {error : DbError} (he : error.isUpgrade = false) :
    (debugging C E).sim.Follows (callOr error a : Action (Session C) E α) (callOr error a) :=
  mapError_debugging (f := fun _ => error) fun _ => he

variable [Connection C] [Backend C E]

theorem faithful_debugging (h : Impartial C E) : (debugging C E).Faithful where
  dialect _ := rfl
  isConnected _ := rfl
  affectedRows _ := rfl
  raise := raise_debugging
  fails_transaction _ hfails := hfails
  connect config := by
    have hconnect : (Backend.connect { config with debug := true } : Action C E Unit) =
        Backend.connect config := h.connect_debug config true
    show (debugging C E).sim.Follows _ (call (Backend.connect { config with debug := true }))
    rw [hconnect]
    exact call_debugging (h.connect config)
  reconnect := call_debugging h.reconnect
  selectDatabase _ := callOr_debugging
  setCharset _ _ := callOr_debugging
  execute sql := call_debugging (h.execute sql)
  startTransaction := call_debugging h.startTransaction
  commit := call_debugging h.commit
  rollback := call_debugging h.rollback
  close _ _ hs := ⟨hs, rfl⟩

/-- What is shown of a rejected statement does not depend on how its transaction is ended. -/
theorem reject_fst (sql : String) (e : DbError) (s : Session C) (w : World E) :
    ((reject sql e : Effect (Session C) E DbError) (s, w)).1 = s.upgrade (e.withStatement sql) := by
  unfold reject
  rw [Effect.bind_apply, Effect.modifySubject_apply, Effect.bind_apply, Effect.subject_apply]
  dsimp only
  split <;> rfl

/-- A rejected statement ends the transaction in debug mode alone, but only as it fails. -/
theorem dispatch_debugging (h : Impartial C E) (sql : String) :
    (debugging C E).sim.Follows (dispatch sql : Action (Session C) E _) (dispatch sql) where
  done {s w r t} hs hr := by
    rw [run_dispatch] at hr ⊢
    rw [show ((debugging C E).sim.view s).conn = s.conn from rfl]
    rcases ha : (Backend.execute sql : Action C E _).run (s.conn, w) with ⟨e | q, u⟩
    · rw [ha] at hr
      cases hr
    · rw [ha] at hr
      cases hr
      exact ⟨hs, rfl⟩
  failed {s w e t} hs hr := by
    rw [run_dispatch] at hr ⊢
    rw [show ((debugging C E).sim.view s).conn = s.conn from rfl]
    rcases ha : (Backend.execute sql : Action C E _).run (s.conn, w) with ⟨e₁ | q, u⟩
    · rw [ha] at hr
      -- only what is shown matters: the levels that are closed for it are gone with the failure
      have he : ((reject sql e₁ : Effect (Session C) E DbError)
          ({ s with conn := u.1, executed := s.executed + 1 }, u.2)).1 = e :=
        Except.error.inj (congrArg Prod.fst hr)
      rw [reject_fst] at he
      replace he : e₁.withStatement sql = e := (upgrade_of_not_debug hs _).symm.trans he
      refine ⟨_, _, rfl, ?_, ?_⟩
      · rw [← he, DbError.isUpgrade_withStatement]
        exact h.execute sql _ _ _ ha
      · show _ = e.intoFatal
        rw [← he]
        exact reject_fst sql e₁
          { (debugging C E).sim.view s with conn := u.1, executed := s.executed + 1 } u.2
    · rw [ha] at hr
      cases hr

end Session

/-! ## Databases -/

namespace Database

open Session

/-- The database in debug mode. -/
def debugged (d : Database C) : Database C :=
  { d with session.config.debug := true }

variable [Connection C] [Backend C E]

/-- **Debug mode only upgrades errors.** As long as nothing fails the answers are the same, and so
are the world that is left, the backend's log in it, and the database but for the flag. Where an
operation is the first one to fail, it fails in debug mode with the same error, upgraded. -/
theorem debugging_upgrades (hC : Impartial C E) {d mid : Database C} {w world : World E}
    {before : List Operation} {answers : List (Except DbError Answer)}
    (hd : d.session.config.debug = false) (hrun : run before (d, w) = (answers, mid, world))
    (hanswers : ∀ answer ∈ answers, answer.isOk = true) (op : Operation) :
    run before (d.debugged, w) = (answers, mid.debugged, world) ∧
      (∀ answer t v, (perform op).run (mid, world) = (.ok answer, t, v) →
        (perform op).run (mid.debugged, world) = (.ok answer, t.debugged, v)) ∧
      ∀ e t, (perform op).run (mid, world) = (.error e, t) →
        ∃ e' t', (perform op).run (mid.debugged, world) = (.error e', t') ∧ e.Upgraded e' := by
  have hfaithful := faithful_debugging hC
  have hdispatch := dispatch_debugging hC
  obtain ⟨hmid, hsame⟩ := run_followed hfaithful hdispatch before w hd
    (by rw [hrun]; exact hanswers)
  rw [hrun] at hmid hsame
  have hop := follows_perform hfaithful hdispatch op
  refine ⟨hsame, fun answer t v hr => (hop.done hmid hr).2, fun e t hr => ?_⟩
  obtain ⟨e', t', hrun', hplain, hupgrade⟩ := hop.failed hmid hr
  refine ⟨e', t', hrun', ?_⟩
  rw [show e' = e.intoFatal from hupgrade]
  exact DbError.upgraded_intoFatal hplain

/-- A session that was not used yet, on a backend that rejects statements about a ghost. -/
def hauntedStart : Database Scripted × World Script :=
  (create (ConnectionConfig.ofKind "mock") (Scripted.ofDialect .mysql),
    ⟨.empty, { (default : Script) with failures := [⟨"ghost", 1146, "There is none.", .query⟩] }⟩)

/-- A group is opened, and a statement of it is accepted. -/
def groupRun : List Operation :=
  [.session (.startGroup false), .session (.query "SELECT 1" [])]

/-- The next statement of the group is rejected, with the backend's words where debug mode is off,
and with a fatal error around them where it is on. -/
theorem debugging_upgrades_haunted :
    ∃ answers mid world, Impartial Scripted Script ∧
      hauntedStart.1.session.config.debug = false ∧
      run groupRun hauntedStart = (answers, mid, world) ∧
      (∀ answer ∈ answers, answer.isOk = true) ∧
      run groupRun (hauntedStart.1.debugged, hauntedStart.2) = (answers, mid.debugged, world) ∧
      ∃ e t t', e = .query 1146 "There is none." "SELECT ghost" ∧
        (perform (.session (.query "SELECT ghost" []))).run (mid, world) = (.error e, t) ∧
        (perform (.session (.query "SELECT ghost" []))).run (mid.debugged, world) =
          (.error (.fatal e.fatalText e), t') := by
  have hanswers : ∀ answer ∈ (run groupRun hauntedStart).1, answer.isOk = true := by
    have hall : (run groupRun hauntedStart).1.all Except.isOk = true := by decide +kernel
    exact List.all_eq_true.1 hall
  have hrejected : (match ((perform (.session (.query "SELECT ghost" []))).run
      (run groupRun hauntedStart).2).1 with
      | .ok _ => none
      | .error e => some e) = some (.query 1146 "There is none." "SELECT ghost") := by
    decide +kernel
  obtain ⟨⟨answers, mid, world⟩, hrun⟩ : ∃ r, run groupRun hauntedStart = r := ⟨_, rfl⟩
  rw [hrun] at hanswers hrejected
  rcases hop : (perform (.session (.query "SELECT ghost" [])) :
    Action (Database Scripted) Script Answer).run (mid, world) with ⟨e | answer, t⟩
  · rw [hop] at hrejected
    obtain ⟨hsame, -, hfailed⟩ := debugging_upgrades Scripted.impartial
      (d := hauntedStart.1) rfl hrun hanswers (.session (.query "SELECT ghost" []))
    obtain ⟨e', t', hrun', hupgraded⟩ := hfailed e t hop
    obtain rfl : e = _ := Option.some.inj hrejected
    obtain rfl : e' = _ := hupgraded.shape
    exact ⟨answers, mid, world, Scripted.impartial, rfl, hrun, hanswers, hsame, _, t, t', rfl, hop,
      hrun'⟩
  · rw [hop] at hrejected
    cases hrejected

end Database

end SqlGateway
