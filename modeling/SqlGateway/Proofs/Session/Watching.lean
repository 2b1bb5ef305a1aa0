import SqlGateway.Proofs.Backend.Heard
import SqlGateway.Proofs.Session.Following

/-!
# Watching changes nothing

A connection may be watched by one around it that does the same, and keeps notes of what it sees. A
session over it gives the same answers as the session on the connection itself, calls the same
backend and leaves the same world. So what the notes tell is told of every session, and not of some
that behave because they are watched.

Main definitions:

* `Session.forget`, `Session.unheard`: the sessions without the notes.

Main results:

* `Session.run_recast`: a run is the same without the notes.
* `Session.run_forget`, `Session.run_unheard`: in particular it is the same for traced connections,
  and for those whose answers are heard.
-/

namespace SqlGateway

variable {C C' E α : Type}

namespace Session

open Simulation

/-- Sessions on connections that are watched are followed by those on the connections inside. -/
def Shadow.watched (inner : C → C') : Shadow C C' E where
  conn := inner
  debug := id
  holds _ := True
  fails := (exactly (recast inner id)).fails

/-- The session on the connection that is traced. -/
def forget (s : Session (Traced C)) : Session C :=
  recast Traced.conn id s

/-- The session on the connection whose answers are heard. -/
def unheard (s : Session (Heard C)) : Session C :=
  recast Heard.conn id s

/-! ## Work on the connection -/

section

variable {inner : C → C'} {a : Action C E α} {a' : Action C' E α}

theorem mirrors_onConn (h : (exactly inner).Mirrors a.run a'.run) :
    (exactly (recast inner id)).Mirrors (onConn a).run (onConn a').run := by
  intro s w _
  refine ⟨trivial, ?_⟩
  have hrun : a'.run (((exactly (E := E) (recast inner id)).view s).conn, w) = _ :=
    (h s.conn w trivial).2
  rw [run_onConn_apply, run_onConn_apply, hrun]
  rfl

/-- The watched session shows its errors alike. -/
theorem follows_mapError (error : Session C → DbError → DbError)
    (error' : Session C' → DbError → DbError) (herror : ∀ s, error' (recast inner id s) = error s)
    (h : (exactly inner).Mirrors a.run a'.run) :
    (exactly (recast inner id)).Follows
      (do Action.mapError (error (← Action.subject)) (onConn a))
      (do Action.mapError (error' (← Action.subject)) (onConn a')) := by
  refine follows_exactly_iff.2 fun s w _ => ⟨trivial, ?_⟩
  have hrun : a'.run (((exactly (E := E) (recast inner id)).view s).conn, w) = _ :=
    (h s.conn w trivial).2
  have hshown : error' ((exactly (E := E) (recast inner id)).view s) = error s := herror s
  rw [run_mapError_onConn, run_mapError_onConn, hrun, hshown]
  rfl

theorem follows_call (h : (exactly inner).Mirrors a.run a'.run) :
    (exactly (recast inner id)).Follows (call a) (call a') :=
  follows_mapError upgrade upgrade (fun _ => rfl) h

theorem follows_callOr {error : DbError} (h : (exactly inner).Mirrors a.run a'.run) :
    (exactly (recast inner id)).Follows (callOr error a) (callOr error a') :=
  follows_mapError (fun s _ => s.upgrade error) (fun s _ => s.upgrade error) (fun _ => rfl) h

end

/-! ## Runs -/

variable [Connection C] [Connection C'] [Backend C E] [Backend C' E] {inner : C → C'}

/-- What is watched is followed. -/
theorem Shadow.faithful_watched (h : Watches E inner) :
    (Shadow.watched inner : Shadow C C' E).Faithful where
  dialect := h.dialect
  isConnected := h.isConnected
  affectedRows := h.affectedRows
  raise _ := follows_exactly_iff.2 fun _ _ _ => ⟨trivial, rfl⟩
  fails_transaction f hfails := by
    cases hfails
    rfl
  connect config := follows_call (h.connect config)
  reconnect := follows_call h.reconnect
  selectDatabase name _ := follows_callOr (h.selectDatabase name)
  setCharset charset collation _ := follows_callOr (h.setCharset charset collation)
  execute sql := follows_call (h.execute sql)
  startTransaction := follows_call h.startTransaction
  commit := follows_call h.commit
  rollback := follows_call h.rollback
  close s w _ := by
    refine ⟨trivial, ?_⟩
    have hrun : (Backend.close : Effect C' E Unit) (inner s.conn, w) = _ :=
      (h.close s.conn w trivial).2
    show ((), { recast inner id s with
      conn := ((Backend.close : Effect C' E Unit) (inner s.conn, w)).2.1 },
      ((Backend.close : Effect C' E Unit) (inner s.conn, w)).2.2) = _
    rw [hrun]
    rfl

theorem mirrors_unwind (h : Watches E inner) :
    (exactly (recast inner id)).Mirrors (unwind : Effect (Session C) E Unit) unwind := by
  refine .subject_bind fun s => ?_
  show Mirrors _ (unwindFrom s.transaction.depth) (unwindFrom s.transaction.depth)
  have hcomplete : (exactly (recast inner id)).Mirrors
      (completeGroup : Action (Session C) E _).run completeGroup.run :=
    follows_exactly_iff.1 (Shadow.follows_completeGroup (Shadow.faithful_watched h))
  induction s.transaction.depth with
  | zero => exact .pure
  | succ levels ih => exact .bind hcomplete fun _ => .subject_bind fun t => .ite ih .pure

theorem mirrors_reject (h : Watches E inner) {sql : String} {e : DbError} :
    (exactly (recast inner id)).Mirrors (reject sql e : Effect (Session C) E DbError)
      (reject sql e) :=
  .bind (.modifySubject fun _ _ => ⟨trivial, rfl⟩) fun _ => .subject_bind fun _ =>
    .ite (.bind (mirrors_unwind h) fun _ => .pure) .pure

theorem follows_dispatch (h : Watches E inner) {sql : String} :
    (exactly (recast inner id)).Follows (dispatch sql : Action (Session C) E _)
      (dispatch sql) := by
  have hattempt : (exactly (recast inner id)).Follows
      (onConn (Backend.execute sql) : Action (Session C) E _).attempt
      (onConn (Backend.execute sql)).attempt := by
    refine follows_exactly_iff.2 fun s w _ => ⟨trivial, ?_⟩
    rw [Action.run_attempt_apply, Action.run_attempt_apply,
      (mirrors_onConn (h.execute sql) s w trivial).2]
  refine .bind hattempt fun outcome => ?_
  refine .bind (.modifySubject fun _ _ => ⟨trivial, rfl⟩) fun _ => ?_
  cases outcome with
  | ok handle? => exact .pure
  | error e => exact .bind (.act (mirrors_reject h)) fun _ => follows_exactly_iff.2 .pure

/-- **Watching changes nothing.** A run gives the same answers, and leaves the same session and the
same world, whether the connection is watched or not. -/
theorem run_recast (h : Watches E inner) (ops : List Operation) (s : Session C) (w : World E) :
    run ops (recast inner id s, w) =
      ((run ops (s, w)).1, recast inner id (run ops (s, w)).2.1, (run ops (s, w)).2.2) := by
  have hrun : (exactly (recast inner id)).Mirrors (run ops : Effect (Session C) E _) (run ops) := by
    induction ops with
    | nil => exact .pure
    | cons op ops ih =>
      have hop := Shadow.follows_perform (Shadow.faithful_watched h)
        (fun sql => follows_dispatch h) op
      exact .bind (follows_exactly_iff.1 hop) fun _ => .bind ih fun _ => .pure
  exact (hrun s w trivial).2

/-- Tracing is watching. -/
theorem run_forget (ops : List Operation) (s : Session (Traced C))
    (w : World E) :
    run ops (s.forget, w) =
      ((run ops (s, w)).1, (run ops (s, w)).2.1.forget, (run ops (s, w)).2.2) :=
  run_recast Traced.watches ops s w

/-- So is hearing. -/
theorem run_unheard (ops : List Operation) (s : Session (Heard C)) (w : World E) :
    run ops (s.unheard, w) =
      ((run ops (s, w)).1, (run ops (s, w)).2.1.unheard, (run ops (s, w)).2.2) :=
  run_recast Heard.watches ops s w

end Session

end SqlGateway
