import SqlGateway.Database
import SqlGateway.Proofs.Session.Following

/-!
# Operations on a database

Everything that a caller can do with a session and its builder, as data. What a call makes of the
builder, and which statements it has the builder write, is left open: an operation carries the
function that says so, so that statements range over all calls that there are or might be.

Main definitions:

* `Database.Operation`, `Database.perform`, `Database.run`: operations, and operations one after the
  other.
* `Backend.Disconnects`: closing a connection gives it up.
* `Law.onDatabase`: a law of sessions, of the session in a database.
* `Session.Shadow.onDatabase`: databases whose sessions follow each other, with one builder.

Main results:

* `Database.governs_perform`, `Database.rel_run`: a law that governs what is done with a session
  governs what is done with a database.
* `Database.follows_perform`: each operation follows itself.
* `Database.run_followed`: so does a run in which nothing fails.
-/

namespace SqlGateway.Database

open Session (Answer)

/-- The operations, those of the builder told apart by what they do with the session. -/
inductive Operation where
  | session (op : Session.Operation)
  | insertText (table : String) (record : Record)
  | updateText (table : String) (record : Record) (condition : String)
  /-- A call that changes the builder. -/
  | call (f : Style → Builder → Except Refusal Builder)
  | compile (f : Style → Builder → String × Builder)
  | read (f : Style → Builder → Read)
  | count (f : Style → Builder → Read)
  | write (f : Style → Builder → Plan)

variable {C C' E α : Type}

section
variable [Connection C] [Backend C E]

def perform : Operation → Action (Database C) E Answer
  | .session op => onSession (Session.perform op)
  | .insertText table record =>
    return .text ((← Action.subject).session.insertText table record)
  | .updateText table record condition =>
    return .text (← onSession (Session.updateText table record condition))
  | .call f => do call f; return .done
  | .compile f => return .text (← compile f)
  | .read f => return .statement (.rows (← read f))
  | .count f => return .count (← count f)
  | .write f => return .count (← write f)

/-- The answers to operations. A failed operation is answered by its error. -/
def run : List Operation → Effect (Database C) E (List (Except DbError Answer))
  | [] => return []
  | op :: ops => do
    let answer ← (perform op).run
    return answer :: (← run ops)

theorem run_cons (op : Operation) (ops : List Operation) (d : Database C × World E) :
    run (op :: ops) d = (((perform op).run d).1 :: (run ops ((perform op).run d).2).1,
      (run ops ((perform op).run d).2).2) :=
  rfl

end

/-! ## Closing -/

end Database

/-- A connection is not open any more once it was closed. -/
def Backend.Disconnects (C E : Type) [Connection C] [Backend C E] : Prop :=
  ∀ s : C × World E, Connection.isConnected ((Backend.close : Effect C E Unit) s).2.1 = false

namespace Database

variable [Connection C]

def isOpen (d : Database C) : Bool :=
  d.session.isConnected

variable [Backend C E]

theorem isOpen_release (h : Backend.Disconnects C E) (d : Database C) (w : World E) :
    ((release : Effect (Database C) E Unit) (d, w)).2.1.isOpen = false := by
  show ((Session.close : Effect (Session C) E Unit) (d.session, w)).2.1.isConnected = false
  unfold Session.close
  rw [Effect.bind_apply, Effect.subject_apply]
  cases hopen : d.session.isConnected with
  | false => exact hopen
  | true =>
    simp only [↓reduceIte]
    exact h (d.session.conn, w)

/-! ## Laws -/

end Database

/-- What a law says of sessions, said of the session in a database. -/
def Law.onDatabase {C : Type} (L : Law (Session C)) : Law (Database C) where
  rel d d' := L.rel d.session d'.session
  refl d := L.refl d.session
  trans := L.trans

namespace Database

open Session (Answer)

variable {L : Law (Session C)}

theorem governs_onSession {a : Action (Session C) E α} (h : L.Governs a.run) :
    L.onDatabase.Governs (onSession a).run :=
  fun s => h (s.1.session, s.2)

theorem governs_setBuilder {b : Builder} :
    L.onDatabase.Governs (setBuilder b : Action (Database C) E Unit).run :=
  .run_modifySubject fun d => L.refl d.session

theorem governs_refuse {r : Refusal} :
    L.onDatabase.Governs (onSession (Session.refuse r) : Action (Database C) E α).run :=
  governs_onSession Session.governs_raise

theorem governs_needBuilder :
    L.onDatabase.Governs (needBuilder : Action (Database C) E Builder).run := by
  refine .run_bind .run_subject fun d => ?_
  cases d.builder with
  | some b => exact .run_pure
  | none => exact governs_refuse

/-- Work on the session, after which the builder is put back. -/
theorem governs_attempt_setBuilder {a : Action (Session C) E α} {b : Builder}
    (h : L.Governs a.run) :
    L.onDatabase.Governs (do
      let outcome ← (onSession a).attempt
      setBuilder b
      Action.ofExcept outcome : Action (Database C) E α).run :=
  .run_bind (.run_attempt (governs_onSession h)) fun _ =>
    .run_bind governs_setBuilder fun _ => fun s => L.refl s.1.session

section
variable [Connection C] [Backend C E]

theorem governs_sendAll
    (h : ∀ sql, L.Governs (Session.query sql [] : Action (Session C) E _).run)
    (sqls : List String) : L.Governs (sendAll sqls : Action (Session C) E Nat).run := by
  induction sqls with
  | nil => exact .run_pure
  | cons sql rest ih =>
    exact .run_bind (h sql) fun _ => .run_bind .run_subject fun _ => .run_bind ih fun _ => .run_pure

theorem governs_read (h : ∀ sql, L.Governs (Session.query sql [] : Action (Session C) E _).run)
    {f : Style → Builder → Read} :
    L.onDatabase.Governs (read f : Action (Database C) E Cursor).run := by
  refine .run_bind governs_needBuilder fun b => .run_bind .run_subject fun d => ?_
  exact governs_attempt_setBuilder (.run_bind (h _) fun _ => .run_pure)

theorem governs_write (h : ∀ sql, L.Governs (Session.query sql [] : Action (Session C) E _).run)
    {f : Style → Builder → Plan} :
    L.onDatabase.Governs (write f : Action (Database C) E Nat).run := by
  refine .run_bind governs_needBuilder fun b => .run_bind .run_subject fun d => ?_
  have hsent := governs_attempt_setBuilder (b := (f d.style b).after)
    (governs_sendAll h (f d.style b).statements)
  -- the refusal of a plan comes after its statements, so it is a part of its own
  simp only [← bind_assoc]
  refine .run_bind hsent fun affected => ?_
  cases (f d.style b).refusal with
  | none => exact .run_pure
  | some r => exact governs_refuse

/-- A law that governs the operations on a session governs those on a database. -/
theorem governs_perform
    (h : ∀ op, L.Governs (Session.perform op : Action (Session C) E Answer).run) (op : Operation) :
    L.onDatabase.Governs (perform op : Action (Database C) E Answer).run := by
  have hquery (sql : String) : L.Governs (Session.query sql [] : Action (Session C) E _).run := by
    intro s
    have hanswer := h (.query sql []) s
    rw [Session.perform, Session.state_answer] at hanswer
    exact hanswer
  cases op with
  | session op => exact governs_onSession (h op)
  | insertText table record => exact .run_bind .run_subject fun _ => .run_pure
  | updateText table record condition =>
    refine .run_bind (governs_onSession ?_) fun _ => .run_pure
    unfold Session.updateText
    split
    · exact .run_bind Session.governs_raise fun _ => .run_bind .run_subject fun _ => .run_pure
    · exact .run_bind .run_subject fun _ => .run_pure
  | call f =>
    refine .run_bind ?_ fun _ => .run_pure
    refine .run_bind governs_needBuilder fun b => .run_bind .run_subject fun d => ?_
    cases f d.style b with
    | ok b => exact governs_setBuilder
    | error r => exact governs_refuse
  | compile f =>
    refine .run_bind ?_ fun _ => .run_pure
    refine .run_bind governs_needBuilder fun b => .run_bind .run_subject fun d => ?_
    exact .run_bind governs_setBuilder fun _ => .run_pure
  | read f => exact .run_bind (governs_read hquery) fun _ => .run_pure
  | count f => exact .run_bind (.run_bind (governs_read hquery) fun _ => .run_pure) fun _ => .run_pure
  | write f => exact .run_bind (governs_write hquery) fun _ => .run_pure

/-- And so it governs runs. -/
theorem rel_run (h : ∀ op, L.Governs (Session.perform op : Action (Session C) E Answer).run)
    (ops : List Operation) (d : Database C × World E) :
    L.rel d.1.session (run ops d).2.1.session := by
  induction ops generalizing d with
  | nil => exact L.refl d.1.session
  | cons op ops ih =>
    rw [run_cons]
    exact L.trans (governs_perform h op d) (ih _)

end

/-! ## Following -/

end Database

/-- Databases whose sessions follow each other, with the same builder. -/
def Session.Shadow.onDatabase {C C' E : Type} (F : Session.Shadow C C' E) :
    Simulation (Database C) (Database C') E where
  view d := ⟨F.cast d.session, d.builder⟩
  holds d := F.sim.holds d.session
  fails r r' := F.fails (r.1, r.2.1.session, r.2.2) (r'.1, r'.2.1.session, r'.2.2)

namespace Database

open Session (Answer)
open Simulation

variable {F : Session.Shadow C C' E}

theorem run_onSession_apply (a : Action (Session C) E α) (d : Database C) (w : World E) :
    (onSession a).run (d, w) = ((a.run (d.session, w)).1,
      { d with session := (a.run (d.session, w)).2.1 }, (a.run (d.session, w)).2.2) :=
  rfl

theorem follows_onSession {a : Action (Session C) E α} {a' : Action (Session C') E α}
    (h : F.sim.Follows a a') : F.onDatabase.Follows (onSession a) (onSession a') where
  done {d w r t} hd hr := by
    rw [run_onSession_apply] at hr ⊢
    rcases hs : a.run (d.session, w) with ⟨e | q, s⟩
    · rw [hs] at hr
      cases hr
    · rw [hs] at hr
      cases hr
      obtain ⟨hend, hrun⟩ := h.done hd hs
      rw [show a'.run ((F.onDatabase.view d).session, w) = _ from hrun]
      exact ⟨hend, rfl⟩
  failed {d w e t} hd hr := by
    rw [run_onSession_apply] at hr ⊢
    rcases hs : a.run (d.session, w) with ⟨e | q, s⟩
    · rw [hs] at hr
      cases hr
      obtain ⟨e', s', hrun, hfails⟩ := h.failed hd hs
      rw [show a'.run ((F.onDatabase.view d).session, w) = _ from hrun]
      exact ⟨e', _, rfl, hfails⟩
    · rw [hs] at hr
      cases hr

/-! ## The builder -/

theorem follows_setBuilder {b : Builder} :
    F.onDatabase.Follows (setBuilder b : Action (Database C) E Unit) (setBuilder b) :=
  .modifySubject fun _ hd => ⟨hd, rfl⟩

/-- The builder is left as it would be, however the work on the session ends. -/
theorem follows_attempt_setBuilder {a : Action (Session C) E α} {a' : Action (Session C') E α}
    {b : Builder} (ha : F.sim.Follows a a') :
    F.onDatabase.Follows
      (do
        let outcome ← (onSession a).attempt
        setBuilder b
        .ofExcept outcome)
      (do
        let outcome ← (onSession a').attempt
        setBuilder b
        .ofExcept outcome) := by
  refine .attempt_bind (follows_onSession ha) (fun r => ?_) fun hfails => ?_
  · exact .bind follows_setBuilder fun _ => .pure
  · exact ⟨_, _, _, _, rfl, rfl, hfails⟩

variable [Connection C] [Connection C'] [Backend C E] [Backend C' E]

section

variable (h : F.Faithful)
include h

theorem style_view (d : Database C) : (F.onDatabase.view d).style = d.style := by
  unfold style
  rw [show (F.onDatabase.view d).session = F.cast d.session from rfl, Session.Shadow.dialect_cast h,
    Session.Shadow.rules_cast h]

/-- A refusal is followed by a refusal. -/
theorem follows_refuse {r : Refusal} :
    F.onDatabase.Follows (onSession (Session.refuse r) : Action (Database C) E α)
      (onSession (Session.refuse r)) :=
  follows_onSession (h.raise rfl)

theorem follows_needBuilder :
    F.onDatabase.Follows (needBuilder : Action (Database C) E Builder) needBuilder := by
  refine .subject_bind fun d => ?_
  rw [show (F.onDatabase.view d).builder = d.builder from rfl]
  cases d.builder with
  | some b => exact .pure
  | none => exact follows_refuse h

theorem follows_call {f : Style → Builder → Except Refusal Builder} :
    F.onDatabase.Follows (call f : Action (Database C) E Unit) (call f) := by
  refine .bind (follows_needBuilder h) fun b => .subject_bind fun d => ?_
  rw [style_view h]
  cases f d.style b with
  | ok b => exact follows_setBuilder
  | error r => exact follows_refuse h

theorem follows_compile {f : Style → Builder → String × Builder} :
    F.onDatabase.Follows (compile f : Action (Database C) E String) (compile f) := by
  refine .bind (follows_needBuilder h) fun b => .subject_bind fun d => ?_
  rw [style_view h]
  exact .bind follows_setBuilder fun _ => .pure

variable (hdispatch : ∀ sql, F.sim.Follows (Session.dispatch sql : Action (Session C) E _)
  (Session.dispatch sql))
include hdispatch

theorem follows_read {f : Style → Builder → Read} :
    F.onDatabase.Follows (read f : Action (Database C) E Cursor) (read f) := by
  refine .bind (follows_needBuilder h) fun b => .subject_bind fun d => ?_
  rw [style_view h]
  exact follows_attempt_setBuilder (Session.Shadow.follows_read h hdispatch)

theorem follows_count {f : Style → Builder → Read} :
    F.onDatabase.Follows (count f : Action (Database C) E Nat) (count f) :=
  .bind (follows_read h hdispatch) fun _ => .pure

theorem follows_sendAll (sqls : List String) :
    F.sim.Follows (sendAll sqls : Action (Session C) E Nat) (sendAll sqls) := by
  induction sqls with
  | nil => exact .pure
  | cons sql rest ih =>
    refine .bind (Session.Shadow.follows_query h hdispatch) fun _ => .subject_bind fun s => ?_
    rw [show (F.sim.view s).conn = F.conn s.conn from rfl, h.affectedRows]
    exact .bind ih fun _ => .pure

theorem follows_write {f : Style → Builder → Plan} :
    F.onDatabase.Follows (write f : Action (Database C) E Nat) (write f) := by
  refine .bind (follows_needBuilder h) fun b => .subject_bind fun d => ?_
  rw [style_view h]
  have hsent := follows_attempt_setBuilder (b := (f d.style b).after)
    (follows_sendAll h hdispatch (f d.style b).statements)
  -- the refusal of a plan comes after its statements, so it is a part of its own
  simp only [← bind_assoc]
  refine .bind hsent fun affected => ?_
  cases (f d.style b).refusal with
  | none => exact .pure
  | some r => exact follows_refuse h

/-! ## Runs -/

/-- Each operation follows itself. -/
theorem follows_perform (op : Operation) :
    F.onDatabase.Follows (perform op : Action (Database C) E Answer) (perform op) := by
  cases op with
  | session op => exact follows_onSession (Session.Shadow.follows_perform h hdispatch op)
  | insertText table record =>
    refine .subject_bind fun d => ?_
    rw [show (F.onDatabase.view d).session = F.cast d.session from rfl,
      Session.Shadow.insertText_cast h]
    exact .pure
  | updateText table record condition =>
    exact .bind (follows_onSession (Session.Shadow.follows_updateText h)) fun _ => .pure
  | call f => exact .bind (follows_call h) fun _ => .pure
  | compile f => exact .bind (follows_compile h) fun _ => .pure
  | read f => exact .bind (follows_read h hdispatch) fun _ => .pure
  | count f => exact .bind (follows_count h hdispatch) fun _ => .pure
  | write f => exact .bind (follows_write h hdispatch) fun _ => .pure

/-- As long as no operation of a run fails, it gives the same answers, and the databases go on
following each other. -/
theorem run_followed (ops : List Operation) {d : Database C} (w : World E)
    (hd : F.onDatabase.holds d) (hok : ∀ r ∈ (run ops (d, w)).1, r.isOk = true) :
    F.onDatabase.holds (run ops (d, w)).2.1 ∧
      run ops (F.onDatabase.view d, w) =
        ((run ops (d, w)).1, F.onDatabase.view (run ops (d, w)).2.1, (run ops (d, w)).2.2) := by
  induction ops generalizing d w with
  | nil => exact ⟨hd, rfl⟩
  | cons op ops ih =>
    rw [run_cons] at hok ⊢
    rcases hop : (perform op).run (d, w) with ⟨e | r, t⟩
    · -- a failed operation is among the answers
      rw [hop] at hok
      cases hok _ (List.mem_cons_self ..)
    · rw [hop] at hok
      obtain ⟨ht, hrun⟩ := (follows_perform h hdispatch op).done hd hop
      obtain ⟨hend, hrest⟩ := ih t.2 ht fun r hr => hok r (List.mem_cons_of_mem _ hr)
      refine ⟨hend, ?_⟩
      rw [run_cons, hrun, hrest]

end

end Database

end SqlGateway
