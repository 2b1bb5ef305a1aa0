import Mathlib.Algebra.GroupWithZero.Nat
import SqlGateway.Proofs.Backend.Metered
import SqlGateway.Proofs.Database.Debugging
import SqlGateway.Proofs.Session.KeptReads
import SqlGateway.Proofs.Session.Sending

/-!
# Statements one after the other

Several statements are sent one after the other, and the rows that they change are summed up. The
first statement that is rejected is the last one sent, and its error is the answer. It takes one
more thing that a statement is sent at all: the connection has to be open or to be opened.

Main definitions:

* `Session.Answered`: what became of one statement, by the readings of the meter.
* `Session.Ending`: how the sending of several has ended.
* `Session.Course`: the course it takes, statement by statement.

Main results:

* `Session.answered_query`: one statement.
* `Session.ending_sendAll`: several, one after the other.
* `Session.Course.isOk_iff`: the sending succeeds exactly if all of them are accepted.
* `Database.course_write`, `Database.sent_of_isOk`: the statements of a plan.
-/

namespace SqlGateway

variable {C E α β : Type}

namespace Session

open Reading (statements EndRefused)

/-! ## Readings of a session -/

/-- The settings stay, and no statement is sent. -/
def quiet (C : Type) : Law (Session (Metered C)) where
  rel s t := t.config = s.config ∧ (Metered.adding fun r => r.statement? = none).rel s.conn t.conn
  refl _ := ⟨rfl, Law.refl _ _⟩
  trans hst htu := ⟨htu.1.trans hst.1, Law.trans _ hst.2 htu.2⟩

theorem quiet_of_upkeep {s t : Session (Metered C)}
    (h : (upkeep (Metered.adding fun r => r.statement? = none)).rel s t) : (quiet C).rel s t :=
  ⟨h.1, h.2.2⟩

theorem upgrade_congr {s t : Session C} (h : t.config = s.config) (e : DbError) :
    t.upgrade e = s.upgrade e := by
  unfold upgrade
  rw [h]

/-- The action keeps the settings and sends no statement, and if it fails, it does so with its last
call. -/
def FailsLast (a : Action (Session (Metered C)) E α) : Prop :=
  ∀ s w, (a.run (s, w)).2.1.config = s.config ∧
    ∃ added, (a.run (s, w)).2.1.conn.readings = s.conn.readings ++ added ∧
      (∀ r ∈ added, r.statement? = none) ∧ ((a.run (s, w)).1.isOk = false → EndRefused added)

namespace FailsLast

theorem pure {x : α} : FailsLast (Pure.pure x : Action (Session (Metered C)) E α) :=
  fun _ _ => ⟨rfl, [], (List.append_nil _).symm, nofun, nofun⟩

theorem subject_bind {f : Session (Metered C) → Action (Session (Metered C)) E α}
    (h : ∀ s, FailsLast (f s)) : FailsLast (Action.subject >>= f) :=
  fun s w => h s s w

theorem bind {a : Action (Session (Metered C)) E α} {f : α → Action (Session (Metered C)) E β}
    (ha : FailsLast a) (hf : ∀ x, FailsLast (f x)) : FailsLast (a >>= f) := by
  intro s w
  obtain ⟨hconfig, added, hreadings, hnone, hfailed⟩ := ha s w
  rw [Action.run_bind_apply]
  rcases hr : a.run (s, w) with ⟨e | x, t, v⟩
  -- what fails is last of all, since nothing that follows is done
  · rw [hr] at hconfig hreadings hfailed
    exact ⟨hconfig, added, hreadings, hnone, hfailed⟩
  · rw [hr] at hconfig hreadings
    obtain ⟨hconfig', more, hmore, hnone', hfailed'⟩ := hf x t v
    refine ⟨hconfig'.trans hconfig, added ++ more, ?_, ?_, fun h => (hfailed' h).append added⟩
    · rw [← List.append_assoc, ← hreadings]
      exact hmore
    · intro r hmem
      exact (List.mem_append.1 hmem).elim (hnone r) (hnone' r)

variable [Connection C]

/-- A single call, with an error of whatever making. -/
theorem call {f : Session (Metered C) → DbError → DbError} {c : BackendCall} {a : Action C E Unit}
    (hnone : ∀ outcome, Reading.statement? ⟨c, outcome⟩ = none) :
    FailsLast (do
      let s : Session (Metered C) ← Action.subject
      Action.mapError (f s) (onConn (Metered.reading c a))) := by
  intro s w
  rw [run_mapError_onConn, Metered.run_reading]
  refine ⟨rfl, _, rfl, fun r hr => ?_, fun h => ?_⟩
  · rw [List.mem_singleton.1 hr]
    exact hnone _
  · refine ⟨_, List.getLast?_singleton, hnone _, ?_⟩
    dsimp only at h ⊢
    cases hrun : (a.run (s.conn.conn, w)).1 with
    | ok u =>
      rw [hrun] at h
      cases h
    | error e => rfl

end FailsLast

variable [Connection C] [Backend C E]

theorem failsLast_connect : FailsLast (connect : Action (Session (Metered C)) E Unit) := by
  refine .subject_bind fun s => ?_
  split
  · exact .pure
  · refine .bind (.call fun _ => rfl) fun _ => ?_
    dsimp only
    split
    · exact .bind (.call fun _ => rfl) fun _ => .call fun _ => rfl
    · exact .call fun _ => rfl

/-- Closing a level sends no statement. -/
theorem governs_completeGroup_quiet :
    (quiet C).Governs (completeGroup : Action (Session (Metered C)) E _).run := by
  have hcontrol {call : BackendCall} {a : Action C E Unit}
      (h : ∀ outcome, Reading.statement? ⟨call, outcome⟩ = none) :
      (quiet C).Governs (onConn (Metered.reading call a) : Action (Session (Metered C)) E _).run :=
    fun s => ⟨rfl, Metered.governs_reading h (s.1.conn, s.2)⟩
  have hstep (s : Session (Metered C)) (transaction : Transaction) :
      (quiet C).rel s { s with transaction } :=
    ⟨rfl, Law.refl _ _⟩
  exact governs_completeGroup hstep (hcontrol fun _ => rfl) (hcontrol fun _ => rfl)

/-! ## One statement -/

/-- What became of a statement, by the readings that were added: it was accepted, and the rows that
it has changed were counted; it was rejected, with this error; or it was not sent, because the
connection could not be opened. -/
inductive Answered (s : Session C) (sql : String) (added : List Reading) :
    Except DbError Nat → Prop
  | accepted (n : Nat) (sent : statements added = [(sql, .ok n)]) : Answered s sql added (.ok n)
  | rejected (e : DbError) (sent : statements added = [(sql, .error e)]) :
    Answered s sql added (.error (s.upgrade (e.withStatement sql)))
  | unopened (e : DbError) (sent : statements added = []) (refused : EndRefused added) :
    Answered s sql added (.error e)

/-- The session went on to tell what became of the statement. -/
def Tells (sql : String) (s : Session (Metered C)) (answer : Except DbError α)
    (t : Session (Metered C)) : Prop :=
  t.config = s.config ∧ ∃ added, t.conn.readings = s.conn.readings ++ added ∧
    Answered s sql added (answer.map fun _ => Connection.affectedRows t.conn)

omit [Connection C] [Backend C E] in
/-- What does not send anything before makes no difference. -/
theorem Answered.after_quiet {sql : String} {answer : Except DbError Nat} {s t : Session C}
    {before added : List Reading} (hconfig : t.config = s.config)
    (hnone : ∀ r ∈ before, r.statement? = none) (h : Answered t sql added answer) :
    Answered s sql (before ++ added) answer := by
  have hsent : statements (before ++ added) = statements added := by
    rw [Reading.statements_append, Reading.statements_eq_nil hnone, List.nil_append]
  cases h with
  | accepted n sent => exact .accepted n (hsent.trans sent)
  | rejected e sent =>
    rw [upgrade_congr hconfig]
    exact .rejected e (hsent.trans sent)
  | unopened e sent refused => exact .unopened e (hsent.trans sent) (refused.append before)

omit [Backend C E] in
theorem Tells.after_quiet {sql : String} {answer : Except DbError α} {s t u : Session (Metered C)}
    (hst : (quiet C).rel s t) (htu : Tells sql t answer u) : Tells sql s answer u := by
  obtain ⟨hconfig, before, hbefore, hnone⟩ := hst
  obtain ⟨hconfig', added, hadded, hanswered⟩ := htu
  exact ⟨hconfig'.trans hconfig, before ++ added, by rw [hadded, hbefore, List.append_assoc],
    hanswered.after_quiet hconfig hnone⟩

/-- Over an open connection a statement is sent, and the end of its group is no other one. -/
theorem tells_dispatch (sql : String) (s : Session (Metered C)) (w : World E) :
    let r := (dispatch sql : Action (Session (Metered C)) E _).run (s, w)
    Tells sql s r.1 r.2.1 := by
  intro r
  let q := (Backend.execute sql : Action C E _).run (s.conn.conn, w)
  let reading : Reading := ⟨.execute sql, q.1.map fun _ => Connection.affectedRows q.2.1⟩
  let t : Session (Metered C) :=
    { s with conn := ⟨q.2.1, s.conn.readings ++ [reading]⟩, executed := s.executed + 1 }
  have hexecute : (Backend.execute sql : Action (Metered C) E _).run (s.conn, w) =
      (q.1, t.conn, q.2.2) :=
    rfl
  have hsent : statements [reading] =
      [(sql, q.1.map fun _ => Connection.affectedRows q.2.1)] :=
    rfl
  have hr : r = _ := run_dispatch sql s w
  rw [hr, hexecute]
  cases houtcome : q.1 with
  | ok handle? =>
    rw [houtcome] at hsent
    exact ⟨rfl, [reading], rfl, .accepted _ hsent⟩
  | error e =>
    rw [houtcome] at hsent
    -- a group may be closed now, and that adds readings, but none of a statement
    have hreject : (quiet C).Governs
        (reject sql e : Effect (Session (Metered C)) E DbError) :=
      governs_reject (fun _ => ⟨rfl, Law.refl _ _⟩) governs_completeGroup_quiet
    let rejected := (reject sql e : Effect (Session (Metered C)) E DbError) (t, q.2.2)
    have herror : rejected.1 = s.upgrade (e.withStatement sql) := reject_fst sql e t q.2.2
    obtain ⟨hconfig, more, hmore, hnone⟩ := hreject (t, q.2.2)
    show Tells sql s (.error rejected.1 : Except DbError (Option Handle)) rejected.2.1
    rw [herror]
    refine ⟨hconfig, [reading] ++ more, by rw [← List.append_assoc]; exact hmore, .rejected e ?_⟩
    rw [Reading.statements_append, Reading.statements_eq_nil hnone, List.append_nil]
    exact hsent

/-- A connection that cannot be opened is the only reason not to send. -/
theorem tells_send (sql : String) (s : Session (Metered C)) (w : World E) :
    Tells sql s ((send sql : Action (Session (Metered C)) E _).run (s, w)).1
      ((send sql : Action (Session (Metered C)) E _).run (s, w)).2.1 := by
  obtain ⟨hconfig, added, hadded, hnone, hfailed⟩ := failsLast_connect s w
  rw [send_eq, run_unless_connect_bind, Action.run_bind_apply]
  rcases hopened : (connect : Action (Session (Metered C)) E Unit).run (s, w) with ⟨e | u, t, v⟩
  · rw [hopened] at hconfig hadded hfailed
    exact ⟨hconfig, added, hadded, .unopened e (Reading.statements_eq_nil hnone) (hfailed rfl)⟩
  · rw [hopened] at hconfig hadded
    have hopen : (quiet C).rel s t := ⟨hconfig, added, hadded, hnone⟩
    have hrecord : (quiet C).rel t
        ((record sql : Action (Session (Metered C)) E Unit).run (t, v)).2.1 :=
      governs_record (fun _ _ _ => quiet_of_upkeep (upkeep_notes ..)) (t, v)
    exact .after_quiet (Law.trans _ hopen hrecord) (tells_dispatch sql _ v)

omit [Backend C E] in
/-- What is made of the answer, and work on the store, make no difference. -/
theorem Tells.still {sql : String} {answer : Except DbError α} {s t u : Session (Metered C)}
    (h : Tells sql s answer t) (htu : (upkeep .unchanged).rel t u) (f : α → β) :
    Tells sql s (answer.map f) u := by
  obtain ⟨hconfig, added, hadded, hanswered⟩ := h
  have hconn : u.conn = t.conn := htu.2.2
  refine ⟨htu.1.trans hconfig, added, by rw [hconn, hadded], ?_⟩
  rw [hconn]
  cases answer <;> exact hanswered

/-- What follows a statement that was accepted leaves the connection alone. -/
theorem tells_askBackend (sql : String) (s : Session (Metered C)) (w : World E) :
    Tells sql s ((askBackend sql : Action (Session (Metered C)) E _).run (s, w)).1
      ((askBackend sql : Action (Session (Metered C)) E _).run (s, w)).2.1 := by
  have hsend := tells_send sql s w
  unfold askBackend
  rw [Action.run_bind_apply]
  generalize (send sql : Action (Session (Metered C)) E _).run (s, w) = sent at hsend ⊢
  obtain ⟨e | handle?, t, v⟩ := sent
  · exact hsend.still ((upkeep .unchanged).refl t) fun _ => QueryOutcome.written
  · let settled := (settle sql handle? : Effect (Session (Metered C)) E QueryOutcome) (t, v)
    exact hsend.still (governs_settle (t, v)) fun _ => settled.1

/-- What becomes of a statement is told by the meter, unless it is answered by a kept result. -/
theorem answered_query {sql : String} {binds : List Value} (hblank : Text.isBlank sql = false)
    {s : Session (Metered C)} {w : World E} (hasked : Asked (s.finalText sql binds) (s, w)) :
    Tells (s.finalText sql binds) s
      ((query sql binds : Action (Session (Metered C)) E _).run (s, w)).1
      ((query sql binds : Action (Session (Metered C)) E _).run (s, w)).2.1 := by
  rw [run_query, if_neg (Bool.eq_false_iff.1 hblank)]
  unfold resolve
  rw [Action.run_bind_apply, Action.run_subject_apply]
  dsimp only
  split
  · next hkept =>
    have hnone := hasked hkept
    have hstill : (upkeep .unchanged).rel s
        ((kept? (s.finalText sql binds) : Effect (Session (Metered C)) E _) (s, w)).2.1 :=
      governs_onStore (s, w)
    rw [Action.run_bind_apply, Action.run_act_apply]
    dsimp only
    rw [hnone]
    exact .after_quiet (quiet_of_upkeep (upkeep_of_unchanged hstill)) (tells_askBackend _ _ _)
  · exact tells_askBackend _ s w

/-! ## Several statements -/

/-- How the sending of some statements has ended, by the readings that were added. All were
accepted, and the answer is the sum of the rows that they have changed. Or one was rejected, which
is the last one that was sent, and its error is the answer. Or the connection could not be opened
for one. -/
inductive Ending (s : Session C) (sqls : List String) (added : List Reading) :
    Except DbError Nat → Prop
  | complete (counts : List Nat) (texts : (statements added).map Prod.fst = sqls)
      (outcomes : (statements added).map Prod.snd = counts.map .ok) :
    Ending s sqls added (.ok counts.sum)
  | rejected (counts : List Nat) (sql : String) (e : DbError)
      (texts : (statements added).map Prod.fst <+: sqls)
      (outcomes : (statements added).map Prod.snd = counts.map .ok ++ [.error e])
      (last : (statements added).getLast? = some (sql, .error e)) :
    Ending s sqls added (.error (s.upgrade (e.withStatement sql)))
  | unopened (counts : List Nat) (e : DbError) (texts : (statements added).map Prod.fst <+: sqls)
      (outcomes : (statements added).map Prod.snd = counts.map .ok) (refused : EndRefused added) :
    Ending s sqls added (.error e)

section
variable {s t : Session C} {sql : String} {sqls : List String} {added more : List Reading}
  {answer : Except DbError Nat}

omit [Connection C] [Backend C E] in
/-- One statement more that was accepted before the others. -/
theorem Ending.cons {n : Nat} (hconfig : t.config = s.config)
    (hsent : statements added = [(sql, .ok n)]) (h : Ending t sqls more answer) :
    Ending s (sql :: sqls) (added ++ more) (answer.map (n + ·)) := by
  have hstatements : statements (added ++ more) = (sql, .ok n) :: statements more := by
    rw [Reading.statements_append, hsent]
    rfl
  cases h with
  | complete counts texts outcomes =>
    refine .complete (n :: counts) ?_ ?_ <;> rw [hstatements, List.map_cons]
    · rw [texts]
    · rw [outcomes, List.map_cons]
  | rejected counts text e texts outcomes last =>
    show Ending s _ _ (.error (t.upgrade (e.withStatement text)))
    rw [upgrade_congr hconfig]
    refine .rejected (n :: counts) text e ?_ ?_ ?_ <;> rw [hstatements]
    · exact (List.prefix_cons_inj sql).2 texts
    · rw [List.map_cons, outcomes, List.map_cons, List.cons_append]
    · rw [List.getLast?_cons, last]
      rfl
  | unopened counts e texts outcomes refused =>
    refine .unopened (n :: counts) e ?_ ?_ (refused.append added) <;> rw [hstatements]
    · exact (List.prefix_cons_inj sql).2 texts
    · rw [List.map_cons, outcomes, List.map_cons]

omit [Connection C] [Backend C E] in
/-- A statement that is not accepted is the last one. -/
theorem Answered.ending {e : DbError} (h : Answered s sql added (.error e)) (sqls : List String) :
    Ending s (sql :: sqls) added (.error e) := by
  cases h with
  | rejected e sent =>
    refine .rejected [] sql e ?_ ?_ ?_ <;> rw [sent]
    · exact List.prefix_append [sql] sqls
    · rfl
    · rfl
  | unopened e sent refused =>
    refine .unopened [] e ?_ ?_ refused <;> rw [sent]
    · exact List.nil_prefix
    · rfl

omit [Connection C] [Backend C E] in
/-- What was sent comes first in what was to be sent. -/
theorem Ending.sent_prefix (h : Ending s sqls added answer) :
    (statements added).map Prod.fst <+: sqls := by
  cases h with
  | complete counts texts outcomes => exact texts ▸ List.prefix_refl _
  | rejected counts text e texts outcomes last => exact texts
  | unopened counts e texts outcomes refused => exact texts

omit [Connection C] [Backend C E] in
theorem Ending.sent_of_isOk (h : Ending s sqls added answer) (hok : answer.isOk = true) :
    (statements added).map Prod.fst = sqls := by
  cases h with
  | complete counts texts outcomes => exact texts
  | rejected => cases hok
  | unopened => cases hok

end

theorem run_sendAll_cons (sql : String) (sqls : List String) (s : Session C × World E) :
    (Database.sendAll (sql :: sqls) : Action (Session C) E Nat).run s =
      match (query sql [] : Action (Session C) E _).run s with
      | (.ok _, t) =>
        let r := (Database.sendAll sqls : Action (Session C) E Nat).run t
        (r.1.map (Connection.affectedRows t.1.conn + ·), r.2)
      | (.error e, t) => (.error e, t) := by
  rw [Database.sendAll, Action.run_bind_apply]
  rcases (query sql [] : Action (Session C) E _).run s with ⟨e | outcome, t⟩
  · rfl
  · exact Action.run_bind_pure_apply (Database.sendAll sqls)
      (Connection.affectedRows t.1.conn + ·) t

/-- The course that the sending of some statements takes, by the readings that were added: each one
is accepted and the next one follows, until all are sent or one is not accepted. -/
inductive Course (s : Session C) : List String → List Reading → Except DbError Nat → Prop
  | done : Course s [] [] (.ok 0)
  | accepted {sql : String} {sqls : List String} {added more : List Reading} {n : Nat}
    {answer : Except DbError Nat} (sent : statements added = [(sql, .ok n)])
    (rest : Course s sqls more answer) :
    Course s (sql :: sqls) (added ++ more) (answer.map (n + ·))
  | stopped {sql : String} {sqls : List String} {added : List Reading} {e : DbError}
    (answered : Answered s sql added (.error e)) : Course s (sql :: sqls) added (.error e)

section
variable {s t : Session C} {sqls : List String} {added : List Reading}
  {answer : Except DbError Nat}

omit [Connection C] [Backend C E] in
/-- Only the settings of the session count. -/
theorem Course.congr (hconfig : t.config = s.config) (h : Course t sqls added answer) :
    Course s sqls added answer := by
  induction h with
  | done => exact .done
  | accepted sent rest ih => exact .accepted sent ih
  | stopped answered =>
    have hnone : ∀ r ∈ ([] : List Reading), r.statement? = none := nofun
    exact .stopped (answered.after_quiet hconfig hnone)

omit [Connection C] [Backend C E] in
theorem Course.ending (h : Course s sqls added answer) : Ending s sqls added answer := by
  induction h with
  | done => exact .complete [] rfl rfl
  | accepted sent rest ih => exact ih.cons rfl sent
  | stopped answered => exact answered.ending _

omit [Connection C] [Backend C E] in
/-- The sending succeeds exactly if all statements are sent and each one is accepted. -/
theorem Course.isOk_iff (h : Course s sqls added answer) :
    answer.isOk = true ↔ (statements added).map Prod.fst = sqls ∧
      ∀ sent ∈ statements added, sent.2.isOk = true := by
  induction h with
  | done => exact iff_of_true rfl ⟨rfl, nofun⟩
  | @accepted sql sqls added more n answer sent rest ih =>
    have hmap : (answer.map (n + ·)).isOk = answer.isOk := by cases answer <;> rfl
    rw [hmap, ih, Reading.statements_append, sent, List.cons_append, List.nil_append,
      List.map_cons, List.cons_inj_right, List.forall_mem_cons]
    exact and_congr_right fun _ => (and_iff_right rfl).symm
  | stopped answered =>
    -- the statement that was not accepted was rejected or not even sent
    refine iff_of_false Bool.false_ne_true fun ⟨htexts, hall⟩ => ?_
    cases answered with
    | rejected e sent =>
      rw [sent] at hall
      exact Bool.false_ne_true (hall _ (List.mem_singleton_self _))
    | unopened e sent refused =>
      rw [sent] at htexts
      cases htexts

omit [Connection C] [Backend C E] in
/-- A statement that is rejected is the last one sent, and its error is the answer. -/
theorem Course.last_of_rejected {sql : String} {e : DbError} (h : Course s sqls added answer)
    (hrejected : (sql, .error e) ∈ statements added) :
    (statements added).getLast? = some (sql, .error e) ∧
      answer = .error (s.upgrade (e.withStatement sql)) := by
  induction h with
  | done => cases hrejected
  | accepted sent rest ih =>
    rw [Reading.statements_append, sent, List.cons_append, List.nil_append] at hrejected ⊢
    rcases List.mem_cons.1 hrejected with haccepted | hrejected
    · cases haccepted
    · obtain ⟨hlast, rfl⟩ := ih hrejected
      rw [List.getLast?_cons, hlast]
      exact ⟨rfl, rfl⟩
  | stopped answered =>
    cases answered with
    | rejected e' sent =>
      rw [sent] at hrejected ⊢
      cases List.mem_singleton.1 hrejected
      exact ⟨rfl, rfl⟩
    | unopened e' sent refused =>
      rw [sent] at hrejected
      cases hrejected

end

/-- Statements are sent one after the other until one is rejected. -/
theorem course_sendAll {sqls : List String} (hblank : ∀ sql ∈ sqls, Text.isBlank sql = false)
    {s : Session (Metered C)} {w : World E} (hasked : AllAsked sqls (s, w)) :
    let r := (Database.sendAll sqls : Action (Session (Metered C)) E Nat).run (s, w)
    r.2.1.config = s.config ∧ ∃ added, r.2.1.conn.readings = s.conn.readings ++ added ∧
      Course s (sqls.map (PrefixSwap.apply s.config.tablePrefix s.config.swapPrefix)) added
        r.1 := by
  -- each statement goes on with the session that the one before has left
  induction sqls generalizing s w with
  | nil => exact ⟨rfl, [], (List.append_nil _).symm, .done⟩
  | cons sql sqls ih =>
    obtain ⟨hfirst, hrest⟩ := hasked
    have htells := answered_query (hblank sql (List.mem_cons_self ..)) hfirst
    rw [finalText_nil] at htells
    dsimp only
    rw [run_sendAll_cons]
    rcases hrun : (query sql [] : Action (Session (Metered C)) E _).run (s, w) with
      ⟨e | outcome, t, v⟩
    · rw [hrun] at htells
      obtain ⟨hconfig, added, hadded, hanswered⟩ := htells
      exact ⟨hconfig, added, hadded, .stopped hanswered⟩
    · rw [hrun] at htells
      obtain ⟨hconfig, added, hadded, hanswered⟩ := htells
      have hsent : statements added = [(PrefixSwap.apply s.config.tablePrefix
          s.config.swapPrefix sql, .ok (Connection.affectedRows t.conn))] := by
        cases hanswered with
        | accepted n sent => exact sent
      obtain ⟨hconfig', more, hmore, hcourse⟩ :=
        ih (fun text htext => hblank text (List.mem_cons_of_mem _ htext))
          (hrest outcome (t, v) hrun)
      -- the settings of the session are still the ones it had
      rw [hconfig] at hcourse
      refine ⟨hconfig'.trans hconfig, added ++ more, ?_, .accepted hsent (hcourse.congr hconfig)⟩
      rw [← List.append_assoc, ← hadded]
      exact hmore

/-- **Several statements.** They are sent one after the other until one is rejected. -/
theorem ending_sendAll {sqls : List String} (hblank : ∀ sql ∈ sqls, Text.isBlank sql = false)
    {s : Session (Metered C)} {w : World E} (hasked : AllAsked sqls (s, w)) :
    let r := (Database.sendAll sqls : Action (Session (Metered C)) E Nat).run (s, w)
    r.2.1.config = s.config ∧ ∃ added, r.2.1.conn.readings = s.conn.readings ++ added ∧
      Ending s (sqls.map (PrefixSwap.apply s.config.tablePrefix s.config.swapPrefix)) added
        r.1 := by
  obtain ⟨hconfig, added, hadded, hcourse⟩ := course_sendAll hblank hasked
  exact ⟨hconfig, added, hadded, hcourse.ending⟩

end Session

namespace Database

variable [Connection C] [Backend C E]

open Reading (statements)
open Session (AllAsked Course)

/-- The statements of a plan are sent, and a refusal is the answer where all were accepted. -/
theorem course_write (f : Style → Builder → Plan) (s : Session (Metered C)) (b : Builder)
    (w : World E)
    (hblank : ∀ sql ∈ (f ⟨s.dialect, s.rules⟩ b).statements, Text.isBlank sql = false)
    (hasked : AllAsked (f ⟨s.dialect, s.rules⟩ b).statements (s, w)) :
    let plan := f ⟨s.dialect, s.rules⟩ b
    let r := (write f : Action (Database (Metered C)) E Nat).run (⟨s, some b⟩, w)
    ∃ added answer, r.2.1.session.conn.readings = s.conn.readings ++ added ∧
      Course s (plan.statements.map
        (PrefixSwap.apply s.config.tablePrefix s.config.swapPrefix)) added answer ∧
      r.1 = answer.bind fun n =>
        plan.refusal.elim (.ok n) fun refusal => .error (s.upgrade refusal.error) := by
  intro plan r
  obtain ⟨hconfig, added, hadded, hcourse⟩ := Session.course_sendAll hblank hasked
  have hr : r = _ := run_write f s b w
  rw [hr]
  refine ⟨added, _, hadded, hcourse, ?_⟩
  dsimp only
  simp only [Session.upgrade_congr hconfig]
  rfl

/-- A write that succeeds had a plan that is not refused, and all of its statements are sent and
accepted. -/
theorem sent_of_isOk (f : Style → Builder → Plan) {s : Session (Metered C)} {b : Builder}
    {w : World E}
    (hok : ((write f : Action (Database (Metered C)) E Nat).run (⟨s, some b⟩, w)).1.isOk = true) :
    let plan := f ⟨s.dialect, s.rules⟩ b
    let r := (write f : Action (Database (Metered C)) E Nat).run (⟨s, some b⟩, w)
    plan.refusal = none ∧
      ((∀ sql ∈ plan.statements, Text.isBlank sql = false) → AllAsked plan.statements (s, w) →
        ∃ added, r.2.1.session.conn.readings = s.conn.readings ++ added ∧
          (statements added).map Prod.fst = plan.statements.map
            (PrefixSwap.apply s.config.tablePrefix s.config.swapPrefix) ∧
          ∀ sent ∈ statements added, sent.2.isOk = true) := by
  intro plan r
  have hrefusal : plan.refusal = none := by
    have hr : r = _ := run_write f s b w
    rw [show (write f : Action (Database (Metered C)) E Nat).run (⟨s, some b⟩, w) = r from rfl, hr]
      at hok
    cases hplan : plan.refusal with
    | none => rfl
    | some refusal =>
      rw [show (f ⟨s.dialect, s.rules⟩ b).refusal = some refusal from hplan] at hok
      revert hok
      cases ((sendAll _ : Action (Session (Metered C)) E Nat).run (s, w)).1 <;> exact nofun
  refine ⟨hrefusal, fun hblank hasked => ?_⟩
  obtain ⟨added, answer, hadded, hcourse, hanswer⟩ := course_write f s b w hblank hasked
  have hsame : r.1 = answer := by
    rw [show r.1 = _ from hanswer, hrefusal]
    cases answer <;> rfl
  obtain ⟨hsent, haccepted⟩ := hcourse.isOk_iff.1 (hsame ▸ hok)
  exact ⟨added, hadded, hsent, haccepted⟩

end Database

end SqlGateway
