import SqlGateway.Action

/-!
# Laws of actions

What can be said of an action without running it. The first section says what each part of an
action does to the state, so that a run can be unfolded one step at a time. The second one is for
what holds however a run goes: a law relates the subject before to the subject after, and an action
that is put together from governed parts is governed. The third one tells the actions that succeed
from those that fail: a contract promises more of the first kind than of the second.

Main definitions:

* `Law`: a relation between two states of a subject that nothing to do and one thing after another
  both keep.
* `Law.Governs`: wherever it starts, an effect ends in a related state.
* `Law.preserving`: the law that a property stays true.
* `Contract`: a law for actions that succeed, and a weaker relation for those that fail.
* `Contract.Meets`: wherever it starts, an action ends as the contract says.
-/

namespace SqlGateway

variable {X E α β : Type}

/-! ## Runs, step by step -/

namespace Effect

theorem bind_apply (e : Effect X E α) (f : α → Effect X E β) (s : X × World E) :
    (e >>= f) s = f (e s).1 (e s).2 :=
  rfl

theorem subject_apply (s : X × World E) : (Action.subject : Effect X E X) s = (s.1, s) :=
  rfl

theorem modifySubject_apply (f : X → X) (s : X × World E) :
    (Action.modifySubject f : Effect X E Unit) s = ((), f s.1, s.2) :=
  rfl

end Effect

namespace Action

theorem run_bind_apply (a : Action X E α) (f : α → Action X E β) (s : X × World E) :
    (a >>= f).run s = match (a.run s).1 with
      | .ok x => (f x).run (a.run s).2
      | .error e => (.error e, (a.run s).2) := by
  rw [ExceptT.run_bind, Effect.bind_apply]
  cases (a.run s).1 <;> rfl

/-- What follows an action only to make an answer of its result. -/
theorem run_bind_pure_apply (a : Action X E α) (f : α → β) (s : X × World E) :
    (a >>= fun x => pure (f x)).run s = ((a.run s).1.map f, (a.run s).2) := by
  rw [run_bind_apply]
  rcases a.run s with ⟨_ | _, _⟩ <;> rfl

theorem run_subject_apply (s : X × World E) :
    (subject : Action X E X).run s = (.ok s.1, s) :=
  rfl

theorem run_modifySubject_apply (f : X → X) (s : X × World E) :
    (modifySubject f : Action X E Unit).run s = (.ok (), f s.1, s.2) :=
  rfl

theorem run_attempt_apply (a : Action X E α) (s : X × World E) :
    a.attempt.run s = (.ok (a.run s).1, (a.run s).2) :=
  rfl

theorem run_ofExcept_apply (r : Except DbError α) (s : X × World E) :
    (ofExcept r : Action X E α).run s = (r, s) :=
  rfl

theorem run_act_apply (e : Effect X E α) (s : X × World E) :
    e.act.run s = (.ok (e s).1, (e s).2) :=
  rfl

/-- A run is known by its outcome and by what it leaves. -/
theorem exists_run_eq {a : Action X E α} {s : X × World E} {r : Except DbError α}
    (h : (a.run s).1 = r) : ∃ t, a.run s = (r, t) :=
  ⟨(a.run s).2, Prod.ext h rfl⟩

end Action

/-! ## Laws -/

/-- What holds between a subject before and after, however long the way between them. -/
structure Law (X : Type) where
  rel : X → X → Prop
  refl : ∀ x, rel x x
  trans : ∀ {x y z}, rel x y → rel y z → rel x z

namespace Law

/-- Nothing changes. -/
def unchanged : Law X where
  rel x y := y = x
  refl _ := rfl
  trans hxy hyz := hyz.trans hxy

/-- A property that is true stays true. -/
def preserving (P : X → Prop) : Law X where
  rel x y := P x → P y
  refl _ := id
  trans hxy hyz := hyz ∘ hxy

/-- Every run of the effect obeys the law. -/
def Governs (L : Law X) (e : Effect X E α) : Prop :=
  ∀ s, L.rel s.1 (e s).2.1

namespace Governs

variable {L : Law X}

theorem rel_of_eq {e : Effect X E α} (h : L.Governs e) {s : X × World E} {r : α × X × World E}
    (hr : e s = r) : L.rel s.1 r.2.1 :=
  hr ▸ h s

theorem mono {M : Law X} {e : Effect X E α} (h : L.Governs e)
    (hLM : ∀ x y, L.rel x y → M.rel x y) : M.Governs e :=
  fun s => hLM _ _ (h s)

theorem pure {a : α} : L.Governs (pure a : Effect X E α) :=
  fun s => L.refl s.1

theorem bind {e : Effect X E α} {f : α → Effect X E β} (he : L.Governs e)
    (hf : ∀ a, L.Governs (f a)) : L.Governs (e >>= f) :=
  fun s => L.trans (he s) (hf _ _)

theorem subject : L.Governs (Action.subject : Effect X E X) :=
  fun s => L.refl s.1

theorem modifySubject {f : X → X} (h : ∀ x, L.rel x (f x)) :
    L.Governs (Action.modifySubject f : Effect X E Unit) :=
  fun s => h s.1

/-- The disk is no part of the subject. -/
theorem onDisk {f : Disk → α × Disk} : L.Governs (Action.onDisk f : Effect X E α) :=
  fun s => L.refl s.1

/-! ### Actions -/

/-- Nor are the servers. -/
theorem run_servers : L.Governs (Action.servers : Action X E E).run :=
  fun s => L.refl s.1

theorem run_modifyServers {f : E → E} : L.Governs (Action.modifyServers f : Action X E Unit).run :=
  fun s => L.refl s.1

theorem run_pure {a : α} : L.Governs (Pure.pure a : Action X E α).run :=
  pure

theorem run_throw {e : DbError} : L.Governs (throw e : Action X E α).run :=
  pure

/-- An action that has failed does nothing more. -/
theorem run_bind {a : Action X E α} {f : α → Action X E β} (ha : L.Governs a.run)
    (hf : ∀ x, L.Governs (f x).run) : L.Governs (a >>= f).run := by
  rw [ExceptT.run_bind]
  refine ha.bind fun r => ?_
  cases r with
  | ok x => exact hf x
  | error e => exact pure

theorem run_subject : L.Governs (Action.subject : Action X E X).run :=
  subject

theorem run_modifySubject {f : X → X} (h : ∀ x, L.rel x (f x)) :
    L.Governs (Action.modifySubject f : Action X E Unit).run :=
  modifySubject h

theorem run_attempt {a : Action X E α} (h : L.Governs a.run) : L.Governs a.attempt.run :=
  h

theorem run_mapError {f : DbError → DbError} {a : Action X E α} (h : L.Governs a.run) :
    L.Governs (Action.mapError f a).run :=
  h

theorem run_act {e : Effect X E α} (h : L.Governs e) : L.Governs e.act.run :=
  h

end Governs

end Law

/-! ## Contracts -/

/-- What holds between a subject before and after, told apart by how an action ends. What fails may
have done anything before that a successful action may do. -/
structure Contract (X : Type) where
  done : Law X
  failed : X → X → Prop
  failed_of_done : ∀ {x y}, done.rel x y → failed x y
  trans : ∀ {x y z}, done.rel x y → failed y z → failed x z

/-- A law as a contract that promises the same of every action. -/
def Law.contract (L : Law X) : Contract X where
  done := L
  failed := L.rel
  failed_of_done := id
  trans := L.trans

namespace Contract

/-- Every run of the action ends as the contract says. -/
structure Meets (K : Contract X) (a : Action X E α) : Prop where
  done : ∀ {s : X × World E} {x t}, a.run s = (.ok x, t) → K.done.rel s.1 t.1
  failed : ∀ {s : X × World E} {e t}, a.run s = (.error e, t) → K.failed s.1 t.1

theorem meets_contract_iff {L : Law X} {a : Action X E α} :
    L.contract.Meets a ↔ L.Governs a.run := by
  constructor
  · intro h s
    rcases hr : a.run s with ⟨x | e, t⟩
    · exact h.failed hr
    · exact h.done hr
  · exact fun h => ⟨h.rel_of_eq, h.rel_of_eq⟩

namespace Meets

variable {K : Contract X}

/-- However the action ends, it is held to what is promised of failures. -/
theorem ends {a : Action X E α} (h : K.Meets a) (s : X × World E) :
    K.failed s.1 (a.run s).2.1 := by
  rcases hr : a.run s with ⟨e | x, t⟩
  · exact h.failed hr
  · exact K.failed_of_done (h.done hr)

theorem of_governs {a : Action X E α} (h : K.done.Governs a.run) : K.Meets a where
  done := h.rel_of_eq
  failed hr := K.failed_of_done (h.rel_of_eq hr)

theorem pure {x : α} : K.Meets (Pure.pure x : Action X E α) :=
  .of_governs .run_pure

theorem throw {e : DbError} : K.Meets (MonadExcept.throw e : Action X E α) :=
  .of_governs .run_throw

theorem subject : K.Meets (Action.subject : Action X E X) :=
  .of_governs .run_subject

theorem modifySubject {f : X → X} (h : ∀ x, K.done.rel x (f x)) :
    K.Meets (Action.modifySubject f : Action X E Unit) :=
  .of_governs (.run_modifySubject h)

/-- Effects do not fail. -/
theorem act {e : Effect X E α} (h : K.done.Governs e) : K.Meets e.act :=
  .of_governs (.run_act h)

/-- Effects before a failure may do what failures may. -/
theorem act_throw {e : Effect X E DbError} (h : ∀ s, K.failed s.1 (e s).2.1) :
    K.Meets (e.act >>= fun err => MonadExcept.throw err : Action X E α) where
  done hr := by cases hr
  failed {s err t} hr := by
    cases hr
    exact h s

/-- An action that has failed does nothing more. -/
theorem bind {a : Action X E α} {f : α → Action X E β} (ha : K.Meets a)
    (hf : ∀ x, K.Meets (f x)) : K.Meets (a >>= f) where
  done {s y u} hr := by
    rw [Action.run_bind_apply] at hr
    rcases hs : a.run s with ⟨e | x, t⟩
    · rw [hs] at hr
      cases hr
    · rw [hs] at hr
      exact K.done.trans (ha.done hs) ((hf x).done hr)
  failed {s e u} hr := by
    rw [Action.run_bind_apply] at hr
    rcases hs : a.run s with ⟨e' | x, t⟩
    · rw [hs] at hr
      cases hr
      exact ha.failed hs
    · rw [hs] at hr
      exact K.trans (ha.done hs) ((hf x).failed hr)

end Meets

end Contract

end SqlGateway
