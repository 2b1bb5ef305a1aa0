import SqlGateway.Proofs.Law

/-!
# Actions that follow others

An action on one subject may be followed by an action on another: as long as the first one succeeds
the second one gives the same results, and it ends with the view of the subject that the first one
leaves. What becomes of a failure is for the simulation to say. Actions that are put together from
parts follow each other if their parts do.

Main definitions:

* `Simulation`: a view of the subject, and what failures have to do with each other.
* `Simulation.Mirrors`: one effect does to the view what another one does to the subject.
* `Simulation.Follows`: the same of actions, which may fail.
-/

namespace SqlGateway

/-- How the runs of one kind of subject are followed by runs of another. -/
structure Simulation (X Y E : Type) where
  view : X → Y
  /-- What the subject has to be like. -/
  holds : X → Prop
  /-- How failures are followed, each with the subject and the world that it leaves. -/
  fails : DbError × X × World E → DbError × Y × World E → Prop

namespace Simulation

variable {X Y E α β : Type} {S : Simulation X Y E}

/-! ## Effects -/

/-- The second effect does to the view what the first one does to the subject. -/
def Mirrors (S : Simulation X Y E) (e : Effect X E α) (e' : Effect Y E α) : Prop :=
  ∀ x w, S.holds x → S.holds (e (x, w)).2.1 ∧
    e' (S.view x, w) = ((e (x, w)).1, S.view (e (x, w)).2.1, (e (x, w)).2.2)

namespace Mirrors

theorem pure {a : α} : S.Mirrors (pure a) (pure a) :=
  fun _ _ hx => ⟨hx, rfl⟩

theorem bind {e : Effect X E α} {e' : Effect Y E α} {f : α → Effect X E β}
    {f' : α → Effect Y E β} (he : S.Mirrors e e') (hf : ∀ a, S.Mirrors (f a) (f' a)) :
    S.Mirrors (e >>= f) (e' >>= f') := by
  intro x w hx
  obtain ⟨hmid, hrun⟩ := he x w hx
  obtain ⟨hend, hrest⟩ := hf (e (x, w)).1 _ (e (x, w)).2.2 hmid
  refine ⟨hend, ?_⟩
  rw [Effect.bind_apply, hrun]
  exact hrest

/-- What is read of the subject is read of its view. -/
theorem subject_bind {f : X → Effect X E β} {f' : Y → Effect Y E β}
    (hf : ∀ x, S.Mirrors (f x) (f' (S.view x))) :
    S.Mirrors (Action.subject >>= f) (Action.subject >>= f') :=
  fun x w hx => hf x x w hx

theorem modifySubject {f : X → X} {f' : Y → Y}
    (h : ∀ x, S.holds x → S.holds (f x) ∧ S.view (f x) = f' (S.view x)) :
    S.Mirrors (Action.modifySubject f) (Action.modifySubject f') := by
  intro x w hx
  obtain ⟨hend, hview⟩ := h x hx
  refine ⟨hend, ?_⟩
  rw [Effect.modifySubject_apply, Effect.modifySubject_apply, hview]

theorem onDisk {f : Disk → α × Disk} : S.Mirrors (Action.onDisk f) (Action.onDisk f) :=
  fun _ _ hx => ⟨hx, rfl⟩

theorem ite {c : Prop} [Decidable c] {e f : Effect X E α} {e' f' : Effect Y E α}
    (he : S.Mirrors e e') (hf : S.Mirrors f f') :
    S.Mirrors (if c then e else f) (if c then e' else f') := by
  split
  · exact he
  · exact hf

end Mirrors

/-! ## Actions -/

/-- As long as the first action succeeds, the second one does to the view what it does to the
subject. It fails as well where the first one fails. -/
structure Follows (S : Simulation X Y E) (a : Action X E α) (a' : Action Y E α) : Prop where
  done : ∀ {x w r t}, S.holds x → a.run (x, w) = (.ok r, t) →
    S.holds t.1 ∧ a'.run (S.view x, w) = (.ok r, S.view t.1, t.2)
  failed : ∀ {x w e t}, S.holds x → a.run (x, w) = (.error e, t) →
    ∃ e' t', a'.run (S.view x, w) = (.error e', t') ∧ S.fails (e, t) (e', t')

namespace Follows

theorem pure {r : α} : S.Follows (Pure.pure r) (Pure.pure r) where
  done hx hr := by
    cases hr
    exact ⟨hx, rfl⟩
  failed _ hr := by cases hr

theorem bind {a : Action X E α} {a' : Action Y E α} {f : α → Action X E β}
    {f' : α → Action Y E β} (ha : S.Follows a a') (hf : ∀ r, S.Follows (f r) (f' r)) :
    S.Follows (a >>= f) (a' >>= f') where
  done {x w r t} hx hr := by
    rw [Action.run_bind_apply] at hr
    rcases hs : a.run (x, w) with ⟨e | q, u⟩
    · rw [hs] at hr
      cases hr
    · rw [hs] at hr
      obtain ⟨hu, hrun⟩ := ha.done hx hs
      obtain ⟨ht, hrest⟩ := (hf q).done hu hr
      refine ⟨ht, ?_⟩
      rw [Action.run_bind_apply, hrun]
      exact hrest
  failed {x w e t} hx hr := by
    rw [Action.run_bind_apply] at hr
    rcases hs : a.run (x, w) with ⟨e₁ | q, u⟩
    · rw [hs] at hr
      cases hr
      obtain ⟨e', t', hrun, hfails⟩ := ha.failed hx hs
      refine ⟨e', t', ?_, hfails⟩
      rw [Action.run_bind_apply, hrun]
    · rw [hs] at hr
      obtain ⟨hu, hrun⟩ := ha.done hx hs
      obtain ⟨e', t', hrest, hfails⟩ := (hf q).failed hu hr
      refine ⟨e', t', ?_, hfails⟩
      rw [Action.run_bind_apply, hrun]
      exact hrest

/-- What is read of the subject is read of its view. -/
theorem subject_bind {f : X → Action X E β} {f' : Y → Action Y E β}
    (hf : ∀ x, S.Follows (f x) (f' (S.view x))) :
    S.Follows (Action.subject >>= f) (Action.subject >>= f') where
  done {x _ _ _} hx hr := (hf x).done hx hr
  failed {x _ _ _} hx hr := (hf x).failed hx hr

theorem act {e : Effect X E α} {e' : Effect Y E α} (h : S.Mirrors e e') :
    S.Follows e.act e'.act where
  done {x w _ _} hx hr := by
    obtain ⟨hend, hrun⟩ := h x w hx
    cases hr
    refine ⟨hend, ?_⟩
    rw [Action.run_act_apply, hrun]
  failed _ hr := by cases hr

theorem modifySubject {f : X → X} {f' : Y → Y}
    (h : ∀ x, S.holds x → S.holds (f x) ∧ S.view (f x) = f' (S.view x)) :
    S.Follows (Action.modifySubject f : Action X E Unit) (Action.modifySubject f') where
  done {x _ _ _} hx hr := by
    obtain ⟨hend, hview⟩ := h x hx
    cases hr
    refine ⟨hend, ?_⟩
    rw [Action.run_modifySubject_apply, ← hview]
  failed _ hr := by cases hr

theorem ite {c : Prop} [Decidable c] {a b : Action X E α} {a' b' : Action Y E α}
    (ha : S.Follows a a') (hb : S.Follows b b') :
    S.Follows (if c then a else b) (if c then a' else b') := by
  split
  · exact ha
  · exact hb

/-- What goes on after an attempt has to follow where the attempt succeeded, and to fail as well
where it failed. -/
theorem attempt_bind {a : Action X E α} {a' : Action Y E α}
    {k : Except DbError α → Action X E β} {k' : Except DbError α → Action Y E β}
    (ha : S.Follows a a') (hok : ∀ r, S.Follows (k (.ok r)) (k' (.ok r)))
    (herror : ∀ {e t e' t'}, S.fails (e, t) (e', t') → ∃ e₁ t₁ e₁' t₁',
      (k (.error e)).run t = (.error e₁, t₁) ∧ (k' (.error e')).run t' = (.error e₁', t₁') ∧
        S.fails (e₁, t₁) (e₁', t₁')) :
    S.Follows (a.attempt >>= k) (a'.attempt >>= k') where
  done {x w r t} hx hr := by
    rw [Action.run_bind_apply, Action.run_attempt_apply] at hr ⊢
    rcases hs : a.run (x, w) with ⟨e | q, u⟩
    · obtain ⟨e', t', -, hfails⟩ := ha.failed hx hs
      obtain ⟨e₁, t₁, -, -, hrest, -⟩ := herror hfails
      rw [hs] at hr
      exact nomatch hr.symm.trans hrest
    · obtain ⟨hu, hrun⟩ := ha.done hx hs
      rw [hs] at hr
      rw [hrun]
      exact (hok q).done hu hr
  failed {x w e t} hx hr := by
    rw [Action.run_bind_apply, Action.run_attempt_apply] at hr
    rcases hs : a.run (x, w) with ⟨e₀ | q, u⟩
    · obtain ⟨e', t', hrun, hfails⟩ := ha.failed hx hs
      obtain ⟨e₁, t₁, e₁', t₁', hrest, hrest', hfails'⟩ := herror hfails
      rw [hs] at hr
      cases hrest.symm.trans hr
      refine ⟨e₁', t₁', ?_, hfails'⟩
      rw [Action.run_bind_apply, Action.run_attempt_apply, hrun]
      exact hrest'
    · obtain ⟨hu, hrun⟩ := ha.done hx hs
      rw [hs] at hr
      obtain ⟨e', t', hrest, hfails⟩ := (hok q).failed hu hr
      refine ⟨e', t', ?_, hfails⟩
      rw [Action.run_bind_apply, Action.run_attempt_apply, hrun]
      exact hrest

end Follows

/-! ## Without a difference -/

/-- What is followed is followed exactly, in failure as well. -/
def exactly (view : X → Y) : Simulation X Y E where
  view
  holds _ := True
  fails r r' := r' = (r.1, view r.2.1, r.2.2)

/-- Then it does not matter what counts as a failure. -/
theorem follows_exactly_iff {view : X → Y} {a : Action X E α} {a' : Action Y E α} :
    (exactly view).Follows a a' ↔ (exactly view).Mirrors a.run a'.run := by
  constructor
  · intro h x w _
    refine ⟨trivial, ?_⟩
    rcases hr : a.run (x, w) with ⟨e | r, t⟩
    · obtain ⟨e', t', hrun, hfails⟩ := h.failed trivial hr
      cases hfails
      exact hrun
    · exact (h.done trivial hr).2
  · intro h
    constructor
    · intro x w r t _ hr
      refine ⟨trivial, ?_⟩
      rw [show a'.run (_, w) = _ from (h x w trivial).2, hr]
    · intro x w e t _ hr
      refine ⟨_, _, ?_, rfl⟩
      rw [show a'.run (_, w) = _ from (h x w trivial).2, hr]
      rfl

end Simulation

end SqlGateway
