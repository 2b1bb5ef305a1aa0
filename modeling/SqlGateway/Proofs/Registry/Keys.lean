import SqlGateway.Proofs.Registry.Operation

/-!
# Keys of a registry

A get takes a key to the one that it stands for: blanks around it go, and a blank key or `default`
stands for the active group. A registry is asked for a shared database, or told to close it, by the
key under which the database is shared. The two agree on the keys that stand for themselves, and on
no others.

Main results:

* `Registry.closes_shared_iff`, `Registry.close_apart`: closing by one key and by another.
* `Registry.closes_got_iff`: when the key of a get can be used to close what the get gave.
* `Registry.default_key_unknown`: the key `default` cannot, if there is an active group.
-/

namespace SqlGateway.Registry

variable {C E : Type} [Connection C] [Backend C E]

/-! ## Closing by any key -/

section
variable {s : Registry C × World E} {k key : String} {id : InstanceId}

/-- Closing answers whether the key was known. -/
theorem fst_close (h : Backend.Disconnects C E) (hs : s.1.Sound) :
    (close k s).1 = s.1.shared.contains k := by
  unfold OrderedMap.contains
  rcases close_cases h hs k s.2 with ⟨hnone, hclose⟩ | ⟨i, d, r', hi, -, hclose, -⟩
  · rw [show close k s = (false, s) from hclose, hnone]
    rfl
  · rw [show close k s = _ from hclose, hi]
    rfl

/-- What is shared under a key is closed by this key, and by no other. -/
theorem closes_shared_iff (h : Backend.Disconnects C E) (hs : s.1.Sound)
    (hid : s.1.shared.get? key = some id) :
    (s.1.shared.contains k = true ∧ ∃ d r', s.1.instance? id = some d ∧
        close k s = (true, r', Database.released [d] s.2) ∧ Forgets [(k, id)] s.1 r') ↔ k = key := by
  constructor
  · rintro ⟨-, d, r', -, -, hforgets⟩
    have hwas := hforgets.were (k, id) (List.mem_singleton_self _)
    exact hs.apart _ _ _ hwas hid
  · rintro rfl
    obtain ⟨d, hd⟩ := hs.found k id hid
    obtain ⟨r', hclose, hforgets⟩ := forgets_close h hs hid hd s.2
    exact ⟨by simp [OrderedMap.contains, hid], d, r', hd, hclose, hforgets⟩

/-- Closing by another key leaves an instance alone. -/
theorem close_apart (h : Backend.Disconnects C E) (hs : s.1.Sound)
    (hid : s.1.shared.get? key = some id) (hk : k ≠ key) :
    (close k s).2.1.instance? id = s.1.instance? id ∧
      (close k s).2.1.shared.get? key = some id := by
  rcases close_cases h hs k s.2 with ⟨-, hclose⟩ | ⟨i, d, r', hi, -, hclose, hforgets⟩
  · rw [show close k s = (false, s) from hclose]
    exact ⟨rfl, hid⟩
  · -- another instance is closed, since none is shared under two keys
    have hother : id ≠ i := by
      rintro rfl
      exact hk (hs.apart _ _ _ hi hid)
    rw [show close k s = _ from hclose]
    refine ⟨hforgets.others id (by simpa using hother), ?_⟩
    rw [hforgets.shared, if_neg (by simpa [keysOf] using Ne.symm hk)]
    exact hid

end

/-! ## Closing by the key of a get -/

/-- **Closing by the key of a get.** After a get of a key without settings of its own, at any time,
the registry has the key and closes by it the very instance that the get gave, and nothing else, if
and only if the key stands for itself. Whatever the key is, closing answers whether the registry has
it, and the registry has it if it stands for itself or if the registry had it before. A key that
does not stand for itself leaves the instance alone, which stays shared under another key. -/
theorem closes_got_iff (h : Backend.Disconnects C E) {settings : Settings}
    {backends : BackendTable C} {w : World E} {ops : List Operation} {k : String} {id : InstanceId}
    {s s' : Registry C × World E} (hs : s = reached settings backends w ops)
    (hget : (get k none).run s = (.ok id, s')) :
    ((s'.1.shared.contains k = true ∧ ∃ d r', s'.1.instance? id = some d ∧
        close k s' = (true, r', Database.released [d] s'.2) ∧ Forgets [(k, id)] s'.1 r') ↔
      resolve settings k = .ok k) ∧
    (s'.1.shared.contains k = true ↔
      resolve settings k = .ok k ∨ s.1.shared.contains k = true) ∧
    (close k s').1 = s'.1.shared.contains k ∧
    (resolve settings k ≠ .ok k → (close k s').2.1.instance? id = s'.1.instance? id ∧
      ∃ key, resolve settings k = .ok key ∧ (close k s').2.1.shared.get? key = some id) := by
  have haged : Aged (create settings backends) s.1 := by
    rw [hs]
    exact aged_reached h settings backends w ops
  have hgot := got_of_run_get h hget
  have hsound : s'.1.Sound := (hgot.aged haged.sound).sound
  obtain ⟨key, hkey⟩ := hgot.resolves
  have hshared := hgot.get?_shared hkey
  have hid : s'.1.shared.get? key = some id := by rw [hshared, if_pos rfl]
  replace hkey : resolve settings k = .ok key := by
    rwa [show s.1.settings = settings from haged.settings] at hkey
  have hself : resolve settings k = .ok k ↔ k = key := by simp [hkey, eq_comm]
  refine ⟨(closes_shared_iff h hsound hid).trans hself.symm, ?_, fst_close h hsound, fun hne => ?_⟩
  · rw [hself]
    unfold OrderedMap.contains
    rw [hshared]
    by_cases hk : k = key <;> simp [hk]
  · obtain ⟨hinstance, hkept⟩ := close_apart h hsound hid (mt hself.2 hne)
    exact ⟨hinstance, key, hkey, hkept⟩

theorem closes_got_iff_main :
    ∃ s', (get "main" none).run
        (reached (.single "main" (.ofKind "mock")) Scripted.backends
          (⟨.empty, default⟩ : World Script) []) = (.ok 0, s') ∧
      ∃ d r', s'.1.instance? 0 = some d ∧
        close "main" s' = (true, r', Database.released [d] s'.2) ∧
        Forgets [("main", 0)] s'.1 r' := by
  have hget : ((get "main" none).run
      (reached (.single "main" (.ofKind "mock")) Scripted.backends
        (⟨.empty, default⟩ : World Script) [])).1 = .ok 0 := by
    decide +kernel
  obtain ⟨s', hrun⟩ := Action.exists_run_eq hget
  have hself : resolve (.single "main" (.ofKind "mock")) "main" = .ok "main" := by decide +kernel
  exact ⟨s', hrun, ((closes_got_iff Scripted.disconnects rfl hrun).1.2 hself).2⟩

/-- The active group can be got by the key `default`, but neither be found nor closed by it. -/
theorem default_key_unknown :
    let s := (get "default" none).run
      (create (.single "main" (.ofKind "mock")) Scripted.backends, (⟨.empty, default⟩ : World Script))
    s.1 = .ok 0 ∧ s.2.1.shared.contains "default" = false ∧ (close "default" s.2).1 = false ∧
      (close "default" s.2).2.1.isOpen 0 = true := by
  decide +kernel

end SqlGateway.Registry
