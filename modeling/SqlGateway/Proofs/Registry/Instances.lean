import Mathlib.Data.List.Basic
import SqlGateway.Backend.Scripted
import SqlGateway.Registry
import SqlGateway.Proofs.Database.Operation
import SqlGateway.Proofs.OrderedMap

/-!
# What the calls on a registry do

One statement for each call on a registry. A registry is known here by what can be found in it: its
shared keys, its instances and its leases; how it stores them plays no part later on.

Main definitions:

* `Registry.Sound`: the registry can find what it shares, and shares nothing twice.
* `Registry.Built`: a database that was made and opened as settings want.
* `Registry.Got`: the three ways in which a get succeeds.
* `Registry.Forgets`: some shared databases were closed and forgotten, and nothing else happened.

Main results:

* `Registry.got_of_run_get`, `Registry.unchanged_of_run_get`: gets that succeed, and gets that fail.
* `Registry.forgets_close`, `Registry.forgets_closeAll`: closing one shared database, and all.
-/

namespace SqlGateway

variable {C E α : Type}

/-! ## Closing -/

theorem Scripted.disconnects : Backend.Disconnects Scripted Script :=
  fun _ => rfl

/-- The connections to files that come with the library are of this kind. -/
theorem SqliteFile.disconnects : Backend.Disconnects SqliteFile E :=
  fun _ => rfl

namespace Database

variable [Connection C] [Backend C E]

/-- Nothing is left to do for a database that is closed. -/
theorem release_of_closed {d : Database C} (hd : d.isOpen = false) (w : World E) :
    (release : Effect (Database C) E Unit) (d, w) = ((), d, w) := by
  have hclose : (Session.close : Effect (Session C) E Unit) (d.session, w) = ((), d.session, w) := by
    unfold Session.close
    rw [Effect.bind_apply, Effect.subject_apply]
    simp only [show d.session.isConnected = false from hd, Bool.false_eq_true, ↓reduceIte]
    rfl
  unfold release Effect.part
  rw [hclose]

/-- The world after databases were released, one after the other. -/
def released (ds : List (Database C)) (w : World E) : World E :=
  ds.foldl (fun w d => ((release : Effect (Database C) E Unit) (d, w)).2.2) w

end Database

namespace Registry

/-! ## Finding instances -/

theorem instance?_setInstance (r : Registry C) (id i : InstanceId) (d : Database C) :
    (r.setInstance id d).instance? i =
      if i = id then (r.instance? id).map (fun _ => d) else r.instance? i := by
  have hentries (entries : List (InstanceId × Database C)) :
      (entries.map fun entry => if entry.1 = id then (id, d) else entry).lookup i =
        if i = id then (entries.lookup id).map (fun _ => d) else entries.lookup i := by
    induction entries with
    | nil => simp
    | cons entry rest ih =>
      simp only [List.map_cons, lookup_cons_eq_ite, ih]
      by_cases hentry : entry.1 = id
      · by_cases hi : i = id <;> simp [hentry, hi]
      · by_cases hi : i = id <;> simp [hentry, hi, Ne.symm hentry]
  exact hentries r.instances

/-- The registry with a new instance and a lease on it. -/
def adding (r : Registry C) (d : Database C) : Registry C :=
  { r with
    instances := r.instances ++ [(r.nextId, d)]
    leases := r.nextId :: r.leases
    nextId := r.nextId + 1 }

/-- The registry without an instance. -/
def without (r : Registry C) (id : InstanceId) : Registry C :=
  { r with instances := r.instances.filter fun entry => entry.1 ≠ id }

theorem instance?_without (r : Registry C) (id i : InstanceId) :
    (r.without id).instance? i = if i = id then none else r.instance? i :=
  lookup_filter_ne r.instances id i

theorem without_setInstance (r : Registry C) (id : InstanceId) (d : Database C) :
    (r.setInstance id d).without id = r.without id := by
  have hentries (entries : List (InstanceId × Database C)) :
      (entries.map fun entry => if entry.1 = id then (id, d) else entry).filter
        (fun entry => entry.1 ≠ id) = entries.filter fun entry => entry.1 ≠ id := by
    induction entries with
    | nil => rfl
    | cons entry rest ih => by_cases he : entry.1 = id <;> simpa [he] using ih
  unfold without setInstance
  rw [hentries]

/-- What a registry finds is there, and no database is shared under two keys. -/
structure Sound (r : Registry C) : Prop where
  /-- Numbers are given out in their order. -/
  bound : ∀ id d, r.instance? id = some d → id < r.nextId
  found : ∀ key id, r.shared.get? key = some id → ∃ d, r.instance? id = some d
  apart : ∀ key key' id, r.shared.get? key = some id → r.shared.get? key' = some id → key = key'

theorem Sound.create (settings : Settings) (backends : BackendTable C) :
    (create settings backends).Sound where
  bound _ _ h := by simp [Registry.create, instance?] at h
  found _ _ h := by simp [Registry.create] at h
  apart _ _ _ h := by simp [Registry.create] at h

theorem Sound.shared_lt {r : Registry C} (h : r.Sound) {key : String} {id : InstanceId}
    (hid : r.shared.get? key = some id) : id < r.nextId := by
  obtain ⟨d, hd⟩ := h.found key id hid
  exact h.bound id d hd

/-- The next number is not in use. -/
theorem Sound.instance?_nextId {r : Registry C} (h : r.Sound) : r.instance? r.nextId = none := by
  cases hnext : r.instance? r.nextId with
  | none => rfl
  | some d => exact absurd (h.bound _ _ hnext) (Nat.lt_irrefl _)

theorem Sound.instance?_adding {r : Registry C} (h : r.Sound) (d : Database C) (i : InstanceId) :
    (r.adding d).instance? i = if i = r.nextId then some d else r.instance? i := by
  have happend : (r.adding d).instance? i = (r.instance? i).or ([(r.nextId, d)].lookup i) :=
    List.lookup_append
  rw [happend]
  by_cases hi : i = r.nextId
  · simp [hi, h.instance?_nextId]
  · simp [hi, List.lookup_cons, beq_false_of_ne hi]

/-! ## Work on instances -/

theorem onInstance?_some {r : Registry C} {id : InstanceId} {d : Database C}
    (hd : r.instance? id = some d) (e : Effect (Database C) E α) (w : World E) :
    onInstance? id e (r, w) =
      (some (e (d, w)).1, r.setInstance id (e (d, w)).2.1, (e (d, w)).2.2) := by
  unfold onInstance?
  rw [Effect.bind_apply, Effect.subject_apply]
  simp only [hd]
  rfl

theorem onInstance?_none {r : Registry C} {id : InstanceId} (hd : r.instance? id = none)
    (e : Effect (Database C) E α) (w : World E) : onInstance? id e (r, w) = (none, r, w) := by
  unfold onInstance?
  rw [Effect.bind_apply, Effect.subject_apply]
  simp only [hd]
  rfl

/-! ## Building -/

section
variable [Connection C] [Backend C E]

/-- The database is one over a connection that a backend gave, opened as far as its settings want. -/
structure Built (backends : BackendTable C) (config : ConnectionConfig) (w : World E)
    (d : Database C) (w' : World E) : Prop where
  valid : config.validate = .ok ()
  opened : ∃ conn, backends.build config = .ok conn ∧
    (openNew config).run (Database.create config conn, w) = (.ok (), d, w')

/-- A backend gave a connection, which could not be opened and is closed. -/
def Abandoned (backends : BackendTable C) (config : ConnectionConfig) (w : World E) (e : DbError)
    (w' : World E) : Prop :=
  ∃ conn d, backends.build config = .ok conn ∧
    (openNew config).run (Database.create config conn, w) = (.error e, d, w') ∧ d.isOpen = false

/-- A database that cannot be used is closed before it is given up. -/
theorem isOpen_of_openNew_error (h : Backend.Disconnects C E) {config : ConnectionConfig}
    {d d' : Database C} {w w' : World E} {e : DbError}
    (hrun : (openNew config).run (d, w) = (.error e, d', w')) : d'.isOpen = false := by
  unfold openNew at hrun
  split at hrun
  · rw [Action.run_bind_apply, Action.run_attempt_apply] at hrun
    rcases hconnect : (Database.onSession Session.connect).run (d, w) with ⟨_ | _, d₁, w₁⟩
    · rw [hconnect] at hrun
      simp only at hrun
      split at hrun
      · -- only this way leads to an error, and it closes the database first
        cases hrun
        exact Database.isOpen_release h d₁ w₁
      · cases hrun
    · rw [hconnect] at hrun
      cases hrun
  · cases hrun

/-- What can be built is built. -/
theorem Built.run {r : Registry C} {config : ConnectionConfig} {d : Database C} {w w' : World E}
    (h : Built r.backends config w d w') : (build config).run (r, w) = (.ok d, r, w') := by
  obtain ⟨conn, hconn, hopen⟩ := h.opened
  unfold build
  simp only [Action.run_bind_apply, Action.run_subject_apply, Action.run_ofExcept_apply,
    Action.run_act_apply, h.valid, hconn, Effect.apart, hopen]
  rfl

theorem run_build_cases (h : Backend.Disconnects C E) (config : ConnectionConfig) (r : Registry C)
    (w : World E) :
    (∃ d w', Built r.backends config w d w') ∨
      ∃ e w', (build config).run (r, w) = (.error e, r, w') ∧
        (w' = w ∨ Abandoned r.backends config w e w') := by
  unfold build
  rw [Action.run_bind_apply, Action.run_ofExcept_apply]
  cases hvalid : config.validate with
  | error e => exact .inr ⟨e, w, rfl, .inl rfl⟩
  | ok =>
    simp only [Action.run_bind_apply, Action.run_subject_apply, Action.run_ofExcept_apply]
    cases hconn : r.backends.build config with
    | error e => exact .inr ⟨e, w, rfl, .inl rfl⟩
    | ok conn =>
      rcases hopen : (openNew config).run (Database.create config conn, w) with ⟨e | _, d, w'⟩
      · refine .inr ⟨e, w', ?_, .inr ⟨conn, d, hconn, hopen, isOpen_of_openNew_error h hopen⟩⟩
        simp [Action.run_act_apply, Effect.apart, hopen]
      · exact .inl ⟨d, w', hvalid, conn, hconn, hopen⟩

/-! ## Getting -/

/-- The ways in which a get succeeds: what it gives, and the registry and the world it leaves. -/
inductive Got (r : Registry C) (w : World E) :
    String → Option ConnectionConfig → InstanceId → Registry C → World E → Prop
  /-- The key is shared already. -/
  | shared {k key : String} {id : InstanceId} (hkey : resolve r.settings k = .ok key)
      (hid : r.shared.get? key = some id) :
      Got r w k none id { r with leases := id :: r.leases } w
  /-- The key is shared from now on. -/
  | first {k key : String} {config : ConnectionConfig} {d : Database C} {w' : World E}
      (hkey : resolve r.settings k = .ok key) (hnew : r.shared.get? key = none)
      (hconfig : settingsOf r.settings key = .ok config)
      (hbuilt : Built r.backends config w d w') :
      Got r w k none r.nextId { r.adding d with shared := r.shared.insert key r.nextId } w'
  /-- The caller has settings of its own. -/
  | own {k : String} {config : ConnectionConfig} {d : Database C} {w' : World E}
      (hbuilt : Built r.backends config w d w') :
      Got r w k (some config) r.nextId (r.adding d) w'

/-- What can be got is got. -/
theorem Got.run {r r' : Registry C} {w w' : World E} {k : String}
    {override? : Option ConnectionConfig} {id : InstanceId} (h : Got r w k override? id r' w') :
    (get k override?).run (r, w) = (.ok id, r', w') := by
  unfold get
  cases h with
  | shared hkey hid =>
    simp only [Action.run_bind_apply, Action.run_subject_apply, Action.run_ofExcept_apply, hkey, hid]
    rfl
  | first hkey hnew hconfig hbuilt =>
    simp only [Action.run_bind_apply, Action.run_subject_apply, Action.run_ofExcept_apply, hkey,
      hnew, hconfig, hbuilt.run]
    rfl
  | own hbuilt =>
    simp only [Action.run_bind_apply, hbuilt.run]
    rfl

theorem run_get_cases (h : Backend.Disconnects C E) (k : String)
    (override? : Option ConnectionConfig) (s : Registry C × World E) :
    (∃ id r' w', (get k override?).run s = (.ok id, r', w') ∧ Got s.1 s.2 k override? id r' w') ∨
      ∃ e w', (get k override?).run s = (.error e, s.1, w') ∧
        (w' = s.2 ∨ ∃ config, Abandoned s.1.backends config s.2 e w') := by
  obtain ⟨r, w⟩ := s
  have hdone {id : InstanceId} {r' : Registry C} {w' : World E}
      (hgot : Got r w k override? id r' w') :
      ∃ id r' w', (get k override?).run (r, w) = (.ok id, r', w') ∧ Got r w k override? id r' w' :=
    ⟨id, r', w', hgot.run, hgot⟩
  cases override? with
  | some config =>
    rcases run_build_cases h config r w with ⟨d, w', hbuilt⟩ | ⟨e, w', hrun, hworld⟩
    · exact .inl (hdone (.own hbuilt))
    · refine .inr ⟨e, w', ?_, hworld.imp_right fun h => ⟨config, h⟩⟩
      unfold get
      simp only [Action.run_bind_apply, hrun]
  | none =>
    cases hkey : resolve r.settings k with
    | error e =>
      refine .inr ⟨e, w, ?_, .inl rfl⟩
      unfold get
      simp only [Action.run_bind_apply, Action.run_subject_apply, Action.run_ofExcept_apply, hkey]
    | ok key =>
      cases hid : r.shared.get? key with
      | some id => exact .inl (hdone (.shared hkey hid))
      | none =>
        cases hconfig : settingsOf r.settings key with
        | error e =>
          refine .inr ⟨e, w, ?_, .inl rfl⟩
          unfold get
          simp only [Action.run_bind_apply, Action.run_subject_apply, Action.run_ofExcept_apply,
            hkey, hid, hconfig]
        | ok config =>
          rcases run_build_cases h config r w with ⟨d, w', hbuilt⟩ | ⟨e, w', hrun, hworld⟩
          · exact .inl (hdone (.first hkey hid hconfig hbuilt))
          · refine .inr ⟨e, w', ?_, hworld.imp_right fun h => ⟨config, h⟩⟩
            unfold get
            simp only [Action.run_bind_apply, Action.run_subject_apply, Action.run_ofExcept_apply,
              hkey, hid, hconfig, hrun]

theorem got_of_run_get (h : Backend.Disconnects C E) {k : String}
    {override? : Option ConnectionConfig} {s s' : Registry C × World E} {id : InstanceId}
    (hrun : (get k override?).run s = (.ok id, s')) :
    Got s.1 s.2 k override? id s'.1 s'.2 := by
  rcases run_get_cases h k override? s with ⟨_, _, _, hok, hgot⟩ | ⟨_, _, herror, -⟩
  · cases hok.symm.trans hrun
    exact hgot
  · cases herror.symm.trans hrun

/-- After a get its key is shared, and nothing else is changed about what is shared. -/
theorem Got.get?_shared {r r' : Registry C} {w w' : World E} {k key : String} {id : InstanceId}
    (h : Got r w k none id r' w') (hkey : resolve r.settings k = .ok key) (k' : String) :
    r'.shared.get? k' = if k' = key then some id else r.shared.get? k' := by
  cases h with
  | shared hkey' hid =>
    obtain rfl := Except.ok.inj (hkey.symm.trans hkey')
    split
    · exact ‹k' = key› ▸ hid
    · rfl
  | first hkey' =>
    obtain rfl := Except.ok.inj (hkey.symm.trans hkey')
    exact OrderedMap.get?_insert ..

/-- What is shared stays shared. -/
theorem Got.shared_mono {r r' : Registry C} {w w' : World E} {k key : String}
    {override? : Option ConnectionConfig} {id i : InstanceId} (h : Got r w k override? id r' w')
    (hi : r.shared.get? key = some i) : r'.shared.get? key = some i := by
  cases h with
  | shared | own => exact hi
  | first hkey hnew =>
    -- only a key that is not shared yet is put in
    rw [OrderedMap.get?_insert, if_neg]
    · exact hi
    · rintro rfl
      cases hi.symm.trans hnew

theorem Got.resolves {r r' : Registry C} {w w' : World E} {k : String} {id : InstanceId}
    (h : Got r w k none id r' w') : ∃ key, resolve r.settings k = .ok key := by
  cases h with
  | shared hkey | first hkey => exact ⟨_, hkey⟩

/-- A get leaves the instances that there were alone. -/
theorem Got.instance?_old {r r' : Registry C} {w w' : World E} {k : String}
    {override? : Option ConnectionConfig} {id i : InstanceId} (h : Got r w k override? id r' w')
    (hr : r.Sound) (hi : i < r.nextId) : r'.instance? i = r.instance? i := by
  -- a new instance has another number
  have hadding (d : Database C) : (r.adding d).instance? i = r.instance? i := by
    rw [hr.instance?_adding, if_neg (Nat.ne_of_lt hi)]
  cases h with
  | shared => rfl
  | first | own => exact hadding _

theorem Got.of_own {r r' : Registry C} {w w' : World E} {k : String} {config : ConnectionConfig}
    {id : InstanceId} (h : Got r w k (some config) id r' w') :
    id = r.nextId ∧ ∃ d, r' = r.adding d ∧ Built r.backends config w d w' := by
  cases h with
  | own hbuilt => exact ⟨rfl, _, rfl, hbuilt⟩

/-- A get that fails leaves the registry as it was, and no connection of its own open. -/
theorem unchanged_of_run_get (h : Backend.Disconnects C E) {k : String}
    {override? : Option ConnectionConfig} {s s' : Registry C × World E} {e : DbError}
    (hrun : (get k override?).run s = (.error e, s')) :
    s'.1 = s.1 ∧ (s'.2 = s.2 ∨ ∃ config, Abandoned s.1.backends config s.2 e s'.2) := by
  rcases run_get_cases h k override? s with ⟨_, _, _, hok, -⟩ | ⟨_, _, herror, hworld⟩
  · cases hok.symm.trans hrun
  · cases herror.symm.trans hrun
    exact ⟨rfl, hworld⟩

/-! ## Giving up -/

/-- What is held is not given up. -/
theorem giveUp_held {r : Registry C} {id : InstanceId} (h : r.isHeld id = true) (w : World E) :
    giveUp id (r, w) = ((), r, w) := by
  unfold giveUp
  rw [Effect.bind_apply, Effect.subject_apply]
  simp only [h, ↓reduceIte]
  rfl

theorem giveUp_free {r : Registry C} {id : InstanceId} (h : r.isHeld id = false) (w : World E) :
    giveUp id (r, w) = ((), r.without id, Database.released (r.instance? id).toList w) := by
  unfold giveUp
  rw [Effect.bind_apply, Effect.subject_apply]
  simp only [h, Bool.false_eq_true, ↓reduceIte, Effect.bind_apply, Effect.modifySubject_apply]
  cases hd : r.instance? id with
  | none =>
    rw [onInstance?_none hd]
    rfl
  | some d =>
    -- the instance that is put back is taken out at once
    rw [onInstance?_some hd]
    exact congrArg (fun r' => ((), r', _)) (without_setInstance r id _)

/-! ## Closing -/

/-- There is such an instance, and its connection is open. -/
def isOpen (r : Registry C) (id : InstanceId) : Bool :=
  (r.instance? id).any Database.isOpen

/-- The databases of these keys were closed and forgotten. Those with a lease on them stay, closed;
nothing else is changed. -/
structure Forgets (entries : List (String × InstanceId)) (r r' : Registry C) : Prop where
  were : ∀ e ∈ entries, r.shared.get? e.1 = some e.2
  settings : r'.settings = r.settings
  backends : r'.backends = r.backends
  leases : r'.leases = r.leases
  nextId : r'.nextId = r.nextId
  shared : ∀ k, r'.shared.get? k = if k ∈ keysOf entries then none else r.shared.get? k
  others : ∀ i, i ∉ entries.map Prod.snd → r'.instance? i = r.instance? i
  kept : ∀ i ∈ entries.map Prod.snd, (∃ d, r'.instance? i = some d) ↔ i ∈ r.leases
  closed : ∀ i ∈ entries.map Prod.snd, r'.isOpen i = false

namespace Forgets

variable {r r₁ r' : Registry C} {entries : List (String × InstanceId)}

theorem nil : Forgets [] r r where
  were _ h := nomatch h
  settings := rfl
  backends := rfl
  leases := rfl
  nextId := rfl
  shared _ := rfl
  others _ _ := rfl
  kept _ h := nomatch h
  closed _ h := nomatch h

/-- What was shared under a key that is not forgotten keeps its number to itself. -/
theorem not_mem (h : Forgets entries r r') (hr : r.Sound) {k : String} {id : InstanceId}
    (hid : r.shared.get? k = some id) (hk : k ∉ keysOf entries) : id ∉ entries.map Prod.snd := by
  intro hmem
  obtain ⟨e, he, rfl⟩ := List.mem_map.1 hmem
  obtain rfl := hr.apart _ _ _ (h.were e he) hid
  exact hk (List.mem_map_of_mem he)

theorem sound (h : Forgets entries r r') (hr : r.Sound) : r'.Sound where
  bound i d hd := by
    rw [h.nextId]
    by_cases hi : i ∈ entries.map Prod.snd
    · obtain ⟨e, he, rfl⟩ := List.mem_map.1 hi
      exact hr.shared_lt (h.were e he)
    · exact hr.bound i d (h.others i hi ▸ hd)
  found k id hid := by
    rw [h.shared] at hid
    split at hid
    · cases hid
    · rename_i hk
      rw [h.others id (h.not_mem hr hid hk)]
      exact hr.found k id hid
  apart k k' id hid hid' := by
    rw [h.shared] at hid hid'
    split at hid
    · cases hid
    · split at hid'
      · cases hid'
      · exact hr.apart k k' id hid hid'

/-- When everything is forgotten, nothing is shared. -/
theorem keys_eq_nil (h : Forgets r.shared.entries r r') : r'.shared.keys = [] := by
  rw [List.eq_nil_iff_forall_not_mem]
  intro key hkey
  obtain ⟨id, hid⟩ := OrderedMap.mem_keys_iff.1 hkey
  rw [h.shared] at hid
  split at hid
  · cases hid
  · -- a key that is still shared was shared before
    exact ‹key ∉ keysOf r.shared.entries› (OrderedMap.mem_keys_iff.2 ⟨id, hid⟩)

theorem cons {key : String} {id : InstanceId} (hr : r.Sound) (h : Forgets [(key, id)] r r₁)
    (hrest : Forgets entries r₁ r') : Forgets ((key, id) :: entries) r r' := by
  -- what is still shared is not what was closed first
  have hshared (e : String × InstanceId) (he : e ∈ entries) :
      e.1 ≠ key ∧ r.shared.get? e.1 = some e.2 := by
    have hwas := hrest.were e he
    rw [h.shared] at hwas
    split at hwas
    · cases hwas
    · rename_i hne
      exact ⟨by simpa using hne, hwas⟩
  have hid : id ∉ entries.map Prod.snd := by
    intro hmem
    obtain ⟨e, he, rfl⟩ := List.mem_map.1 hmem
    have hkey := h.were (key, e.2) (List.mem_singleton_self _)
    exact (hshared e he).1 (hr.apart _ _ _ (hshared e he).2 hkey)
  refine ⟨?_, hrest.settings.trans h.settings, hrest.backends.trans h.backends,
    hrest.leases.trans h.leases, hrest.nextId.trans h.nextId, ?_, ?_, ?_, ?_⟩
  · intro e he
    rcases List.mem_cons.1 he with rfl | he
    · exact h.were _ (List.mem_singleton_self _)
    · exact (hshared e he).2
  · intro k
    have hhead : k ∈ keysOf [(key, id)] ↔ k = key := List.mem_singleton
    have hkeys : k ∈ keysOf ((key, id) :: entries) ↔ k = key ∨ k ∈ keysOf entries := List.mem_cons
    rw [hrest.shared, h.shared]
    split
    · rw [if_pos (hkeys.2 (.inr ‹_›))]
    · by_cases hk : k = key
      · rw [if_pos (hhead.2 hk), if_pos (hkeys.2 (.inl hk))]
      · rw [if_neg (mt hhead.1 hk), if_neg (mt hkeys.1 (not_or.2 ⟨hk, ‹_›⟩))]
  · intro i hi
    rw [List.map_cons, List.mem_cons, not_or] at hi
    rw [hrest.others i hi.2, h.others i (by simpa using hi.1)]
  · intro i hi
    rcases List.mem_cons.1 hi with rfl | hi
    · rw [hrest.others _ hid]
      exact h.kept _ (List.mem_singleton_self _)
    · rw [hrest.kept i hi, h.leases]
  · intro i hi
    rcases List.mem_cons.1 hi with rfl | hi
    · unfold isOpen
      rw [hrest.others _ hid]
      exact h.closed _ (List.mem_singleton_self _)
    · exact hrest.closed i hi

end Forgets

theorem close_unknown {r : Registry C} {key : String} (h : r.shared.get? key = none) (w : World E) :
    close key (r, w) = (false, r, w) := by
  unfold close
  rw [Effect.bind_apply, Effect.subject_apply]
  simp only [h]
  rfl

/-- The registry when the database of a key was closed and the key forgotten, before the instance is
given up. -/
def unsharing (r : Registry C) (key : String) (id : InstanceId) (d : Database C) : Registry C :=
  { r with shared := r.shared.erase key }.setInstance id d

omit [Connection C] [Backend C E] in
theorem instance?_unsharing {r : Registry C} {id : InstanceId} {d : Database C}
    (hd : r.instance? id = some d) (key : String) (d' : Database C) (i : InstanceId) :
    (r.unsharing key id d').instance? i = if i = id then some d' else r.instance? i := by
  have hfind := instance?_setInstance { r with shared := r.shared.erase key } id i d'
  rwa [show instance? { r with shared := r.shared.erase key } id = some d from hd] at hfind

omit [Connection C] [Backend C E] in
/-- No other key keeps the database alive. -/
theorem isHeld_unsharing {r : Registry C} (hr : r.Sound) {key : String} {id : InstanceId}
    (hid : r.shared.get? key = some id) (d : Database C) :
    (r.unsharing key id d).isHeld id = r.leases.contains id := by
  have hnone : id ∉ (r.shared.erase key).values := by
    rw [OrderedMap.mem_values_iff]
    rintro ⟨k, hk⟩
    rw [OrderedMap.get?_erase] at hk
    split at hk
    · cases hk
    · rename_i hne
      exact hne (hr.apart _ _ _ hk hid)
  show ((r.shared.erase key).values.contains id || r.leases.contains id) = _
  rw [List.contains_eq_mem, decide_eq_false hnone, Bool.false_or]

theorem close_known {r : Registry C} {key : String} {id : InstanceId} {d d' : Database C}
    {w w' : World E} (hid : r.shared.get? key = some id) (hd : r.instance? id = some d)
    (hrelease : (Database.release : Effect _ E _) (d, w) = ((), d', w')) :
    close key (r, w) = (true, (giveUp id (r.unsharing key id d', w')).2) := by
  unfold close
  rw [Effect.bind_apply, Effect.subject_apply]
  simp only [hid, Effect.bind_apply, Effect.modifySubject_apply]
  rw [onInstance?_some (show instance? { r with shared := r.shared.erase key } id = some d from hd),
    hrelease]
  rfl

/-- A shared database is closed once and forgotten. -/
theorem forgets_close (h : Backend.Disconnects C E) {r : Registry C} (hr : r.Sound) {key : String}
    {id : InstanceId} {d : Database C} (hid : r.shared.get? key = some id)
    (hd : r.instance? id = some d) (w : World E) :
    ∃ r', close key (r, w) = (true, r', Database.released [d] w) ∧ Forgets [(key, id)] r r' := by
  obtain ⟨d', w', hrelease⟩ : ∃ d' w', (Database.release : Effect _ E _) (d, w) = ((), d', w') :=
    ⟨_, _, rfl⟩
  have hclosed : d'.isOpen = false := by
    have := Database.isOpen_release h d w
    rwa [hrelease] at this
  have hworld : Database.released [d] w = w' := congrArg (·.2.2) hrelease
  have hfind := instance?_unsharing hd key d'
  have hheld := isHeld_unsharing hr hid d'
  rw [close_known hid hd hrelease, hworld]
  by_cases hlease : id ∈ r.leases
  · rw [giveUp_held (by simpa [hheld] using hlease)]
    refine ⟨r.unsharing key id d', rfl, ?_, rfl, rfl, rfl, rfl, ?_, ?_, ?_, ?_⟩
    · simpa using hid
    · simp [unsharing, setInstance]
    · intro i hi
      rw [hfind, if_neg (by simpa using hi)]
    · simp [hfind, hlease]
    · simp [isOpen, hfind, hclosed]
  · rw [giveUp_free (by simpa [hheld] using hlease), hfind, if_pos rfl]
    -- what is given up is closed already
    have hrest : Database.released (some d').toList w' = w' := by
      show ((Database.release : Effect _ E _) (d', w')).2.2 = w'
      rw [Database.release_of_closed hclosed]
    rw [hrest]
    refine ⟨(r.unsharing key id d').without id, rfl, ?_, rfl, rfl, rfl, rfl, ?_, ?_, ?_, ?_⟩
    · simpa using hid
    · simp [unsharing, setInstance, without]
    · intro i hi
      have hne : i ≠ id := by simpa using hi
      rw [instance?_without, if_neg hne, hfind, if_neg hne]
    · simp [instance?_without, hlease]
    · simp [isOpen, instance?_without]

theorem forgets_closeKeys (h : Backend.Disconnects C E) (entries : List (String × InstanceId))
    {r : Registry C} (hr : r.Sound) (hshared : ∀ e ∈ entries, r.shared.get? e.1 = some e.2)
    (hnodup : (keysOf entries).Nodup) (w : World E) :
    ∃ r', closeKeys (keysOf entries) (r, w) =
        ((), r', Database.released ((entries.map Prod.snd).filterMap r.instance?) w) ∧
      Forgets entries r r' := by
  induction entries generalizing r w with
  | nil => exact ⟨r, rfl, .nil⟩
  | cons e entries ih =>
    obtain ⟨hfresh, hnodup⟩ := List.nodup_cons.1 hnodup
    have hid := hshared e (List.mem_cons_self ..)
    obtain ⟨d, hd⟩ := hr.found _ _ hid
    obtain ⟨r₁, hclose, hforgets⟩ := forgets_close h hr hid hd w
    have hshared₁ (e' : String × InstanceId) (he' : e' ∈ entries) :
        r₁.shared.get? e'.1 = some e'.2 := by
      have hne : e'.1 ≠ e.1 := fun heq => hfresh (heq ▸ List.mem_map_of_mem he')
      rw [hforgets.shared, if_neg (by simpa using hne)]
      exact hshared e' (List.mem_cons_of_mem _ he')
    obtain ⟨r', hrest, hforgets'⟩ :=
      ih (hforgets.sound hr) hshared₁ hnodup (Database.released [d] w)
    refine ⟨r', ?_, hforgets.cons hr hforgets'⟩
    -- the databases that are still to be closed are the ones from the start
    have hsame : (entries.map Prod.snd).filterMap r₁.instance? =
        (entries.map Prod.snd).filterMap r.instance? := by
      refine List.filterMap_congr fun i hi => hforgets.others i ?_
      obtain ⟨e', he', rfl⟩ := List.mem_map.1 hi
      intro hmem
      have heq : e'.2 = e.2 := by simpa using hmem
      have hkeys := hr.apart _ _ _ (hshared e' (List.mem_cons_of_mem _ he')) (heq ▸ hid)
      exact hfresh (hkeys ▸ List.mem_map_of_mem he')
    show closeKeys (keysOf entries) (close e.1 (r, w)).2 = _
    rw [hclose, hrest, hsame, List.map_cons, List.filterMap_cons, hd]
    rfl

/-- Everything that is shared is closed and forgotten. -/
theorem forgets_closeAll (h : Backend.Disconnects C E) {r : Registry C} (hr : r.Sound)
    (w : World E) :
    ∃ r', closeAll (r, w) =
        ((), r', Database.released (r.shared.values.filterMap r.instance?) w) ∧
      Forgets r.shared.entries r r' :=
  forgets_closeKeys h r.shared.entries hr (fun _ he => OrderedMap.get?_eq_some_iff.2 he)
    r.shared.nodup w

end

end Registry

end SqlGateway
