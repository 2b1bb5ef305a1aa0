import SqlGateway.Proofs.Database.Operation
import SqlGateway.Proofs.Registry.Instances

/-!
# Runs of a registry

Everything that can be done with a registry and with the databases that it has given out, as data,
and what holds after every run of it. A database may be used or dropped at any time, also after the
registry has forgotten it.

Main definitions:

* `Registry.Operation`, `Registry.perform`, `Registry.after`: operations, and operations one after
  the other.
* `Registry.Step`: all that an operation can do to a registry.
* `Registry.ageing`: the law that a registry stays sound and gives each number out once.
* `Registry.reached`: what a new registry has become after operations.

Main results:

* `Registry.step_perform`: an operation does one of these things.
* `Registry.governs_perform`, `Registry.aged_after`: all operations and all runs obey the law.
* `Registry.shared_after`: what is shared under a key stays shared until it is closed.
-/

namespace SqlGateway

namespace Registry

inductive Operation where
  | get (key : String) (override? : Option ConnectionConfig)
  | close (key : String)
  | closeAll
  /-- A call on an instance that was given out. -/
  | use (id : InstanceId) (op : Database.Operation)
  | drop (id : InstanceId)

/-- The operation closes what is shared under the key. -/
def Operation.Closes (key : String) : Operation → Prop
  | .close k => k = key
  | .closeAll => True
  | _ => False

variable {C E α : Type}

/-! ## One instance at a time -/

/-- Nothing was done but to one instance, and it is there as long as it is shared. -/
structure Touches (id : InstanceId) (r r' : Registry C) : Prop where
  settings : r'.settings = r.settings
  backends : r'.backends = r.backends
  nextId : r'.nextId = r.nextId
  shared : r'.shared = r.shared
  others : ∀ i ≠ id, r'.instance? i = r.instance? i
  was : (∃ d, r'.instance? id = some d) → ∃ d, r.instance? id = some d
  kept : ∀ key, r.shared.get? key = some id → (∃ d, r.instance? id = some d) →
    ∃ d, r'.instance? id = some d

/-- Leases are no part of what is touched. -/
theorem Touches.withLeases (id : InstanceId) (r : Registry C) (leases : List InstanceId) :
    Touches id r { r with leases } :=
  ⟨rfl, rfl, rfl, rfl, fun _ _ => rfl, fun h => h, fun _ _ h => h⟩

theorem touches_onInstance? (id : InstanceId) (e : Effect (Database C) E α) (r : Registry C)
    (w : World E) : Touches id r (onInstance? id e (r, w)).2.1 := by
  cases hd : r.instance? id with
  | none =>
    rw [onInstance?_none hd]
    exact .withLeases id r r.leases
  | some d =>
    rw [onInstance?_some hd]
    refine ⟨rfl, rfl, rfl, rfl, fun i hi => ?_, fun _ => ⟨d, hd⟩, fun _ _ _ => ?_⟩
    · rw [instance?_setInstance, if_neg hi]
    · simp [instance?_setInstance, hd]

section
variable [Connection C] [Backend C E]

/-- Giving a lease back may give the instance up, and opens nothing. -/
theorem touches_drop (id : InstanceId) (r : Registry C) (w : World E) :
    Touches id r (drop id (r, w)).2.1 ∧
      ∀ i, (drop id (r, w)).2.1.isOpen i = true → r.isOpen i = true := by
  let r₁ : Registry C := { r with leases := r.leases.erase id }
  show Touches id r (giveUp id (r₁, w)).2.1 ∧ ∀ i, (giveUp id (r₁, w)).2.1.isOpen i = true → _
  cases hheld : r₁.isHeld id with
  | true =>
    rw [giveUp_held hheld]
    exact ⟨.withLeases id r _, fun _ hopen => hopen⟩
  | false =>
    rw [giveUp_free hheld]
    have hfind (i : InstanceId) :
        (r₁.without id).instance? i = if i = id then none else r.instance? i :=
      instance?_without r₁ id i
    refine ⟨⟨rfl, rfl, rfl, rfl, fun i hi => ?_, fun ⟨d, hd⟩ => ?_, fun key hkey => ?_⟩,
      fun i hopen => ?_⟩
    · rw [hfind, if_neg hi]
    · rw [hfind, if_pos rfl] at hd
      cases hd
    · -- a shared instance is held
      have hmem : r.shared.values.contains id = true := by
        rw [List.contains_iff_mem, OrderedMap.mem_values_iff]
        exact ⟨key, hkey⟩
      rw [isHeld, show r₁.shared.values.contains id = true from hmem] at hheld
      cases hheld
    · unfold isOpen at hopen ⊢
      rw [hfind] at hopen
      split at hopen
      · cases hopen
      · exact hopen

/-! ## Operations -/

def perform : Operation → Effect (Registry C) E Unit
  | .get key override? => do let _ ← (get key override?).run
  | .close key => do let _ ← close key
  | .closeAll => closeAll
  | .use id op => do let _ ← onInstance? id (Database.perform op).run
  | .drop id => drop id

theorem perform_get (k : String) (override? : Option ConnectionConfig) (s : Registry C × World E) :
    (perform (.get k override?) s).2 = ((get k override?).run s).2 :=
  rfl

/-- The registry and the world after operations. -/
def after (ops : List Operation) (s : Registry C × World E) : Registry C × World E :=
  ops.foldl (fun s op => (perform op s).2) s

theorem after_append (ops ops' : List Operation) (s : Registry C × World E) :
    after (ops ++ ops') s = after ops' (after ops s) :=
  List.foldl_append

theorem after_concat (ops : List Operation) (op : Operation) (s : Registry C × World E) :
    after (ops ++ [op]) s = (perform op (after ops s)).2 :=
  after_append ops [op] s

/-- A close comes down to forgetting one database, or to nothing. -/
theorem close_cases (h : Backend.Disconnects C E) {r : Registry C} (hr : r.Sound) (key : String)
    (w : World E) :
    r.shared.get? key = none ∧ close key (r, w) = (false, r, w) ∨
      ∃ id d r', r.shared.get? key = some id ∧ r.instance? id = some d ∧
        close key (r, w) = (true, r', Database.released [d] w) ∧ Forgets [(key, id)] r r' := by
  cases hid : r.shared.get? key with
  | none => exact .inl ⟨rfl, close_unknown hid w⟩
  | some id =>
    obtain ⟨d, hd⟩ := hr.found key id hid
    obtain ⟨r', hclose, hforgets⟩ := forgets_close h hr hid hd w
    exact .inr ⟨id, d, r', rfl, hd, hclose, hforgets⟩

/-- The ways in which an operation changes a registry. A get that fails and a close of a key that is
not shared forget nothing, and change nothing. -/
inductive Step (s : Registry C × World E) (r' : Registry C) : Operation → Prop
  | got {k : String} {override? : Option ConnectionConfig} {id : InstanceId} {w' : World E}
      (hrun : (get k override?).run s = (.ok id, r', w'))
      (h : Got s.1 s.2 k override? id r' w') : Step s r' (.get k override?)
  | forgot {op : Operation} {entries : List (String × InstanceId)}
      (hkeys : ∀ key ∈ keysOf entries, op.Closes key)
      (hall : ∀ key id, op.Closes key → s.1.shared.get? key = some id →
        id ∈ entries.map Prod.snd)
      (h : Forgets entries s.1 r') : Step s r' op
  | used {id : InstanceId} {op : Database.Operation} (h : Touches id s.1 r') : Step s r' (.use id op)
  | dropped {id : InstanceId} (h : Touches id s.1 r')
      (hopen : ∀ i, r'.isOpen i = true → s.1.isOpen i = true) : Step s r' (.drop id)

theorem step_perform (h : Backend.Disconnects C E) (op : Operation) {s : Registry C × World E}
    (hs : s.1.Sound) : Step s (perform op s).2.1 op := by
  cases op with
  | get k override? =>
    rw [perform_get]
    rcases run_get_cases h k override? s with ⟨id, r', w', hrun, hgot⟩ | ⟨e, w', hrun, -⟩
    · rw [hrun]
      exact .got hrun hgot
    · rw [hrun]
      exact .forgot (fun _ hmem => absurd hmem List.not_mem_nil) (fun _ _ hop => hop.elim) .nil
  | close k =>
    show Step s (close k s).2.1 (.close k)
    rcases close_cases h hs k s.2 with ⟨hnone, hclose⟩ | ⟨id, d, r', hid, -, hclose, hforgets⟩
    · rw [show close k s = (false, s) from hclose]
      refine .forgot (fun _ hmem => absurd hmem List.not_mem_nil) (fun key id hop hid => ?_) .nil
      obtain rfl : k = key := hop
      cases hid.symm.trans hnone
    · rw [show close k s = _ from hclose]
      refine .forgot (fun key hmem => ?_) (fun key i hop hi => ?_) hforgets
      · exact (List.mem_singleton.1 hmem).symm
      · obtain rfl : k = key := hop
        exact List.mem_singleton.2 (Option.some.inj (hi.symm.trans hid))
  | closeAll =>
    obtain ⟨r', hclose, hforgets⟩ := forgets_closeAll h hs s.2
    show Step s (closeAll s).2.1 .closeAll
    rw [show closeAll s = _ from hclose]
    exact .forgot (fun _ _ => trivial)
      (fun key id _ hid => OrderedMap.mem_values_iff.2 ⟨key, hid⟩) hforgets
  | use id op => exact .used (touches_onInstance? id _ s.1 s.2)
  | drop id => exact .dropped (touches_drop id s.1 s.2).1 (touches_drop id s.1 s.2).2

/-! ## Ageing -/

/-- A registry goes on: it stays sound, and an old instance is not shared anew. -/
structure Aged (r r' : Registry C) : Prop where
  sound : r'.Sound
  settings : r'.settings = r.settings
  backends : r'.backends = r.backends
  nextId : r.nextId ≤ r'.nextId
  shared : ∀ key id, r'.shared.get? key = some id →
    r.shared.get? key = some id ∨ r.nextId ≤ id

omit [Connection C] in
theorem Sound.aged {r : Registry C} (h : r.Sound) : Aged r r :=
  ⟨h, rfl, rfl, Nat.le_refl _, fun _ _ => .inl⟩

omit [Connection C] in
theorem Touches.aged {id : InstanceId} {r r' : Registry C} (h : Touches id r r') (hr : r.Sound) :
    Aged r r' where
  sound :=
    { bound := by
        intro i d hd
        rw [h.nextId]
        by_cases hi : i = id
        · subst hi
          obtain ⟨d, hd⟩ := h.was ⟨d, hd⟩
          exact hr.bound i d hd
        · exact hr.bound i d (h.others i hi ▸ hd)
      found := by
        intro key i hkey
        rw [h.shared] at hkey
        by_cases hi : i = id
        · subst hi
          exact h.kept key hkey (hr.found key i hkey)
        · rw [h.others i hi]
          exact hr.found key i hkey
      apart := by
        rw [h.shared]
        exact hr.apart }
  settings := h.settings
  backends := h.backends
  nextId := Nat.le_of_eq h.nextId.symm
  shared := by
    rw [h.shared]
    exact fun _ _ => .inl

theorem Forgets.aged {entries : List (String × InstanceId)} {r r' : Registry C}
    (h : Forgets entries r r') (hr : r.Sound) : Aged r r' where
  sound := h.sound hr
  settings := h.settings
  backends := h.backends
  nextId := Nat.le_of_eq h.nextId.symm
  shared key id hid := by
    rw [h.shared] at hid
    split at hid
    · cases hid
    · exact .inl hid

theorem Got.aged {r r' : Registry C} {w w' : World E} {k : String}
    {override? : Option ConnectionConfig} {id : InstanceId} (h : Got r w k override? id r' w')
    (hr : r.Sound) : Aged r r' := by
  have hadding (d : Database C) : (r.adding d).Sound := by
    refine ⟨fun i d' hd => ?_, fun key i hi => ?_, hr.apart⟩
    · rw [hr.instance?_adding] at hd
      show i < r.nextId + 1
      split at hd
      · exact ‹i = r.nextId› ▸ Nat.lt_succ_self _
      · exact Nat.lt_succ_of_lt (hr.bound i d' hd)
    · obtain ⟨d', hd'⟩ := hr.found key i hi
      rw [hr.instance?_adding, if_neg (Nat.ne_of_lt (hr.bound i d' hd'))]
      exact ⟨d', hd'⟩
  cases h with
  | shared =>
    exact ⟨⟨hr.bound, hr.found, hr.apart⟩, rfl, rfl, Nat.le_refl _, fun _ _ => .inl⟩
  | own => exact ⟨hadding _, rfl, rfl, Nat.le_succ _, fun _ _ => .inl⟩
  | @first key _ d =>
    have hshared (k' : String) (i : InstanceId)
        (h : (r.shared.insert key r.nextId).get? k' = some i) :
        k' = key ∧ i = r.nextId ∨ r.shared.get? k' = some i ∧ i < r.nextId := by
      rw [OrderedMap.get?_insert] at h
      split at h
      · exact .inl ⟨‹_›, (Option.some.inj h).symm⟩
      · exact .inr ⟨h, hr.shared_lt h⟩
    refine ⟨⟨(hadding d).bound, fun k' i hi => ?_, fun k' k'' i hi hi' => ?_⟩, rfl, rfl,
      Nat.le_succ _, fun k' i hi => ?_⟩
    · show ∃ d', (r.adding d).instance? i = some d'
      rcases hshared k' i hi with ⟨-, rfl⟩ | ⟨hold, -⟩
      · exact ⟨d, by rw [hr.instance?_adding, if_pos rfl]⟩
      · exact (hadding d).found k' i hold
    · -- the new number is not among the old ones
      rcases hshared k' i hi with ⟨rfl, hnext⟩ | ⟨hold, hlt⟩ <;>
        rcases hshared k'' i hi' with ⟨rfl, hnext'⟩ | ⟨hold', hlt'⟩
      · rfl
      · exact absurd hnext (Nat.ne_of_lt hlt')
      · exact absurd hnext' (Nat.ne_of_lt hlt)
      · exact hr.apart k' k'' i hold hold'
    · rcases hshared k' i hi with ⟨-, hnext⟩ | ⟨hold, -⟩
      · exact .inr (Nat.le_of_eq hnext.symm)
      · exact .inl hold

/-- The law of going on, for sound registries. -/
def ageing (C : Type) : Law (Registry C) where
  rel r r' := r.Sound → Aged r r'
  refl _ := Sound.aged
  trans hrs hst hr := by
    have hs := hrs hr
    have ht := hst hs.sound
    refine ⟨ht.sound, ht.settings.trans hs.settings, ht.backends.trans hs.backends,
      Nat.le_trans hs.nextId ht.nextId, fun key id hid => ?_⟩
    rcases ht.shared key id hid with hid | hlt
    · exact hs.shared key id hid
    · exact .inr (Nat.le_trans hs.nextId hlt)

theorem governs_perform (h : Backend.Disconnects C E) (op : Operation) :
    (ageing C).Governs (perform op : Effect (Registry C) E Unit) := by
  intro s hs
  cases step_perform h op hs with
  | got _ hgot => exact hgot.aged hs
  | forgot _ _ hforgets => exact hforgets.aged hs
  | used htouches | dropped htouches => exact htouches.aged hs

/-- Every run obeys the law. -/
theorem aged_after (h : Backend.Disconnects C E) (ops : List Operation) {s : Registry C × World E}
    (hs : s.1.Sound) : Aged s.1 (after ops s).1 := by
  induction ops using List.reverseRecOn with
  | nil => exact hs.aged
  | append_singleton ops op ih =>
    rw [after_concat]
    exact (ageing C).trans (fun _ => ih) (governs_perform h op _) hs

/-! ## Sharing -/

/-- What is shared under a key stays so, unless the operation closes it. -/
theorem shared_perform (h : Backend.Disconnects C E) {op : Operation} {key : String}
    (hop : ¬op.Closes key) {s : Registry C × World E} (hs : s.1.Sound) {id : InstanceId}
    (hid : s.1.shared.get? key = some id) : (perform op s).2.1.shared.get? key = some id := by
  cases step_perform h op hs with
  | got _ hgot => exact hgot.shared_mono hid
  | forgot hkeys _ hforgets =>
    rw [hforgets.shared, if_neg fun hmem => hop (hkeys key hmem)]
    exact hid
  | used htouches | dropped htouches =>
    rw [htouches.shared]
    exact hid

theorem shared_after (h : Backend.Disconnects C E) {ops : List Operation} {key : String}
    (hops : ∀ op ∈ ops, ¬op.Closes key) {s : Registry C × World E} (hs : s.1.Sound)
    {id : InstanceId} (hid : s.1.shared.get? key = some id) :
    (after ops s).1.shared.get? key = some id := by
  induction ops using List.reverseRecOn with
  | nil => exact hid
  | append_singleton ops op ih =>
    rw [after_concat]
    have hops' := fun op hop => hops op (List.mem_append_left _ hop)
    exact shared_perform h (hops op (by simp)) (aged_after h ops hs).sound (ih hops')

/-! ## From the start -/

/-- What a new registry and the world have become after operations. -/
def reached (settings : Settings) (backends : BackendTable C) (w : World E) (ops : List Operation) :
    Registry C × World E :=
  after ops (create settings backends, w)

theorem reached_concat (settings : Settings) (backends : BackendTable C) (w : World E)
    (ops : List Operation) (op : Operation) :
    reached settings backends w (ops ++ [op]) =
      (perform op (reached settings backends w ops)).2 :=
  after_concat ops op _

theorem reached_append (settings : Settings) (backends : BackendTable C) (w : World E)
    (ops ops' : List Operation) :
    reached settings backends w (ops ++ ops') = after ops' (reached settings backends w ops) :=
  after_append ops ops' _

theorem aged_reached (h : Backend.Disconnects C E) (settings : Settings) (backends : BackendTable C)
    (w : World E) (ops : List Operation) :
    Aged (create settings backends) (reached settings backends w ops).1 :=
  aged_after h ops (s := (create settings backends, w)) (Sound.create settings backends)

end

end Registry

/-! ## A small registry -/

/-- Settings of one connection, which is the active group. -/
def Settings.single (group : String) (config : ConnectionConfig) : Settings :=
  ⟨some group, true, OrderedMap.empty.insert group config⟩

/-- One kind of backends, which follow a script. -/
def Scripted.backends : BackendTable Scripted :=
  BackendTable.empty.register "mock" fun _ => .ok (.ofDialect .mysql)

end SqlGateway
