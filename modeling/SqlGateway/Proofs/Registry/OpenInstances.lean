import SqlGateway.Proofs.Registry.Sharing

/-!
# Open instances of a key

An instance goes on living after the registry has forgotten it, as long as a caller has a lease on
it, and it opens again when it is used. So a key may have had several instances that are open at one
time. The registry has a part in one of them only: the others were opened by their callers.

Main definitions:

* `Registry.GaveFor`: an instance that was given out for a key.
* `Registry.Reopened`: an instance that a caller opened after the registry had forgotten it.

Main results:

* `Registry.isOpen_perform`: an operation opens no instance but a new one and the one it uses.
* `Registry.shared_of_isOpen_perform`: what an operation forgets, it closes.
* `Registry.at_most_one_open`: of the instances of a key that were not reopened, one may be open.
-/

namespace SqlGateway.Registry

variable {C E : Type} [Connection C] [Backend C E]
variable {settings : Settings} {backends : BackendTable C} {w : World E} {ops : List Operation}

/-! ## Single operations -/

/-- What is open after some databases were forgotten is none of them. -/
theorem Forgets.isOpen_others {entries : List (String × InstanceId)} {r r' : Registry C}
    (h : Forgets entries r r') {id : InstanceId} (hopen : r'.isOpen id = true) :
    id ∉ entries.map Prod.snd ∧ r.isOpen id = true := by
  by_cases hmem : id ∈ entries.map Prod.snd
  · rw [h.closed id hmem] at hopen
    cases hopen
  · rw [isOpen, h.others id hmem] at hopen
    exact ⟨hmem, hopen⟩

/-- An operation opens no instance but a new one and the one that it uses. -/
theorem isOpen_perform (h : Backend.Disconnects C E) {op : Operation} {s : Registry C × World E}
    (hs : s.1.Sound) {id : InstanceId} (hid : id < s.1.nextId) (hop : ∀ o, op ≠ .use id o)
    (hopen : (perform op s).2.1.isOpen id = true) : s.1.isOpen id = true := by
  cases step_perform h op hs with
  | got _ hgot => rwa [isOpen, hgot.instance?_old hs hid] at hopen
  | forgot _ _ hforgets => exact (hforgets.isOpen_others hopen).2
  | @used i o htouches =>
    have hne : id ≠ i := by
      rintro rfl
      exact hop o rfl
    rwa [isOpen, htouches.others id hne] at hopen
  | dropped _ hkept => exact hkept id hopen

/-- What an operation forgets, it closes. -/
theorem shared_of_isOpen_perform (h : Backend.Disconnects C E) {op : Operation}
    {s : Registry C × World E} (hs : s.1.Sound) {key : String} {id : InstanceId}
    (hid : s.1.shared.get? key = some id) (hopen : (perform op s).2.1.isOpen id = true) :
    (perform op s).2.1.shared.get? key = some id := by
  cases step_perform h op hs with
  | got _ hgot => exact hgot.shared_mono hid
  | @forgot _ entries hkeys hall hforgets =>
    -- the key is none of the forgotten ones, since its instance would be closed
    have hkey : key ∉ keysOf entries := fun hmem =>
      (hforgets.isOpen_others hopen).1 (hall key id (hkeys key hmem) hid)
    rw [hforgets.shared, if_neg hkey]
    exact hid
  | used htouches | dropped htouches =>
    rw [htouches.shared]
    exact hid

/-! ## Runs -/

/-- In the course of the operations a get for the key, with the settings of the key, gave this
instance. -/
def GaveFor (settings : Settings) (backends : BackendTable C) (w : World E) (ops : List Operation)
    (key : String) (id : InstanceId) : Prop :=
  ∃ k, resolve settings k = .ok key ∧ Gave settings backends w ops k none id

/-- In the course of the operations a caller used an instance of the key that the registry had
forgotten, which was closed and is open then. -/
def Reopened (settings : Settings) (backends : BackendTable C) (w : World E) (ops : List Operation)
    (key : String) (id : InstanceId) : Prop :=
  ∃ before op rest, ops = before ++ .use id op :: rest ∧
    GaveFor settings backends w before key id ∧
    (reached settings backends w before).1.shared.get? key ≠ some id ∧
    (reached settings backends w before).1.isOpen id = false ∧
    (reached settings backends w (before ++ [.use id op])).1.isOpen id = true

theorem Reopened.concat {key : String} {id : InstanceId}
    (h : Reopened settings backends w ops key id) (op : Operation) :
    Reopened settings backends w (ops ++ [op]) key id := by
  obtain ⟨before, use, rest, rfl, hreopened⟩ := h
  exact ⟨before, use, rest ++ [op], by simp, hreopened⟩

/-- What was given out by the end was given out before the last operation, or by it. -/
theorem GaveFor.of_concat {key : String} {id : InstanceId} {op : Operation}
    (h : GaveFor settings backends w (ops ++ [op]) key id) :
    GaveFor settings backends w ops key id ∨
      ∃ k, resolve settings k = .ok key ∧ op = .get k none ∧
        ((get k none).run (reached settings backends w ops)).1 = .ok id := by
  obtain ⟨k, hkey, before, rest, hops, hget⟩ := h
  induction rest using List.reverseRecOn with
  | nil =>
    obtain ⟨rfl, hop⟩ := List.append_inj' hops rfl
    exact .inr ⟨k, hkey, by simpa using hop, hget⟩
  | append_singleton rest last =>
    rw [← List.cons_append, ← List.append_assoc] at hops
    obtain ⟨rfl, -⟩ := List.append_inj' hops rfl
    exact .inl ⟨k, hkey, before, rest, rfl, hget⟩

/-- An open instance of a key is the one that is shared under it, or a caller has reopened it. -/
theorem shared_or_reopened (h : Backend.Disconnects C E) {key : String} {id : InstanceId}
    (hgave : GaveFor settings backends w ops key id)
    (hopen : (reached settings backends w ops).1.isOpen id = true) :
    (reached settings backends w ops).1.shared.get? key = some id ∨
      Reopened settings backends w ops key id := by
  induction ops using List.reverseRecOn with
  | nil =>
    obtain ⟨k, -, before, rest, hops, -⟩ := hgave
    simp at hops
  | append_singleton ops op ih =>
    have haged := aged_reached h settings backends w ops
    rcases hgave.of_concat with hbefore | ⟨k, hkey, rfl, hget⟩
    · have hlt : id < (reached settings backends w ops).1.nextId := by
        obtain ⟨k, -, hgot⟩ := hbefore
        exact hgot.lt_nextId h
      by_cases hshared : (reached settings backends w ops).1.shared.get? key = some id
      · rw [reached_concat] at hopen ⊢
        exact .inl (shared_of_isOpen_perform h haged.sound hshared hopen)
      · -- the registry has forgotten the instance, so only a use opens it
        right
        cases hwas : (reached settings backends w ops).1.isOpen id with
        | true => exact ((ih hbefore hwas).resolve_left hshared).concat op
        | false =>
          have huse : ∃ o, op = .use id o := by
            by_contra hnot
            have hop := fun o ho => hnot ⟨o, ho⟩
            rw [reached_concat] at hopen
            cases hwas.symm.trans (isOpen_perform h haged.sound hlt hop hopen)
          obtain ⟨o, rfl⟩ := huse
          exact ⟨ops, o, [], rfl, hbefore, hshared, hwas, hopen⟩
    · -- the instance was given out just now
      left
      obtain ⟨s', hrun⟩ := Action.exists_run_eq hget
      have hgot := got_of_run_get h hrun
      have hsettings : (reached settings backends w ops).1.settings = settings := haged.settings
      rw [reached_concat, perform_get, hrun, hgot.get?_shared (by rw [hsettings, hkey]), if_pos rfl]

/-- **One open instance of a key.** At any time, an instance that was ever given out for a key and
is open is the one that is shared under the key, or a caller has reopened it after the registry had
forgotten it. So among the instances of a key that were not reopened in this way at most one is
open. -/
theorem at_most_one_open (h : Backend.Disconnects C E) (settings : Settings)
    (backends : BackendTable C) (w : World E) (ops : List Operation) (key : String) :
    (∀ id, GaveFor settings backends w ops key id →
      (reached settings backends w ops).1.isOpen id = true →
      (reached settings backends w ops).1.shared.get? key = some id ∨
        Reopened settings backends w ops key id) ∧
    ∀ id id', GaveFor settings backends w ops key id → GaveFor settings backends w ops key id' →
      (reached settings backends w ops).1.isOpen id = true →
      (reached settings backends w ops).1.isOpen id' = true →
      ¬Reopened settings backends w ops key id → ¬Reopened settings backends w ops key id' →
      id = id' := by
  refine ⟨fun id => shared_or_reopened h, ?_⟩
  intro id id' hgave hgave' hopen hopen' hnot hnot'
  have hshared := (shared_or_reopened h hgave hopen).resolve_right hnot
  have hshared' := (shared_or_reopened h hgave' hopen').resolve_right hnot'
  exact Option.some.inj (hshared.symm.trans hshared')

theorem at_most_one_open_scripted :
    let settings : Settings := .single "main" (.ofKind "mock")
    let w : World Script := ⟨.empty, default⟩
    let ops : List Operation := [.get "main" none, .close "main", .get "" none]
    GaveFor settings Scripted.backends w ops "main" 1 ∧
      (reached settings Scripted.backends w ops).1.isOpen 1 = true ∧
      ((reached settings Scripted.backends w ops).1.shared.get? "main" = some 1 ∨
        Reopened settings Scripted.backends w ops "main" 1) := by
  intro settings w ops
  have hgave : GaveFor settings Scripted.backends w ops "main" 1 :=
    ⟨"", by decide +kernel, [.get "main" none, .close "main"], [], rfl, by decide +kernel⟩
  have hopen : (reached settings Scripted.backends w ops).1.isOpen 1 = true := by decide +kernel
  exact ⟨hgave, hopen,
    (at_most_one_open Scripted.disconnects settings Scripted.backends w ops "main").1 1 hgave hopen⟩

/-- A caller that goes on using what the registry has closed has a second connection opened. -/
theorem two_instances_open :
    let settings : Settings := .single "main" (.ofKind "mock")
    let w : World Script := ⟨.empty, default⟩
    let ops : List Operation := [.get "main" none, .close "main", .get "main" none,
      .use 0 (.session (.query "SELECT 1" []))]
    GaveFor settings Scripted.backends w ops "main" 0 ∧
      GaveFor settings Scripted.backends w ops "main" 1 ∧
      (reached settings Scripted.backends w ops).1.isOpen 0 = true ∧
      (reached settings Scripted.backends w ops).1.isOpen 1 = true := by
  intro settings w ops
  have hmain : resolve settings "main" = .ok "main" := by decide +kernel
  refine ⟨⟨"main", hmain, [], ops.tail, rfl, ?_⟩,
    ⟨"main", hmain, ops.take 2, ops.drop 3, rfl, ?_⟩, ?_, ?_⟩
  all_goals decide +kernel

end SqlGateway.Registry
