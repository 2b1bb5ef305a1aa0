import Mathlib.Data.List.Induction
import SqlGateway.OrderedMap

/-!
# Putting in and laying over

Lists that are laid over each other without repetitions, and maps into which many pairs are put.
Both are done at once: what is there already is not put in again.

Main definitions:

* `OrderedMap.insertAll`: a map with pairs put in, in their order.

Main results:

* `OrderedMap.ext_get?`: keys in their order and values make up a map.
* `OrderedMap.keys_insertAll`, `OrderedMap.get?_insertAll`, `OrderedMap.get?_overlay`: what pairs do
  to a map.
* `OrderedMap.get?_erase`, `OrderedMap.get?_eq_some_iff`: taking a key out, and what a map holds.
* `eraseDups_append_eq_right_iff`, `OrderedMap.overlay_eq_upper_iff`: what hides all that is below.
* `eraseDups_append_eraseDups`, `OrderedMap.insertAll_insertAll`, `OrderedMap.overlay_overlay`:
  doing it again changes nothing.
-/

namespace SqlGateway

/-! ## Lists without repetitions -/

section
variable {α : Type} [BEq α] [LawfulBEq α]

/-- An element at the end goes if it has occurred. -/
theorem eraseDups_concat (xs : List α) (x : α) [Decidable (x ∈ xs)] :
    (xs ++ [x]).eraseDups = if x ∈ xs then xs.eraseDups else xs.eraseDups ++ [x] := by
  rw [List.eraseDups_append, List.cons_removeAll, List.nil_removeAll]
  by_cases h : x ∈ xs
  · rw [if_pos h, if_neg (by simpa using h)]
    exact List.append_nil _
  · rw [if_neg h, if_pos (by simpa using h)]
    rfl

theorem eraseDups_append_of_subset {xs ys : List α} (h : ∀ y ∈ ys, y ∈ xs) :
    (xs ++ ys).eraseDups = xs.eraseDups := by
  classical
  induction ys using List.reverseRecOn with
  | nil => rw [List.append_nil]
  | append_singleton ys y ih =>
    have hy : y ∈ xs ++ ys := List.mem_append_left ys (h y (by simp))
    rw [← List.append_assoc, eraseDups_concat, if_pos hy]
    exact ih fun z hz => h z (List.mem_append_left _ hz)

theorem eraseDups_eq_self_of_nodup {xs : List α} (h : xs.Nodup) : xs.eraseDups = xs := by
  classical
  induction xs using List.reverseRecOn with
  | nil => rfl
  | append_singleton xs x ih =>
    obtain ⟨hxs, -, hdisjoint⟩ := List.nodup_append.1 h
    have hx : x ∉ xs := fun hmem => hdisjoint x hmem x (List.mem_singleton_self x) rfl
    rw [eraseDups_concat, if_neg hx, ih hxs]

/-- A list that is laid over another one twice is laid over it once. -/
theorem eraseDups_append_eraseDups (lower upper : List α) :
    (lower ++ (lower ++ upper).eraseDups).eraseDups = (lower ++ upper).eraseDups := by
  classical
  induction upper using List.reverseRecOn with
  | nil =>
    rw [List.append_nil]
    exact eraseDups_append_of_subset fun y hy => List.mem_eraseDups.1 hy
  | append_singleton upper x ih =>
    rw [← List.append_assoc, eraseDups_concat]
    by_cases hx : x ∈ lower ++ upper
    · rw [if_pos hx, ih]
    · have hnew : x ∉ lower ++ (lower ++ upper).eraseDups := by
        rw [List.mem_append, List.mem_eraseDups]
        rintro (hlower | hfound)
        · exact hx (List.mem_append_left _ hlower)
        · exact hx hfound
      rw [if_neg hx, ← List.append_assoc, eraseDups_concat, if_neg hnew, ih]

theorem nodup_eraseDups (xs : List α) : xs.eraseDups.Nodup := by
  classical
  induction xs using List.reverseRecOn with
  | nil => exact List.nodup_nil
  | append_singleton xs x ih =>
    rw [eraseDups_concat]
    split
    · exact ih
    · next hx =>
      refine List.nodup_append.2 ⟨ih, by simp, fun y hy z hz heq => hx ?_⟩
      rw [← List.mem_singleton.1 hz, ← heq]
      exact List.mem_eraseDups.1 hy

/-- What is laid over a list stays as it is exactly if it has no repetitions and begins with the
list. -/
theorem eraseDups_append_eq_right_iff {lower upper : List α} :
    (lower ++ upper).eraseDups = upper ↔ upper.Nodup ∧ lower.eraseDups <+: upper := by
  constructor
  · intro h
    have hnodup := nodup_eraseDups (lower ++ upper)
    have hprefix : lower.eraseDups <+: (lower ++ upper).eraseDups := by
      rw [List.eraseDups_append]
      exact List.prefix_append _ _
    rw [h] at hnodup hprefix
    exact ⟨hnodup, hprefix⟩
  · rintro ⟨hnodup, rest, rfl⟩
    obtain ⟨-, hrest, hdisjoint⟩ := List.nodup_append.1 hnodup
    have hnew : rest.removeAll lower = rest := by
      refine List.filter_eq_self.2 fun x hx => ?_
      have hlower : x ∉ lower := fun hmem => hdisjoint x (List.mem_eraseDups.2 hmem) x hx rfl
      simpa using hlower
    have hlaid : (lower ++ rest).eraseDups = lower.eraseDups ++ rest := by
      rw [List.eraseDups_append, hnew, eraseDups_eq_self_of_nodup hrest]
    rw [← hlaid, eraseDups_append_eraseDups]

end

/-! ## Maps -/

/-- What is taken out is not found any more, and everything else is. -/
theorem lookup_filter_ne {κ α : Type} [DecidableEq κ] [BEq κ] [LawfulBEq κ]
    (entries : List (κ × α)) (t u : κ) :
    (entries.filter fun x => x.1 ≠ t).lookup u = if u = t then none else entries.lookup u := by
  induction entries with
  | nil => simp
  | cons x entries ih =>
    by_cases hx : x.1 = t
    · rw [List.filter_cons_of_neg (by simp [hx]), ih, lookup_cons_eq_ite]
      by_cases hu : u = t <;> simp [hu, hx]
    · rw [List.filter_cons_of_pos (by simp [hx]), lookup_cons_eq_ite, lookup_cons_eq_ite, ih]
      by_cases hu : u = x.1 <;> simp [hu, hx]

theorem lookup_eq_none_iff_keysOf {α : Type} {k : String} {entries : List (String × α)} :
    entries.lookup k = none ↔ k ∉ keysOf entries := by
  rw [List.lookup_eq_none_iff]
  constructor
  · intro h hk
    obtain ⟨p, hp, rfl⟩ := List.mem_map.1 hk
    have := h p hp
    simp at this
  · intro h p hp
    have hne : k ≠ p.1 := fun heq => h (List.mem_map.2 ⟨p, hp, heq.symm⟩)
    simpa using hne

/-- Where no key occurs twice, what is looked up is what is there. -/
theorem lookup_eq_some_iff_mem {α : Type} {k : String} {value : α} {entries : List (String × α)}
    (hnodup : (keysOf entries).Nodup) :
    entries.lookup k = some value ↔ (k, value) ∈ entries := by
  induction entries with
  | nil => simp
  | cons e rest ih =>
    obtain ⟨hfresh, hnodup⟩ := List.nodup_cons.1 hnodup
    rw [lookup_cons_eq_ite, List.mem_cons]
    by_cases hk : k = e.1
    · -- the key of the first pair does not occur again
      have hrest : (k, value) ∉ rest := fun hmem => hfresh (hk ▸ List.mem_map_of_mem hmem)
      simp [hk, Prod.ext_iff, eq_comm, hk ▸ hrest]
    · simp [hk, Prod.ext_iff, ih hnodup]

/-- Pairs with different keys are known by their keys in order and by what is looked up. -/
theorem eq_of_lookup_eq {α : Type} {entries entries' : List (String × α)}
    (hnodup : (keysOf entries).Nodup) (hkeys : keysOf entries = keysOf entries')
    (hlookup : ∀ k, entries.lookup k = entries'.lookup k) : entries = entries' := by
  induction entries generalizing entries' with
  | nil => exact (List.map_eq_nil_iff.1 hkeys.symm).symm
  | cons e rest ih =>
    cases entries' with
    | nil => cases hkeys
    | cons e' rest' =>
      obtain ⟨hkey, hrest⟩ := List.cons.inj hkeys
      obtain ⟨hfresh, hnodup⟩ := List.nodup_cons.1 hnodup
      have hvalue : e.2 = e'.2 := by
        have := hlookup e.1
        rw [lookup_cons_eq_ite, lookup_cons_eq_ite, if_pos rfl, if_pos hkey] at this
        exact Option.some.inj this
      have htail : rest = rest' := by
        refine ih hnodup hrest fun k => ?_
        by_cases hk : k = e.1
        · -- the key of the first pair does not occur again
          have hfresh' : e.1 ∉ keysOf rest' := by
            rw [← show keysOf rest = keysOf rest' from hrest]
            exact hfresh
          rw [hk, lookup_eq_none_iff_keysOf.2 hfresh, lookup_eq_none_iff_keysOf.2 hfresh']
        · have := hlookup k
          rwa [lookup_cons_eq_ite, lookup_cons_eq_ite, if_neg hk, if_neg (hkey ▸ hk)] at this
      rw [Prod.ext hkey hvalue, htail]

namespace OrderedMap

variable {α : Type}

theorem ext_get? {m m' : OrderedMap α} (hkeys : m.keys = m'.keys)
    (hget : ∀ k, m.get? k = m'.get? k) : m = m' := by
  have hentries := eq_of_lookup_eq m.nodup hkeys hget
  cases m
  cases m'
  congr

@[simp]
theorem get?_erase (m : OrderedMap α) (key k : String) :
    (m.erase key).get? k = if k = key then none else m.get? k :=
  lookup_filter_ne m.entries key k

theorem get?_eq_some_iff {m : OrderedMap α} {k : String} {value : α} :
    m.get? k = some value ↔ (k, value) ∈ m.entries :=
  lookup_eq_some_iff_mem m.nodup

theorem mem_values_iff {m : OrderedMap α} {value : α} :
    value ∈ m.values ↔ ∃ k, m.get? k = some value := by
  simp [values, get?_eq_some_iff]

theorem mem_keys_iff {m : OrderedMap α} {k : String} :
    k ∈ m.keys ↔ ∃ value, m.get? k = some value := by
  simp [keys, get?_eq_some_iff]

/-- The map with pairs put in, in their order. -/
def insertAll (m : OrderedMap α) (pairs : List (String × α)) : OrderedMap α :=
  pairs.foldl (fun m (key, value) => m.insert key value) m

theorem insertAll_concat (m : OrderedMap α) (pairs : List (String × α)) (p : String × α) :
    m.insertAll (pairs ++ [p]) = (m.insertAll pairs).insert p.1 p.2 := by
  rw [insertAll, List.foldl_append]
  rfl

/-- New keys go to the end in their order. -/
theorem keys_insertAll (m : OrderedMap α) (pairs : List (String × α)) :
    (m.insertAll pairs).keys = (m.keys ++ keysOf pairs).eraseDups := by
  induction pairs using List.reverseRecOn with
  | nil =>
    rw [show keysOf ([] : List (String × α)) = [] from rfl, List.append_nil]
    exact (eraseDups_eq_self_of_nodup m.nodup).symm
  | append_singleton pairs p ih =>
    rw [insertAll_concat, keys_insert, ih, show keysOf (pairs ++ [p]) = keysOf pairs ++ [p.1] from
      List.map_append, ← List.append_assoc, eraseDups_concat]
    simp only [List.mem_eraseDups]

/-- The last value that is put in under a key is found. -/
theorem get?_insertAll (m : OrderedMap α) (pairs : List (String × α)) (k : String) :
    (m.insertAll pairs).get? k = (pairs.reverse.lookup k <|> m.get? k) := by
  induction pairs using List.reverseRecOn with
  | nil => rfl
  | append_singleton pairs p ih =>
    rw [insertAll_concat, get?_insert, ih, List.reverse_concat, lookup_cons_eq_ite]
    split <;> rfl

/-- Putting the same pairs in again changes nothing. -/
theorem insertAll_insertAll (m : OrderedMap α) (pairs : List (String × α)) :
    (m.insertAll pairs).insertAll pairs = m.insertAll pairs := by
  refine ext_get? ?_ fun k => ?_
  · have hmem : ∀ k ∈ keysOf pairs, k ∈ (m.insertAll pairs).keys := by
      intro k hk
      rw [keys_insertAll, List.mem_eraseDups]
      exact List.mem_append_right _ hk
    rw [keys_insertAll (m.insertAll pairs), eraseDups_append_of_subset hmem]
    exact eraseDups_eq_self_of_nodup (m.insertAll pairs).nodup
  · rw [get?_insertAll, get?_insertAll]
    cases pairs.reverse.lookup k <;> rfl

/-- What the upper map has hides what the lower one has. -/
theorem get?_overlay (lower upper : OrderedMap α) (k : String) :
    (lower.overlay upper).get? k = (upper.get? k <|> lower.get? k) := by
  have hpairs (pairs : List (String × α)) (hnodup : (keysOf pairs).Nodup) (m : OrderedMap α) :
      (m.insertAll pairs).get? k = (pairs.lookup k <|> m.get? k) := by
    induction pairs generalizing m with
    | nil => rfl
    | cons p pairs ih =>
      obtain ⟨hfresh, hnodup⟩ := List.nodup_cons.1 hnodup
      show ((m.insert p.1 p.2).insertAll pairs).get? k = _
      rw [ih hnodup, get?_insert, lookup_cons_eq_ite]
      by_cases hk : k = p.1
      · rw [if_pos hk, if_pos hk, hk, lookup_eq_none_iff_keysOf.2 hfresh]
        rfl
      · rw [if_neg hk, if_neg hk]
  exact hpairs upper.entries upper.nodup lower

/-- The keys of the lower map come first, and then those that only the upper one has. -/
theorem keys_overlay (lower upper : OrderedMap α) :
    (lower.overlay upper).keys = (lower.keys ++ upper.keys).eraseDups :=
  keys_insertAll _ _

/-- A map hides all of the one below it exactly if it begins with the same keys. -/
theorem overlay_eq_upper_iff {lower upper : OrderedMap α} :
    lower.overlay upper = upper ↔ lower.keys <+: upper.keys := by
  have hkeys : (lower.overlay upper).keys = upper.keys ↔ lower.keys <+: upper.keys := by
    have hlower : lower.keys.eraseDups = lower.keys := eraseDups_eq_self_of_nodup lower.nodup
    rw [keys_overlay, eraseDups_append_eq_right_iff, hlower]
    exact and_iff_right upper.nodup
  rw [← hkeys]
  refine ⟨congrArg keys, fun h => ext_get? h fun k => ?_⟩
  rw [get?_overlay]
  cases hupper : upper.get? k with
  | some value => rfl
  | none =>
    -- a key of the lower map is one of the upper map as well
    cases hlower : lower.get? k with
    | none => rfl
    | some value =>
      have hmem := (hkeys.1 h).subset (mem_keys_iff.2 ⟨value, hlower⟩)
      obtain ⟨found, hfound⟩ := mem_keys_iff.1 hmem
      rw [hupper] at hfound
      cases hfound

/-- Laying over the same map again changes nothing. -/
theorem overlay_overlay (lower upper : OrderedMap α) :
    lower.overlay (lower.overlay upper) = lower.overlay upper := by
  refine ext_get? ?_ fun k => ?_
  · rw [keys_overlay, keys_overlay, eraseDups_append_eraseDups]
  · rw [get?_overlay, get?_overlay]
    cases upper.get? k with
    | none => cases lower.get? k <;> rfl
    | some value => rfl

end OrderedMap

end SqlGateway
