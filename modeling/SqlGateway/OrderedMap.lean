/-!
# Ordered maps

Maps from text to values that keep the order in which keys were first put in. Each key occurs once;
putting a key in again replaces its value and leaves its place.

Main statements: `OrderedMap.get?_insert` and `OrderedMap.keys_insert` say what an insertion does to
the values and to the order of the keys.
-/

namespace SqlGateway

/-- The keys of a list of pairs, in order. -/
abbrev keysOf {α : Type} (entries : List (String × α)) : List String :=
  entries.map Prod.fst

/-- Replaces the value of a key, or puts the pair at the end. -/
def insertPair {α : Type} (key : String) (value : α) : List (String × α) → List (String × α)
  | [] => [(key, value)]
  | (k, v) :: rest => if k = key then (k, value) :: rest else (k, v) :: insertPair key value rest

theorem mem_keysOf_insertPair {α : Type} {key k : String} {value : α}
    {entries : List (String × α)} :
    k ∈ keysOf (insertPair key value entries) ↔ k = key ∨ k ∈ keysOf entries := by
  induction entries with
  | nil => simp [insertPair]
  | cons e rest ih =>
    rw [insertPair]
    split
    · rename_i h
      simp [h]
    · simp only [List.map_cons, List.mem_cons, ih]
      exact or_left_comm

theorem nodup_keysOf_insertPair {α : Type} {key : String} {value : α}
    {entries : List (String × α)} (h : (keysOf entries).Nodup) :
    (keysOf (insertPair key value entries)).Nodup := by
  induction entries with
  | nil => simp [insertPair]
  | cons e rest ih =>
    have hrest := List.nodup_cons.1 h
    rw [insertPair]
    split
    · exact h
    · rename_i hne
      refine List.nodup_cons.2 ⟨fun hmem => ?_, ih hrest.2⟩
      rcases mem_keysOf_insertPair.1 hmem with hk | hk
      · exact hne hk
      · exact hrest.1 hk

theorem lookup_cons_eq_ite {κ α : Type} [DecidableEq κ] [BEq κ] [LawfulBEq κ] (k : κ) (e : κ × α)
    (rest : List (κ × α)) :
    (e :: rest).lookup k = if k = e.1 then some e.2 else rest.lookup k := by
  rw [List.lookup_cons]
  split
  · rename_i h
    rw [if_pos (eq_of_beq h)]
  · rename_i h
    rw [if_neg (ne_of_beq_false h)]

theorem lookup_insertPair {α : Type} {key k : String} {value : α} {entries : List (String × α)} :
    (insertPair key value entries).lookup k = if k = key then some value else entries.lookup k := by
  induction entries with
  | nil => simp [insertPair, lookup_cons_eq_ite]
  | cons e rest ih =>
    rw [insertPair]
    split
    · rename_i he
      subst he
      by_cases h : k = e.1 <;> simp [lookup_cons_eq_ite, h]
    · rename_i he
      rw [lookup_cons_eq_ite, lookup_cons_eq_ite, ih]
      by_cases h : k = e.1
      · simp [h, he]
      · simp [h]

theorem keysOf_insertPair {α : Type} {key : String} {value : α} {entries : List (String × α)} :
    keysOf (insertPair key value entries) =
      if key ∈ keysOf entries then keysOf entries else keysOf entries ++ [key] := by
  induction entries with
  | nil => simp [insertPair]
  | cons e rest ih =>
    rw [insertPair]
    by_cases he : e.1 = key
    · simp [he]
    · by_cases hk : key ∈ keysOf rest
      · simp [he, hk, ih]
      · simp [he, hk, ih, Ne.symm he]

structure OrderedMap (α : Type) where
  entries : List (String × α)
  nodup : (keysOf entries).Nodup
  deriving DecidableEq, Repr

namespace OrderedMap

variable {α : Type}

def empty : OrderedMap α :=
  ⟨[], List.nodup_nil⟩

instance : Inhabited (OrderedMap α) :=
  ⟨empty⟩

def keys (m : OrderedMap α) : List String :=
  keysOf m.entries

def values (m : OrderedMap α) : List α :=
  m.entries.map Prod.snd

def size (m : OrderedMap α) : Nat :=
  m.entries.length

def isEmpty (m : OrderedMap α) : Bool :=
  m.entries.isEmpty

def get? (m : OrderedMap α) (key : String) : Option α :=
  m.entries.lookup key

def contains (m : OrderedMap α) (key : String) : Bool :=
  (m.get? key).isSome

def insert (m : OrderedMap α) (key : String) (value : α) : OrderedMap α :=
  ⟨insertPair key value m.entries, nodup_keysOf_insertPair m.nodup⟩

@[simp]
theorem get?_empty (key : String) : (empty : OrderedMap α).get? key = none := rfl

@[simp]
theorem keys_empty : (empty : OrderedMap α).keys = [] := rfl

@[simp]
theorem get?_insert (m : OrderedMap α) (key k : String) (value : α) :
    (m.insert key value).get? k = if k = key then some value else m.get? k :=
  lookup_insertPair

/-- A new key goes to the end; a known one keeps its place. -/
theorem keys_insert (m : OrderedMap α) (key : String) (value : α) :
    (m.insert key value).keys = if key ∈ m.keys then m.keys else m.keys ++ [key] :=
  keysOf_insertPair

/-- The map of a list of pairs: a repeated key has its first place and its last value. -/
def ofList (pairs : List (String × α)) : OrderedMap α :=
  pairs.foldl (fun m (key, value) => m.insert key value) empty

/-- The map with the pairs of another one put in, in their order. -/
def overlay (m live : OrderedMap α) : OrderedMap α :=
  live.entries.foldl (fun m (key, value) => m.insert key value) m

def erase (m : OrderedMap α) (key : String) : OrderedMap α :=
  ⟨m.entries.filter (fun e => e.1 ≠ key), m.nodup.sublist (List.filter_sublist.map _)⟩

end OrderedMap

end SqlGateway
