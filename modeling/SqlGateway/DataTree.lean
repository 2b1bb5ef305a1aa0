import SqlGateway.Json.Number
import SqlGateway.Yaml.Node

/-!
# Data trees

Records are read from trees of two formats, JSON and YAML. `DataTree` is what the readers need of a
tree; the formats differ in which scalars pass for text, for a truth value or for nothing.
-/

namespace SqlGateway

/-- A tree that records can be read from. Every reading is `none` on a tree of another kind. -/
class DataTree (T : Type) where
  text? : T → Option String
  flag? : T → Option Bool
  natural? : T → Option Nat
  /-- Whether an optional field with this tree counts as missing. -/
  absent? : T → Option Bool
  /-- The known fields of a record, with no field given twice. Unknown fields are left out. -/
  record? : List String → T → Option (List (String × T))
  /-- The entries of a map, repeated keys included. -/
  entries? : T → Option (List (String × T))

namespace DataTree

variable {T : Type}

/-- The known fields, `none` when one of them is repeated. -/
def knownFields? (names : List String) (fields : List (String × T)) : Option (List (String × T)) :=
  let known := fields.filter fun f => names.contains f.1
  if (known.map Prod.fst).eraseDups.length = known.length then some known else none

/-- A field, or its default when the record does not have it. -/
def fieldOr {α : Type} (fields : List (String × T)) (name : String) (read : T → Option α)
    (default : α) : Option α :=
  match fields.lookup name with
  | some tree => read tree
  | none => some default

/-- An optional field. -/
def optional? {α : Type} [DataTree T] (read : T → Option α) (tree : T) : Option (Option α) :=
  (absent? tree).bind fun absent => if absent then some none else (read tree).map some

end DataTree

/-! ## JSON -/

namespace Json

def natural? : Json → Option Nat
  | .number n =>
    match reading? n with
    | some (.whole n) => if 0 ≤ n then some n.toNat else none
    | _ => none
  | _ => none

/-- A record may be written as an array of its first fields, in their order. -/
def record? (names : List String) : Json → Option (List (String × Json))
  | .object fields => DataTree.knownFields? names fields
  | .array items => if items.length ≤ names.length then some (names.zip items) else none
  | _ => none

end Json

instance : DataTree Json where
  text?
    | .text s => some s
    | _ => none
  flag?
    | .bool b => some b
    | _ => none
  natural? := Json.natural?
  absent?
    | .null => some true
    | _ => some false
  record? := Json.record?
  entries?
    | .object fields => some fields
    | _ => none

/-! ## YAML -/

namespace Yaml

/-- A node together with the anchored nodes that its aliases may name. -/
structure View where
  node : Node
  anchored : List (Nat × Node)

namespace View

/-- The node itself, or the one that an alias names. -/
def target (v : View) : Node :=
  match v.node with
  | .aliasOf number => (v.anchored.lookup number).getD .nothing
  | node => node

def child (v : View) (node : Node) : View :=
  ⟨node, v.anchored⟩

/-- The words for nothing. -/
def isNullWord (s : String) : Bool :=
  s = "null" || s = "Null" || s = "NULL" || s = "~"

def text? (v : View) : Option String :=
  match v.target with
  | .scalar s _ _ => some s
  | _ => none

/-- A scalar whose kind its text decides: a plain one, or a literal block with the tag `tag`. -/
def word? (tag : String) (v : View) : Option String :=
  match v.target with
  | .scalar s .plain _ => some s
  | .scalar s .literal (some t) => if t = tag then some s else none
  | _ => none

def flag? (v : View) : Option Bool :=
  (v.word? "tag:yaml.org,2002:bool").bind fun s =>
    if s = "true" ∨ s = "True" ∨ s = "TRUE" then some true
    else if s = "false" ∨ s = "False" ∨ s = "FALSE" then some false
    else none

/-- The number of a text of digits in a base up to sixteen, below 2^64. -/
def digits? (base : Nat) (cs : List Char) : Option Nat :=
  if cs.isEmpty then none
  else do
    let n ← cs.foldlM (fun n c => do
      let d ← Hex.value? c
      if d < base then some (n * base + d) else none) 0
    if n < UInt64.size then some n else none

/-- A natural number: decimal without leading zeros, or with a mark for another base. -/
def number? (cs : List Char) : Option Nat :=
  let bare := match cs with
    | '+' :: cs => cs
    | cs => cs
  let based := match bare with
    | '0' :: 'x' :: cs => digits? 16 cs
    | '0' :: 'o' :: cs => digits? 8 cs
    | '0' :: 'b' :: cs => digits? 2 cs
    | _ => none
  -- a mark without digits behind it is no mark, and the zero is then a leading one
  match based, bare with
  | some n, _ => some n
  | none, '0' :: _ :: _ => none
  | none, cs => digits? 10 cs

def natural? (v : View) : Option Nat :=
  (v.word? "tag:yaml.org,2002:int").bind fun s => number? s.toList

/-- Nothing is a plain scalar that is empty or one of the words for nothing. A tag makes a scalar a
value, except for the tag of nothing, which fits those words only. -/
def absent? (v : View) : Option Bool :=
  match v.target with
  | .scalar s .plain none => some (s = "" || isNullWord s)
  | .scalar s .plain (some tag) =>
    if tag ≠ "tag:yaml.org,2002:null" then some false
    else if isNullWord s then some true
    else none
  | _ => some false

/-- The pairs of a mapping. An empty plain scalar passes for an empty mapping. -/
def pairs? (v : View) : Option (List (Node × Node)) :=
  match v.target with
  | .mapping pairs => some pairs
  | .scalar "" .plain _ => some []
  | _ => none

def entries? (v : View) : Option (List (String × View)) := do
  (← v.pairs?).mapM fun (key, value) => return (← (v.child key).text?, v.child value)

/-- The aliases that a reader of a mapping follows: all keys that are aliases, and the values that
are, of those keys that it knows. -/
def aliasesAt (known : String → Bool) (v : View) : Nat :=
  let pairs := v.pairs?.getD []
  pairs.countP (fun (key, _) => key.isAlias) +
    pairs.countP (fun (key, value) => value.isAlias && ((v.child key).text?).any known)

end View

end Yaml

instance : DataTree Yaml.View where
  text? := Yaml.View.text?
  flag? := Yaml.View.flag?
  natural? := Yaml.View.natural?
  absent? := Yaml.View.absent?
  record? names v := v.entries?.bind (DataTree.knownFields? names)
  entries? := Yaml.View.entries?

end SqlGateway
