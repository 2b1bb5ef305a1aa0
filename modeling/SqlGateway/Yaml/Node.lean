import SqlGateway.Yaml.Token

/-!
# YAML documents

The tree of a YAML document. An alias is a leaf that holds the number of an anchored node; the
anchored nodes stand in a table beside the tree, so that an alias may also name a node around it.

Main definition: `Document.ofTokens?`, the only document of a token list, which is empty when the
list holds no document at all.
-/

namespace SqlGateway.Yaml

inductive Node where
  | scalar (text : String) (style : Style) (tag : Option String)
  | sequence (items : List Node)
  | mapping (pairs : List (Node × Node))
  | aliasOf (number : Nat)
  deriving Repr, Inhabited

namespace Node

/-- The scalar that stands where nothing is written. -/
def nothing : Node :=
  .scalar "" .plain none

def isAlias : Node → Bool
  | .aliasOf _ => true
  | _ => false

mutual

/-- The number of leaves, counting the two ends of every sequence and mapping as well. -/
def size : Node → Nat
  | .scalar .. => 1
  | .aliasOf _ => 1
  | .sequence items => 2 + itemsSize items
  | .mapping pairs => 2 + pairsSize pairs

def itemsSize : List Node → Nat
  | [] => 0
  | item :: items => size item + itemsSize items

def pairsSize : List (Node × Node) → Nat
  | [] => 0
  | (key, value) :: pairs => size key + size value + pairsSize pairs

end

end Node

/-- A tree with the nodes that have an anchor, by number. Of two nodes with one number the first
entry counts, which belongs to the node that begins later. -/
structure Document where
  root : Option Node
  anchored : List (Nat × Node)
  deriving Repr, Inhabited

/-- The state of a reading: the tokens that are left, the number behind each anchor name, each name
once, the finished anchored nodes and the meaning of tag handles. -/
structure Reading where
  tokens : List Token
  names : List (String × Nat)
  anchored : List (Nat × Node)
  handles : List (String × String)

abbrev ReadM := StateT Reading Option

namespace ReadM

def fail {α : Type} : ReadM α :=
  fun _ => none

def peek? : ReadM (Option Token) :=
  fun r => some (r.tokens.head?, r)

def drop : ReadM Unit :=
  fun r => some ((), { r with tokens := r.tokens.tail })

/-- The next token is one of those given; the end of the text stands for none of them. -/
def nextIn (tokens : List Token) : ReadM Bool := do
  match ← peek? with
  | some t => return tokens.contains t
  | none => return false

/-- Takes the next token if it is the one given. -/
def take (t : Token) : ReadM Bool := do
  if ← nextIn [t] then
    drop
    return true
  else return false

/-- Gives an anchor name the number of names known before. A name that is used again takes a number
too, which a later name may share. -/
def nameAnchor (name : String) : ReadM Nat :=
  fun r => some (r.names.length,
    { r with names := (name, r.names.length) :: r.names.filter fun n => n.1 ≠ name })

/-- Reads an anchored node. The anchored nodes inside it begin later and stand before it. -/
def withAnchor (number : Nat) (read : ReadM Node) : ReadM Node :=
  fun r => do
    let (node, after) ← read { r with anchored := [] }
    return (node, { after with anchored := after.anchored ++ (number, node) :: r.anchored })

def numberOf (name : String) : ReadM Nat :=
  fun r => (r.names.lookup name).map (·, r)

/-- The full tag of a handle and a suffix. -/
def resolveTag (handle suffix : String) : ReadM String :=
  fun r => if handle = "" then some (suffix, r)
    else (r.handles.lookup handle).map fun lead => (lead ++ suffix, r)

/-- The anchor and the tag in front of a node, in either order, each at most once. -/
def properties : ReadM (Option String × Option String) := do
  let anchor : ReadM (Option String) := do
    match ← peek? with
    | some (.anchor name) => drop; return some name
    | _ => return none
  let tag : ReadM (Option String) := do
    match ← peek? with
    | some (.tag handle suffix) => drop; return some (← resolveTag handle suffix)
    | _ => return none
  match ← anchor with
  | some name => return (some name, ← tag)
  | none =>
    match ← tag with
    | some t => return (← anchor, some t)
    | none => return (none, none)

/-- Where a node stands: inside brackets, in a block, or as a value in a block mapping, where a
sequence need not be indented. -/
inductive Context where
  | flow
  | block
  | blockValue
  deriving DecidableEq

mutual

/-- A node. `fuel` bounds the depth of calls; every call for a node follows a token of its own, so
four for each token suffice. -/
def node (fuel : Nat) (context : Context) : ReadM Node :=
  match fuel with
  | 0 => fail
  | fuel + 1 => do
    match ← peek? with
    | some (.aliasOf name) =>
      drop
      return .aliasOf (← numberOf name)
    | _ =>
      let (anchor, tag) ← properties
      -- the name is known inside the node as well
      match ← anchor.mapM nameAnchor with
      | some number => withAnchor number (body fuel context tag true)
      | none => body fuel context tag tag.isSome

/-- A node behind its properties; `marked` says that it has some. -/
def body (fuel : Nat) (context : Context) (tag : Option String) (marked : Bool) : ReadM Node :=
  match fuel with
  | 0 => fail
  | fuel + 1 => do
    match ← peek? with
    | some (.scalar text style) =>
      drop
      return .scalar text style tag
    | some .flowSequence =>
      drop
      return .sequence (← flowItems fuel true)
    | some .flowMapping =>
      drop
      return .mapping (← flowPairs fuel true)
    | some .blockSequence =>
      if context = .flow then fail
      else
        drop
        return .sequence (← blockItems fuel true)
    | some .blockMapping =>
      if context = .flow then fail
      else
        drop
        return .mapping (← blockPairs fuel)
    | some .blockEntry =>
      if context = .blockValue then return .sequence (← blockItems fuel false)
      else if marked then return .scalar "" .plain tag
      else fail
    | _ => if marked then return .scalar "" .plain tag else fail

/-- A node, or nothing when one of the given tokens follows. -/
def nodeUnless (fuel : Nat) (context : Context) (ends : List Token) : ReadM Node :=
  match fuel with
  | 0 => fail
  | fuel + 1 => do
    if ← nextIn ends then return .nothing else node fuel context

/-- The entries of a block sequence; one that is not indented ends with its last entry. -/
def blockItems (fuel : Nat) (indented : Bool) : ReadM (List Node) :=
  match fuel with
  | 0 => fail
  | fuel + 1 => do
    if ← take .blockEntry then
      let ends := if indented then [.blockEntry, .blockEnd]
        else [.blockEntry, .key, .value, .blockEnd]
      let item ← nodeUnless fuel .block ends
      return item :: (← blockItems fuel indented)
    else if indented then
      if ← take .blockEnd then return [] else fail
    else return []

def blockPairs (fuel : Nat) : ReadM (List (Node × Node)) :=
  match fuel with
  | 0 => fail
  | fuel + 1 => do
    let ends := [Token.key, .value, .blockEnd]
    if ← take .blockEnd then return []
    else
      if !(← take .key) then fail
      let key ← nodeUnless fuel .blockValue ends
      let value ← if ← take .value then nodeUnless fuel .blockValue ends else pure .nothing
      return (key, value) :: (← blockPairs fuel)

def flowItems (fuel : Nat) (first : Bool) : ReadM (List Node) :=
  match fuel with
  | 0 => fail
  | fuel + 1 => do
    if ← take .flowSequenceEnd then return []
    else
      if !first then
        if !(← take .flowEntry) then fail
      if ← take .flowSequenceEnd then return []
      else
        -- a pair without braces is a mapping with one entry
        let item ← if ← take .key then do
            -- the word that stands where the key is missing counts as the key
            let key ← if ← nextIn [.value, .flowEntry, .flowSequenceEnd] then do
                drop
                pure .nothing
              else node fuel .flow
            let value ← if ← take .value then
                nodeUnless fuel .flow [.flowEntry, .flowSequenceEnd]
              else pure .nothing
            pure (.mapping [(key, value)])
          else node fuel .flow
        return item :: (← flowItems fuel false)

def flowPairs (fuel : Nat) (first : Bool) : ReadM (List (Node × Node)) :=
  match fuel with
  | 0 => fail
  | fuel + 1 => do
    if ← take .flowMappingEnd then return []
    else
      if !first then
        if !(← take .flowEntry) then fail
      if ← take .flowMappingEnd then return []
      else
        let pair ← if ← take .key then do
            let key ← nodeUnless fuel .flow [.value, .flowEntry, .flowMappingEnd]
            let value ← if ← take .value then
                nodeUnless fuel .flow [.flowEntry, .flowMappingEnd]
              else pure .nothing
            pure (key, value)
          else do
            let key ← node fuel .flow
            pure (key, .nothing)
        return pair :: (← flowPairs fuel false)

end

/-- The directives in front of a document. A version is given once, a handle too. -/
def directives : Nat → Bool → ReadM Bool
  | 0, seen => pure seen
  | fuel + 1, seen => do
    match ← peek? with
    | some (.version major minor) =>
      drop
      if seen ∨ major ≠ 1 ∨ (minor ≠ 1 ∧ minor ≠ 2) then fail else directives fuel true
    | some (.tagDirective handle lead) =>
      drop
      fun r =>
        if (r.handles.lookup handle).isSome then none
        else directives fuel seen { r with handles := (handle, lead) :: r.handles }
    | _ => return seen

/-- The handles that every document knows, unless it says otherwise. -/
def standardHandles : List (String × String) :=
  [("!", "!"), ("!!", "tag:yaml.org,2002:")]

/-- The only document of a text, with its start and end marks. -/
def document : ReadM (Option Node) := do
  let size := (← get).tokens.length
  let fuel := 4 * size + 4
  match ← peek? with
  | none => return none
  | some first =>
    let explicit := match first with
      | .version .. => true
      | .tagDirective .. => true
      | .documentStart => true
      | _ => false
    let root ← if explicit then do
        let _ ← directives (size + 1) false
        modify fun r => { r with handles := r.handles ++ standardHandles }
        if !(← take .documentStart) then fail
        match ← peek? with
        | none => pure .nothing
        | some (.version ..) => pure .nothing
        | some (.tagDirective ..) => pure .nothing
        | some .documentStart => pure .nothing
        | some .documentEnd => pure .nothing
        | _ => node fuel .block
      else do
        modify fun r => { r with handles := standardHandles }
        node fuel .block
    modify fun r => { r with tokens := r.tokens.dropWhile (· == .documentEnd) }
    if (← peek?).isSome then fail else return some root

end ReadM

def Document.ofTokens? (tokens : List Token) : Option Document := do
  let (root, r) ← ReadM.document ⟨tokens, [], [], []⟩
  return ⟨root, r.anchored⟩

def Document.parse? (text : String) : Option Document := do
  Document.ofTokens? (← tokens? text.toList)

end SqlGateway.Yaml
