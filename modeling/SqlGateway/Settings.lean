import SqlGateway.Config
import SqlGateway.Disk
import SqlGateway.Json.Reader
import SqlGateway.OrderedMap

/-!
# Settings documents

A document names connections and gives the settings of each. It is read from JSON or YAML text, or
from a file whose extension tells which of the two it holds.
-/

namespace SqlGateway

structure Settings where
  /-- The connection that is meant when none is named. -/
  activeGroup : Option String
  /-- Whether connections that do not say so have a query builder. -/
  builder : Bool
  connections : OrderedMap ConnectionConfig

namespace Settings

def empty : Settings :=
  ⟨none, true, .empty⟩

/-- The settings of a connection, if there are any. -/
def connection? (s : Settings) (key : String) : Option ConnectionConfig :=
  (s.connections.get? key).map fun c =>
    { c with builder := some (c.builder.getD s.builder) }

/-! ## Reading -/

def fieldNames : List String :=
  ["active_group", "active_record", "connections"]

section
variable {T : Type} [DataTree T]

/-- The connections of a map; of a repeated name the last one counts. -/
def connections? (tree : T) : Option (OrderedMap ConnectionConfig) := do
  let entries ← (← DataTree.entries? tree).mapM fun (key, tree) =>
    (ConnectionConfig.read? tree).map (key, ·)
  return .ofList entries

def read? (tree : T) : Option Settings := do
  let fields ← DataTree.record? fieldNames tree
  return {
    activeGroup := ← DataTree.fieldOr fields "active_group" (DataTree.optional? DataTree.text?) none
    builder := ← DataTree.fieldOr fields "active_record" DataTree.flag? true
    connections := ← DataTree.fieldOr fields "connections" connections? .empty }

end

/-- The text is no settings document of the format. -/
def malformed (format : String) : DbError :=
  .configuration ("Invalid " ++ format ++ " settings: the text does not describe connections")

def ofJson (text : String) : Except DbError Settings :=
  match (Json.parse? text.toList).bind read? with
  | some s => .ok s
  | none => .error (malformed "JSON")

/-- The aliases that are followed while the settings in a YAML document are read. -/
def aliasesFollowed (v : Yaml.View) : Nat :=
  let connections := (v.entries?.bind (·.lookup "connections")).map fun map =>
    (map.entries?.getD []).foldl
      (fun n (_, config) => n + config.aliasesAt ConnectionConfig.fieldNames.contains)
      (map.aliasesAt fun _ => true)
  v.aliasesAt fieldNames.contains + connections.getD 0

/-- The settings in a YAML document, in which a small text must not stand for a huge tree: reading
follows at most a hundred aliases for each unit of the document's size. -/
def ofDocument? (d : Yaml.Document) : Option Settings :=
  let root := d.root.getD .nothing
  let view : Yaml.View := ⟨root, d.anchored⟩
  if aliasesFollowed view ≤ 100 * root.size then read? view else none

/-- A text without any document describes no connections. -/
def ofYaml (text : String) : Except DbError Settings :=
  match (Yaml.Document.parse? text).bind ofDocument? with
  | some s => .ok s
  | none => .error (malformed "YAML")

/-- The settings in a file. -/
def ofFile (disk : Disk) (path : String) : Except DbError Settings :=
  match disk.read? path with
  | none => .error (.configuration ("Unable to read " ++ path ++ ": there is no such file"))
  | some text =>
    match Path.extension? path with
    | some "json" => ofJson text
    | some "yaml" => ofYaml text
    | some "yml" => ofYaml text
    | other =>
      .error (.configuration ("Unsupported settings format: " ++ other.getD "<none>"))

end Settings

end SqlGateway
