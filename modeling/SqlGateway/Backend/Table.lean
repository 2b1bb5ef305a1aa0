import SqlGateway.Backend.SqliteFile
import SqlGateway.OrderedMap
import SqlGateway.Text.Blank
import SqlGateway.Text.Pieces

/-!
# Tables of backends

The kinds of backends that settings can name, each with what makes a connection of it. Names of
kinds have no case.
-/

namespace SqlGateway

/-- Makes a connection that is not open yet, or tells why there is none. -/
abbrev BackendFactory (C : Type) := ConnectionConfig → Except DbError C

structure BackendTable (C : Type) where
  factories : OrderedMap (BackendFactory C)

namespace BackendTable

variable {C : Type}

def empty : BackendTable C :=
  ⟨.empty⟩

/-- Puts a kind in, in the place of one with the same name. -/
def register (t : BackendTable C) (kind : String) (factory : BackendFactory C) : BackendTable C :=
  ⟨t.factories.insert (Text.lower kind) factory⟩

/-- The table of the kinds that come with the library, whose connections `ofFile` makes. -/
def bundled (ofFile : SqliteFile → C) : BackendTable C :=
  empty.register "sqlite" fun _ => .ok (ofFile .closed)

def contains (t : BackendTable C) (kind : String) : Bool :=
  t.factories.contains (Text.lower kind)

/-- A connection of the kind that the settings name. -/
def build (t : BackendTable C) (config : ConnectionConfig) : Except DbError C :=
  match t.factories.get? (Text.lower (Text.trim config.kind)) with
  | some factory => factory config
  | none => .error (.configuration ("Unknown database backend: '" ++ config.kind ++ "'"))

end BackendTable

end SqlGateway
