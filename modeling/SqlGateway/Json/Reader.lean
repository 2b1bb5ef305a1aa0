import SqlGateway.Json.Number
import SqlGateway.Json.Token

/-!
# Reading JSON texts

A text is read token by token. The state holds what may follow and the containers that are open;
every token either moves the state on or refuses the text, so reading is one fold over the tokens.
-/

namespace SqlGateway.Json

namespace Reader

/-- What may follow. -/
inductive Expect where
  | value
  | valueOrEnd
  | key
  | keyOrEnd
  | colon
  /-- A value has just ended. -/
  | next
  deriving DecidableEq, Repr

/-- The fields of an open object, last first, and the name of the field that is read. `whole` says
that every name so far could be read. -/
structure OpenFields where
  done : List (String × Json)
  name : String
  whole : Bool

/-- An object without fields. -/
def OpenFields.start : OpenFields :=
  ⟨[], "", true⟩

/-- Goes on to the field with a name, if the scalar is one. -/
def OpenFields.named? (f : OpenFields) : Json → Option OpenFields
  | .text name => some { f with name }
  | .garbled => some { f with whole := false }
  | _ => none

def OpenFields.add (f : OpenFields) (value : Json) : OpenFields :=
  { f with done := (f.name, value) :: f.done }

/-- The object, which cannot be read when one of its names cannot. -/
def OpenFields.close (f : OpenFields) : Json :=
  if f.whole then .object f.done.reverse else .garbled

/-- An open container with what it holds so far, last first. -/
inductive Frame where
  | items (done : List Json)
  | fields (f : OpenFields)

structure State where
  expect : Expect
  frames : List Frame
  result : Option Json

def State.start : State :=
  ⟨.value, [], none⟩

/-- Puts a finished value where it belongs. -/
def State.complete (frames : List Frame) (value : Json) : State :=
  match frames with
  | [] => ⟨.next, [], some value⟩
  | .items done :: rest => ⟨.next, .items (value :: done) :: rest, none⟩
  | .fields f :: rest => ⟨.next, .fields (f.add value) :: rest, none⟩

def State.step (s : State) : Token → Option State
  | .scalar value =>
    match s.expect, s.frames with
    | .value, frames | .valueOrEnd, frames => some (.complete frames value)
    | .key, .fields f :: rest | .keyOrEnd, .fields f :: rest =>
      (f.named? value).map fun f => ⟨.colon, .fields f :: rest, none⟩
    | _, _ => none
  | .openArray =>
    match s.expect with
    | .value | .valueOrEnd => some ⟨.valueOrEnd, .items [] :: s.frames, none⟩
    | _ => none
  | .openObject =>
    match s.expect with
    | .value | .valueOrEnd => some ⟨.keyOrEnd, .fields .start :: s.frames, none⟩
    | _ => none
  | .closeArray =>
    match s.expect, s.frames with
    | .valueOrEnd, .items done :: rest => some (.complete rest (.array done.reverse))
    | .next, .items done :: rest => some (.complete rest (.array done.reverse))
    | _, _ => none
  | .closeObject =>
    match s.expect, s.frames with
    | .keyOrEnd, .fields f :: rest => some (.complete rest f.close)
    | .next, .fields f :: rest => some (.complete rest f.close)
    | _, _ => none
  | .colon =>
    match s.expect with
    | .colon => some { s with expect := .value }
    | _ => none
  | .comma =>
    match s.expect, s.frames with
    | .next, .items _ :: _ => some { s with expect := .value }
    | .next, .fields _ :: _ => some { s with expect := .key }
    | _, _ => none

end Reader

/-- The value of a text that is JSON from end to end. -/
def parse? (cs : List Char) : Option Json := do
  let tokens ← Token.all? cs
  let state ← tokens.foldlM Reader.State.step Reader.State.start
  state.result

end SqlGateway.Json
