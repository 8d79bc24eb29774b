import Freebox.Resource.Layout

/-!
# `Freebox.Resource.Operation` — operations on the resources of a box

An operation is a request under the base address and a reading of its result. It says nothing about sessions or the
network. Its paths, names and other texts are strings, without halves of surrogate pairs.

## Contents
- `Reading`, `Answer`: how results are read, and what they are read as.
- `Operation`.
- `pathArray`: a list of paths on the wire.
-/

namespace Freebox

/-- How the result of an operation is read. -/
inductive Reading where
  /-- The result does not matter. -/
  | nothing
  | record (l : Layout)
  /-- A null result is an object without members. -/
  | recordOrEmpty (l : Layout)
  | records (l : Layout)
  | text
  | path
  /-- The number of the task that was started. -/
  | task

/-- What a result is read as. -/
inductive Answer where
  | nothing
  | record (r : Record)
  | records (rs : List Record)
  | value (v : Json)
  deriving DecidableEq, Repr

namespace Answer

/-- The value of an answer: records without their nulls. -/
def toJson : Answer → Json
  | nothing => .null
  | record r => r.toJson
  | records rs => .arr (rs.map Record.toJson)
  | value v => v

end Answer

namespace Reading

/-- The number of a task: the integer `id` of an object. -/
def taskId : Json → Except DecodingError Json
  | .obj ms => (Members.get ms "id").expect .int
  | v => .error (.taskKind v.kind)

/-- The path of a text. -/
def pathText (v : Json) : Except DecodingError Json :=
  match v.expect .str with
  | .error e => .error e
  | .ok s =>
    match Path.decodeValue s with
    | .error e => .error e
    | .ok decoded => .ok (.str (decoded.getD ""))

/-- Reads a result. -/
def read (reading : Reading) (result : Json) : Except Failure Answer :=
  match reading with
  | nothing => .ok .nothing
  | record l => (l.decode result).map .record
  | recordOrEmpty l => (if result = .null then l.ofMembers [] else l.decode result).map .record
  | records l => (l.decodeList result).map .records
  | text => ((result.expect .str).mapError Failure.ofDecoding).map .value
  | path => ((pathText result).mapError Failure.ofDecoding).map .value
  | task => ((taskId result).mapError Failure.ofDecoding).map .value

end Reading

/-- A request under the base address and the reading of its result. -/
structure Operation where
  method : String
  path : Text
  payload : Json := .null
  form : Option Members := none
  reading : Reading

namespace Resource

/-- Paths on the wire. All of them are strings, see `Path.encode`. -/
def pathArray (paths : List String) : Json := .arr (paths.map (fun p => .str (Path.encode p)))

/-- The members of a draft that are set. -/
def drafted (ms : Members) : Json := .obj ms.withoutNulls

/-- A truth value that may be unset. -/
def ofFlag? : Option Bool → Json
  | some b => .bool b
  | none => .null

/-- A path that may be unset, on the wire. It is a string, see `Path.encode`. -/
def ofPath? : Option String → Json
  | some p => .str (Path.encode p)
  | none => .null

end Resource

end Freebox
