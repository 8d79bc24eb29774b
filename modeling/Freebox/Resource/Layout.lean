import Freebox.Envelope
import Freebox.Path

/-!
# `Freebox.Resource.Layout` — how objects of the box become records

A layout lists the fields of a record in order. Each field names the member it is read from and says how: as it is,
with a default, as a path, as a nested record. Fields look members up by name, so other members and the order of the
members do not matter. The value of a field is not checked further; whatever the box sent is kept.

## Contents
- `Field` and its ways of reading.
- `Layout`, `Record`.
- `Layout.decode`, `Layout.decodeList`: the results of the box as records.
-/

namespace Freebox

open Json (Kind)

/-! ## Records -/

/-- The fields of a decoded object, in order. -/
structure Record where
  fields : Members
  deriving DecidableEq, Repr

namespace Record

/-- The value of a field, null if there is none. -/
def get (r : Record) (name : String) : Json := r.fields.get name

/-- All fields as an object. -/
def full (r : Record) : Json := .obj r.fields

/-- The fields that are not null as an object. -/
def toJson (r : Record) : Json := .obj r.fields.withoutNulls

end Record

/-! ## Fields -/

/-- A field: its name, the member it is read from, and how the member becomes its value. -/
structure Field where
  name : String
  key : String
  read : Option Json → Except Failure Json

/-- A layout: the name of what it describes, its fields, and the fault of a value that is no object. -/
structure Layout where
  name : String
  fields : List Field
  misfit : Kind → Fault

namespace Layout

/-- Decodes field after field; the first failure counts. -/
def decodeFields (ms : Members) : List Field → Except Failure Members
  | [] => .ok []
  | f :: fs =>
    match f.read (ms.get? f.key) with
    | .error e => .error e
    | .ok v =>
      match decodeFields ms fs with
      | .error e => .error e
      | .ok rest => .ok ((f.name, v) :: rest)

/-- The record of the members of an object. -/
def ofMembers (l : Layout) (ms : Members) : Except Failure Record :=
  match decodeFields ms l.fields with
  | .error e => .error e
  | .ok fields => .ok ⟨fields⟩

/-- The record of any value; one that is no object is a fault. -/
def ofValue (l : Layout) : Json → Except Failure Record
  | .obj ms => l.ofMembers ms
  | v => .error (.fault (l.misfit v.kind))

/-- The fault of a value whose members are taken one by one. -/
def misfitMember : Kind → Fault
  | .str => .textMember
  | .arr => .arrayMember
  | kind => .notSubscriptable kind

/-- The fault of a value that is asked for a member with a default. -/
def misfitLookup (kind : Kind) : Fault := .noAttribute kind "get"

/-- A layout whose first field needs its member. -/
def ofFields (name : String) (fields : List Field) : Layout := ⟨name, fields, misfitMember⟩

end Layout

namespace Field

/-- A member that is needed. -/
def required (name : String) : Field :=
  ⟨name, name, fun
    | some v => .ok v
    | none => .error (.fault (.missingMember name))⟩

/-- A member that is needed, under another name. -/
def renamed (name key : String) : Field :=
  ⟨name, key, fun
    | some v => .ok v
    | none => .error (.fault (.missingMember key))⟩

/-- A member with a default. -/
def withDefault (name : String) (default : Json) : Field := ⟨name, name, fun v => .ok (v.getD default)⟩

/-- A member that may be absent. -/
def optional (name : String) : Field := withDefault name .null

/-- A truth value that is false by default. -/
def flag (name : String) : Field := withDefault name (.bool false)

/-- A number that is nought by default. -/
def count (name : String) : Field := withDefault name (.int 0)

/-- A member that may be absent, under another name. -/
def optionalFrom (name key : String) : Field := ⟨name, key, fun v => .ok (v.getD .null)⟩

/-- Whether the member counts as true. -/
def truth (name : String) : Field := ⟨name, name, fun v => .ok (.bool (v.getD (.bool false)).isTrue)⟩

/-- A path of a value. -/
def pathOf (v : Json) : Except Failure Json :=
  match Path.decodeValue v with
  | .ok path => .ok (Json.ofString? path)
  | .error e => .error (.ofDecoding e)

/-- A path that may be absent. -/
def path (name : String) : Field := ⟨name, name, fun v => pathOf (v.getD .null)⟩

/-- The items of a member, none if it does not count as true. -/
def itemsOf (v : Option Json) : Except Failure (List Json) :=
  match ((v.getD .null).orElse (.arr [])).elements with
  | .ok vs => .ok vs
  | .error f => .error (.fault f)

/-- The items of a member, as an array. -/
def items (name : String) : Field :=
  ⟨name, name, fun v => match itemsOf v with
    | .ok vs => .ok (.arr vs)
    | .error e => .error e⟩

/-- Applies a reading to each item; the first failure counts. -/
def each (read : Json → Except Failure Json) : List Json → Except Failure (List Json)
  | [] => .ok []
  | v :: vs =>
    match read v with
    | .error e => .error e
    | .ok w =>
      match each read vs with
      | .error e => .error e
      | .ok ws => .ok (w :: ws)

/-- The paths of the items of a member, without nulls. -/
def paths (name : String) : Field :=
  ⟨name, name, fun v => match itemsOf v with
    | .error e => .error e
    | .ok vs =>
      match each pathOf vs with
      | .error e => .error e
      | .ok ps => .ok (.arr (ps.filter (· != .null)))⟩

/-- The record of a value, with all its fields. -/
def nestedOf (l : Layout) (v : Json) : Except Failure Json :=
  match l.ofValue v with
  | .ok r => .ok r.full
  | .error e => .error e

/-- A nested record, null if the member does not count as true. -/
def nested (name : String) (l : Layout) : Field :=
  ⟨name, name, fun v => if (v.getD .null).isTrue then nestedOf l (v.getD .null) else .ok .null⟩

/-- The nested records of the items of a member. -/
def nestedList (name : String) (l : Layout) : Field :=
  ⟨name, name, fun v => match itemsOf v with
    | .error e => .error e
    | .ok vs =>
      match each (nestedOf l) vs with
      | .error e => .error e
      | .ok rs => .ok (.arr rs)⟩

/-- A member that is needed and has to be a text. -/
def text (name : String) (otherwise : Kind → DecodingError) : Field :=
  ⟨name, name, fun
    | some (.str s) => .ok (.str s)
    | some v => .error (.ofDecoding (otherwise v.kind))
    | none => .error (.fault (.missingMember name))⟩

/-- A member that is needed, as an integer. -/
def integer (name : String) : Field :=
  ⟨name, name, fun
    | some v =>
      match v.toInteger with
      | .ok n => .ok (.int n)
      | .error f => .error (.fault f)
    | none => .error (.fault (.missingMember name))⟩

end Field

/-! ## Results -/

namespace Layout

/-- A misfit inside an object is a decoding error of the whole; other failures stay. -/
def wrap (l : Layout) : Failure → Failure
  | .fault f => if f.isMismatch then .ofDecoding (.mismatch l.name f) else .fault f
  | e => e

/-- The record of a result that has to be one object. -/
def decode (l : Layout) : Json → Except Failure Record
  | .obj ms => (l.ofMembers ms).mapError l.wrap
  | v => .error (.ofDecoding (.objectKind l.name v.kind))

/-- The records of the items of an array; the first failure counts. -/
def decodeItems (l : Layout) : List Json → Except Failure (List Record)
  | [] => .ok []
  | v :: vs =>
    match l.decode v with
    | .error e => .error e
    | .ok r =>
      match l.decodeItems vs with
      | .error e => .error e
      | .ok rs => .ok (r :: rs)

/-- The records of a result that has to be an array; an absent result has no items. -/
def decodeList (l : Layout) : Json → Except Failure (List Record)
  | .null => .ok []
  | .arr vs => l.decodeItems vs
  | v => .error (.ofDecoding (.arrayKind l.name v.kind))

end Layout

end Freebox
