import Freebox.Failure

/-!
# `Freebox.Path` — file system paths on the wire

The box writes a path as the base64 of its UTF-8 octets. A value of null stands for no path.

Paths are strings, all of whose letters are characters. A text with a half of a surrogate pair has no octets, so it is
no path: `Path.ofValue` tells the fault that comes of it. Operations, requests and drafts take their paths as strings,
and are not made of other texts.

## Contents
- `Path.encode`, and `Path.ofValue` for values that should be paths.
- `Path.decode`: the path of a text. `Path.decodeValue`: the path of a value.
-/

namespace Freebox.Path

/-- The base64 of the octets of a path. There are no octets for a half of a surrogate pair, and no string has one. -/
def encode (path : String) : String := String.ofList (Base64.encode (Utf8.encode path.toList))

/-- The string of a value that should be a path. A text that holds halves of surrogate pairs has no octets. -/
def ofValue : Json → Except Fault String
  | .str t =>
    match Utf8.encodeText t with
    | .ok _ => .ok (String.ofList t.lossy)
    | .error e => .error (.unencodable e)
  | v => .error (.noAttribute v.kind "encode")

/-- The path that a base64 text stands for. -/
def decode (t : Text) : Except PathError String :=
  match Base64.decode t.lossy with
  | .error e => .error (.base64 e)
  | .ok bs =>
    match Utf8.decode bs with
    | .error e => .error (.utf8 e)
    | .ok cs => .ok (String.ofList cs)

/-- The path that a value stands for, none for null. -/
def decodeValue : Json → Except DecodingError (Option String)
  | .null => .ok none
  | .str t =>
    match decode t with
    | .ok path => .ok (some path)
    | .error e => .error (.path t e)
  | v => .error (.pathKind v.kind)

end Freebox.Path
