import Freebox.Json.Display
import Freebox.Text.Utf8

/-!
# `Freebox.Fault` — mistakes that are not errors of the box

A fault is a value that does not fit where it is used: a missing member, a value of the wrong kind, a text that is no
number, an argument that an operation refuses. Decoding turns most of them into decoding errors; the others reach the
caller as they are.

## Contents
- `Fault`, with its class and its wording.
- `Fault.inspected`: class and wording, as decoding errors quote them.
- `Fault.isMismatch`: the faults that decoding turns into decoding errors.
-/

namespace Freebox

open Json (Kind)

/-- A value that does not fit. -/
inductive Fault where
  /-- An object without a member that is needed. -/
  | missingMember (name : String)
  /-- A value whose kind has no attribute of that name. -/
  | noAttribute (kind : Kind) (name : String)
  /-- A value that has no members to take. -/
  | notSubscriptable (kind : Kind)
  /-- A text asked for a member. -/
  | textMember
  /-- An array asked for a member. -/
  | arrayMember
  /-- A value that has no items. -/
  | notIterable (kind : Kind)
  /-- A value that cannot be looked up in a table. -/
  | unhashable (kind : Kind)
  /-- A value of a kind that has no number. -/
  | notNumeric (kind : Kind)
  /-- A text that is no integer. -/
  | notInteger (e : Whole.ReadError)
  | nanToInteger
  | infinityToInteger
  /-- A value that cannot be laid out in a column. -/
  | noColumns (kind : Kind)
  /-- An item of a list of texts that is no text. -/
  | notJoinable (index : Nat) (kind : Kind)
  /-- Two numbers of continuations that cannot be ordered. -/
  | unordered (left right : Kind)
  | unsupportedHash (name : String)
  | noDownloadUrl
  | noEvents
  | closedUpload
  /-- A body asked for in pieces of no length. -/
  | emptyPieces
  /-- A text that holds halves of surrogate pairs where octets are needed. -/
  | unencodable (e : Utf8.EncodeError)
  /-- A charset's name that holds a null. -/
  | nullInName
  /-- A charset that refuses to be read, and why. -/
  | refused (reason : String)
  /-- The same of a value in the charset of a name. -/
  | refusedName (name reason : String)
  /-- A charset that fails at what it has allowed. -/
  | brokenCharset
  /-- The same of a value in the charset of a name. -/
  | brokenCharsetName (name : String)
  /-- An octet that is none of ASCII where all should be, and where it is. -/
  | beyondAscii (octet : UInt8) (position : Nat)
  /-- Wide units of so many bits without a byte order mark. -/
  | unmarked (width : Nat)
  /-- A coding of octets as octets where one of text is needed. -/
  | octetsForText
  /-- A coding of letters where one of octets is needed. -/
  | octetsForLetters
  | unknownTool (name : String)
  /-- A failure from outside that no rule covers. -/
  | foreign (message : String)
  /-- A body that was read before. -/
  | bodyConsumed
  /-- A body that was released before it was read. -/
  | bodyReleased
  /-- A file, an upload or a stream that was never opened. -/
  | notOpened
  deriving DecidableEq, Repr

namespace Fault

/-- The class of a fault. -/
inductive Class where
  | key
  | attribute
  | type
  | value
  | overflow
  | runtime
  | consumed
  | released
  | index
  | unicode
  | encoding
  | decoding
  | assertion
  deriving DecidableEq, Repr

/-- The name of a class in answers. -/
def Class.name : Class → String
  | .key => "KeyError"
  | .attribute => "AttributeError"
  | .type => "TypeError"
  | .value => "ValueError"
  | .overflow => "OverflowError"
  | .runtime => "RuntimeError"
  | .consumed => "StreamConsumed"
  | .released => "StreamClosed"
  | .index => "IndexError"
  | .unicode => "UnicodeError"
  | .encoding => "UnicodeEncodeError"
  | .decoding => "UnicodeDecodeError"
  | .assertion => "AssertionError"

/-- The class of each fault. -/
def cls : Fault → Class
  | missingMember _ => .key
  | noAttribute _ _ => .attribute
  | notSubscriptable _ | textMember | arrayMember | notIterable _ | unhashable _ | notNumeric _
  | noColumns _ | notJoinable _ _ | unordered _ _ | octetsForLetters => .type
  | notInteger _ | nanToInteger | unsupportedHash _ | noDownloadUrl | noEvents | closedUpload | emptyPieces
  | nullInName | unknownTool _ => .value
  | infinityToInteger => .overflow
  | foreign _ | brokenCharset | brokenCharsetName _ => .runtime
  | bodyConsumed => .consumed
  | bodyReleased => .released
  | notOpened => .index
  | refused _ | refusedName _ _ | unmarked _ => .unicode
  | unencodable _ => .encoding
  | beyondAscii _ _ => .decoding
  | octetsForText => .assertion

/-- A text between quotes. -/
def quoted (t : Text) : String := String.ofList (Quoted.text t)

/-- The wording of an encoding error: one half is shown, more are told by their places. -/
def unencodableMessage (e : Utf8.EncodeError) : String :=
  "'utf-8' codec can't encode character"
    ++ (if e.length = 1 then
          " '" ++ String.ofList (Quoted.codeEscape e.code) ++ "' in position " ++ toString e.position
        else
          "s in position " ++ toString e.position ++ "-" ++ toString (e.position + e.length - 1))
    ++ ": surrogates not allowed"

/-- The wording of a refusal by a charset, where it is told by its name. -/
def namedMessage (name : String) (cls : Class) (reason : String) : String :=
  "decoding with '" ++ name ++ "' codec failed (" ++ cls.name ++ ": " ++ reason ++ ")"

/-- The wording of a charset's own failure. -/
def brokenMessage : String := "internal codec error"

/-- The wording of a fault. -/
def message : Fault → String
  | missingMember name => quoted name
  | noAttribute kind name => "'" ++ kind.name ++ "' object has no attribute '" ++ name ++ "'"
  | notSubscriptable kind => "'" ++ kind.name ++ "' object is not subscriptable"
  | textMember => "string indices must be integers, not 'str'"
  | arrayMember => "list indices must be integers or slices, not str"
  | notIterable kind => "'" ++ kind.name ++ "' object is not iterable"
  | unhashable kind => "unhashable type: '" ++ kind.name ++ "'"
  | notNumeric kind =>
    "int() argument must be a string, a bytes-like object or a real number, not '" ++ kind.name ++ "'"
  | notInteger e => e.message
  | nanToInteger => "cannot convert float NaN to integer"
  | infinityToInteger => "cannot convert float infinity to integer"
  | noColumns kind => "unsupported format string passed to " ++ kind.name ++ ".__format__"
  | notJoinable index kind =>
    "sequence item " ++ toString index ++ ": expected str instance, " ++ kind.name ++ " found"
  | unordered left right =>
    "'<' not supported between instances of '" ++ left.name ++ "' and '" ++ right.name ++ "'"
  | unsupportedHash name => "unsupported hash type: " ++ name
  | noDownloadUrl => "at least one download url is required"
  | noEvents => "at least one event is required"
  | closedUpload => "write to a closed upload"
  | emptyPieces => "range() arg 3 must not be zero"
  | unencodable e => unencodableMessage e
  | nullInName => "embedded null character"
  | refused reason => reason
  | refusedName name reason => namedMessage name .unicode reason
  | brokenCharset => brokenMessage
  | brokenCharsetName name => namedMessage name .runtime brokenMessage
  | beyondAscii octet position =>
    "'ascii' codec can't decode byte 0x" ++ String.ofList (Quoted.hexPadded 2 octet.toNat) ++ " in position "
      ++ toString position ++ ": ordinal not in range(128)"
  | unmarked width => "UTF-" ++ toString width ++ " stream does not start with BOM"
  | octetsForLetters => "descriptor 'translate' for 'str' objects doesn't apply to a 'bytes' object"
  | unknownTool name => "Unknown tool: " ++ name
  | foreign message => message
  | bodyConsumed | bodyReleased | octetsForText => ""
  | notOpened => "list index out of range"

/-- Class and wording, as a decoding error quotes them. -/
def inspected (f : Fault) : String :=
  match f with
  | missingMember name => f.cls.name ++ "(" ++ quoted name ++ ")"
  | _ => f.cls.name ++ "(" ++ quoted f.message ++ ")"

/-- Faults of a value that does not fit its target: decoding turns them into decoding errors. Infinity as an integer
is not among them. -/
def isMismatch (f : Fault) : Bool :=
  match f.cls with
  | .key | .attribute | .type | .value | .unicode | .encoding | .decoding => true
  | _ => false

end Fault

namespace Json

/-! ## Uses that may fault -/

/-- A member of a value that should be an object. -/
def member (v : Json) (name : String) : Except Fault Json :=
  match v with
  | .obj ms =>
    match Members.get? ms name with
    | some x => .ok x
    | none => .error (.missingMember name)
  | .str _ => .error .textMember
  | .arr _ => .error .arrayMember
  | v => .error (.notSubscriptable v.kind)

/-- The items of a value: of an array its items, of a text its characters, of an object its names. -/
def elements : Json → Except Fault (List Json)
  | .arr xs => .ok xs
  | .str s => .ok (s.letters.map (fun l => .str (.singleton l)))
  | .obj ms => .ok (ms.map (fun m => .str m.1))
  | v => .error (.notIterable v.kind)

/-- A value as an integer: numbers are cut toward nought, truth values count as one and nought, texts are read. -/
def toInteger : Json → Except Fault Int
  | .int n => .ok n
  | .bool b => .ok (if b then 1 else 0)
  | .real (.finite negative m e) => .ok (Binary64.truncated negative m e)
  | .real .nan => .error .nanToInteger
  | .real (.infinite _) => .error .infinityToInteger
  | .str s => (Whole.read s).mapError .notInteger
  | v => .error (.notNumeric v.kind)

end Json

end Freebox
