import Freebox.Json.Reader
import Freebox.Text.Utf8

/-!
# `Freebox.Json.Encoding` — JSON received as text or as octets

Octets are decoded first: by the byte order mark, else by where octets of value nought stand among the first four,
else as UTF-8. Errors tell their place by line, column and character.

## Contents
- `Raw`: something received, a text or octets.
- `Json.ReadError` and its wording.
- `Json.guess`, `Json.detect`: the encoding of octets.
- `Json.read`: the value of something received.
-/

namespace Freebox

/-- Something received: a text or octets. -/
inductive Raw where
  | text (s : String)
  | octets (bs : Bytes)
  deriving DecidableEq, Repr

namespace Json

/-! ## Errors -/

/-- The encodings that octets are recognised as. -/
inductive Encoding where
  | utf8
  | utf16 (order : Wide.ByteOrder)
  | utf32 (order : Wide.ByteOrder)
  deriving DecidableEq, Repr

/-- The name of an encoding in messages. -/
def Encoding.name : Encoding → String
  | .utf8 => "utf-8"
  | .utf16 .little => "utf-16-le"
  | .utf16 .big => "utf-16-be"
  | .utf32 .little => "utf-32-le"
  | .utf32 .big => "utf-32-be"

/-- Octets that no text is encoded as. -/
structure Undecodable where
  encoding : Encoding
  octet : UInt8
  position : Nat
  length : Nat
  reason : String
  deriving DecidableEq, Repr

/-- The wording of an encoding error: one octet is shown, more are told by their places. -/
def Undecodable.message (e : Undecodable) : String :=
  "'" ++ e.encoding.name ++ "' codec can't decode "
    ++ (if e.length = 1 then
          "byte 0x" ++ String.ofList (Bytes.hexPair e.octet) ++ " in position " ++ toString e.position
        else
          "bytes in position " ++ toString e.position ++ "-" ++ toString (e.position + e.length - 1))
    ++ ": " ++ e.reason

/-- Why something received has no JSON value. -/
inductive ReadError where
  /-- A problem at a line and column, both from one, and a character, from nought. -/
  | malformed (what : Problem) (line column character : Nat)
  | tooManyDigits (count : Nat)
  | undecodable (e : Undecodable)
  deriving DecidableEq, Repr

/-- The wording of an error. -/
def ReadError.message : ReadError → String
  | .malformed what line column character =>
    what.message ++ ": line " ++ toString line ++ " column " ++ toString column
      ++ " (char " ++ toString character ++ ")"
  | .tooManyDigits n => Whole.tooManyDigitsMessage n
  | .undecodable e => e.message

/-- A problem with its place, told by the text before it. -/
def locate (what : Problem) (before : List Letter) : ReadError :=
  .malformed what (before.count (.char '\n') + 1) ((before.reverse.takeWhile (· != .char '\n')).length + 1)
    before.length

/-- Why reading stopped, with its place in the whole text. -/
def Stop.within (whole : List Letter) : Stop → ReadError
  | .problem what rest => locate what (whole.take (whole.length - rest.length))
  | .tooManyDigits n => .tooManyDigits n

/-! ## Decoding octets -/

/-- The wording of a defect of UTF-8. -/
def defectReason : Utf8.Defect → String
  | .invalidStart => "invalid start byte"
  | .invalidContinuation => "invalid continuation byte"
  | .unexpectedEnd => "unexpected end of data"

/-- An error of UTF-8 as an encoding error. -/
def undecodableUtf8 (e : Utf8.DecodeError) : Undecodable :=
  ⟨.utf8, e.octet, e.position, e.length, defectReason e.defect⟩

/-- An error of UTF-16 or UTF-32 as an encoding error. -/
def undecodableWide (encoding : Encoding) : Wide.DecodeError → Undecodable
  | .truncated position length octet => ⟨encoding, octet, position, length, "truncated data"⟩
  | .outOfRange position => ⟨encoding, 0, position, 4, "code point not in range(0x110000)"⟩

/-- The encoding of octets without a byte order mark, by where noughts stand among the first four. -/
def guess : Bytes → Encoding
  | a :: b :: c :: d :: _ =>
    if a = 0 then (if b = 0 then .utf32 .big else .utf16 .big)
    else if b = 0 then (if c = 0 ∧ d = 0 then .utf32 .little else .utf16 .little)
    else .utf8
  | [a, b] => if a = 0 then .utf16 .big else if b = 0 then .utf16 .little else .utf8
  | _ => .utf8

/-- The encoding that octets start with, and the number of octets of their byte order mark. The marks of UTF-32 come
first, as one of them starts by a mark of UTF-16. -/
def detect (bs : Bytes) : Encoding × Nat :=
  if [0x00, 0x00, 0xFE, 0xFF].isPrefixOf bs then (.utf32 .big, 4)
  else if [0xFF, 0xFE, 0x00, 0x00].isPrefixOf bs then (.utf32 .little, 4)
  else if [0xFE, 0xFF].isPrefixOf bs then (.utf16 .big, 2)
  else if [0xFF, 0xFE].isPrefixOf bs then (.utf16 .little, 2)
  else if [0xEF, 0xBB, 0xBF].isPrefixOf bs then (.utf8, 3)
  else (guess bs, 0)

/-- The letters that octets stand for; halves of surrogate pairs pass. Places in UTF-8 are counted after the byte order
mark, in the other encodings from the first octet. -/
def decodeOctets (bs : Bytes) : Except Undecodable (List Letter) :=
  match detect bs with
  | (.utf8, mark) => (Utf8.decodePassing (bs.drop mark)).mapError undecodableUtf8
  | (.utf16 order, mark) =>
    (Wide.decode16 order mark (bs.drop mark)).mapError (undecodableWide (.utf16 order))
  | (.utf32 order, mark) =>
    (Wide.decode32 order mark (bs.drop mark)).mapError (undecodableWide (.utf32 order))

/-! ## Reading -/

/-- The value of a text, with the place of an error. -/
def readLetters (s : List Letter) : Except ReadError Json := (document s).mapError (Stop.within s)

/-- The value of something received. A text may not start with a byte order mark. -/
def read : Raw → Except ReadError Json
  | .text t =>
    match (Text.ofString t).letters with
    | .char '\uFEFF' :: _ => .error (locate .byteOrderMark [])
    | s => readLetters s
  | .octets bs =>
    match decodeOctets bs with
    | .error e => .error (.undecodable e)
    | .ok s => readLetters s

/-- The value of a text. -/
def parse (s : String) : Except ReadError Json := read (.text s)

end Json

end Freebox
