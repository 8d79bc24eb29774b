import Freebox.Failure

/-!
# `Freebox.Envelope` — the object around every reply

The box wraps each reply in an object with the members `success`, `result`, `error_code`, `msg` and `uid`. Only the
value true reports success; an absent member reads as null. A reply without success is a refusal, of a kind told by
its code.

## Contents
- `Envelope`, `Envelope.ofMembers`, `Envelope.parse`.
- `RefusalKind.ofCode`: the kind of a refusal. `Envelope.refused`: the failure that a reply without success is.
- `Json.expect`: a value of one kind.
-/

namespace Freebox

open Json (Kind)

/-- The object around a reply. -/
structure Envelope where
  success : Bool
  result : Json := .null
  errorCode : Json := .null
  message : Json := .null
  uid : Json := .null
  deriving DecidableEq, Repr

namespace Envelope

/-- Reads the five members. -/
def ofMembers (ms : Members) : Envelope where
  success := ms.get? "success" = some (.bool true)
  result := ms.get "result"
  errorCode := ms.get "error_code"
  message := ms.get "msg"
  uid := ms.get "uid"

/-- Whether there is an error code or a message. -/
def hasErrorDetails (e : Envelope) : Bool := e.errorCode != .null || e.message != .null

/-- What was received, as a text for messages: octets are decoded leniently. -/
def received : Raw → String
  | .text s => s
  | .octets bs => String.ofList (Utf8.decodeLossy bs)

/-- The envelope of a body. -/
def parse (body : Raw) : Except DecodingError Envelope :=
  match Json.read body with
  | .error e => .error (.body (received body) e)
  | .ok (.obj ms) => .ok (ofMembers ms)
  | .ok v => .error (.bodyKind v.kind)

end Envelope

/-! ## Refusals -/

/-- The codes whose refusals callers tell apart. -/
def RefusalKind.known : List (Text × RefusalKind) :=
  [("noent", .notFound), ("not_found", .notFound), ("path_not_found", .pathNotFound),
   ("task_not_found", .taskNotFound), ("exists", .conflict), ("destination_conflict", .destinationConflict),
   ("auth_required", .authRequired), ("invalid_token", .authRequired), ("invalid_session", .authRequired)]

/-- The kind of refusal of a code. Codes that are no known text are general; an array or an object cannot be looked
up, unless it is empty and so counts as no code. -/
def RefusalKind.ofCode (code : Json) : Except Fault RefusalKind :=
  if code.isTrue then
    match code with
    | .str s => .ok ((known.lookup s).getD .general)
    | .arr _ | .obj _ => .error (.unhashable code.kind)
    | _ => .ok .general
  else .ok .general

/-- The failure that an envelope without success stands for. -/
def Envelope.refused (e : Envelope) (status : Option Int) : Failure :=
  match RefusalKind.ofCode e.errorCode with
  | .ok kind => .ofBox (.refusal ⟨kind, e.errorCode, e.message, e.uid, status⟩)
  | .error f => .fault f

/-! ## Values of one kind -/

/-- A value that has to be of a kind. -/
def Json.expect (expected : Kind) (v : Json) : Except DecodingError Json :=
  if v.kind = expected then .ok v else .error (.valueKind expected v.kind)

end Freebox
