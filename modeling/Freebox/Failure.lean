import Freebox.Fault
import Freebox.Json.Encoding
import Freebox.Number.Quantity
import Freebox.Text.Base64

/-!
# `Freebox.Failure` — what can go wrong, and how it is told

Every failure of talking to the box is a `BoxError`: missing configuration, the network, a deadline, a reply of the
wrong shape, a bad status, or a refusal by the box. Each is a cause; the wording is made in one place. A failure is
such an error, with the error behind it if it was raised because of one, or a fault of the caller's values.

## Contents
- The causes: `ConfigurationError`, `NetworkError`, `DeadlineError`, `DecodingError`, `Refusal`.
- `BoxError`, its wording, its lineage of classes and its report.
- `Failure`.
-/

namespace Freebox

open Json (Kind)

/-! ## Causes -/

/-- A credential that is needed and not set. The last case is for callers with words of their own, as in the other
causes. -/
inductive ConfigurationError where
  | appIdNotSet
  | privateTokenNotSet
  | stated (message : Text)
  deriving DecidableEq, Repr

/-- An exchange that the network did not complete. -/
inductive NetworkError where
  | request (method : String) (url : Text) (reason : String)
  | errorBody (method : String) (url : Text) (reason : String)
  | fileContent (reason : String)
  | action (name : Json) (reason : String)
  | noReply (action : String) (within : Quantity)
  | connectionLost (action reason : String)
  | uploadData (reason : String)
  | websocket (url reason : String)
  | eventStream (reason : String)
  | stated (message : Text)
  deriving DecidableEq, Repr

/-- A request that was not answered in time. -/
inductive DeadlineError where
  | request (method : String) (url : Text) (after : Quantity)
  | stated (message : Text)
  deriving DecidableEq, Repr

/-- Why a text is no base64 path. -/
inductive PathError where
  | base64 (e : Base64.DecodeError)
  | utf8 (e : Utf8.DecodeError)
  deriving DecidableEq, Repr

/-- Something received that has not the expected shape. -/
inductive DecodingError where
  | body (text : Text) (why : Json.ReadError)
  | frame (received : Raw) (why : Json.ReadError)
  | bodyKind (kind : Kind)
  | messageKind (kind : Kind)
  | objectKind (expected : String) (kind : Kind)
  | arrayKind (expected : String) (kind : Kind)
  | valueKind (expected kind : Kind)
  | taskKind (kind : Kind)
  | mismatch (target : String) (fault : Fault)
  | pathKind (kind : Kind)
  | path (text : Text) (why : PathError)
  | portsText (text : Text)
  | portsItem (kind : Kind)
  | portsKind (kind : Kind)
  | challengeKind (kind : Kind)
  | tokenKind (kind : Kind)
  | permissionsKind (kind : Kind)
  | notification (missing : String)
  | stated (message : Text)
  deriving DecidableEq, Repr

/-- The kinds of refusal that callers tell apart. -/
inductive RefusalKind where
  | general
  | notFound
  | pathNotFound
  | taskNotFound
  | conflict
  | destinationConflict
  | authRequired
  deriving DecidableEq, Repr

/-- A well-formed reply that reports no success. Code, message and identifier are whatever the box sent. -/
structure Refusal where
  kind : RefusalKind
  code : Json
  message : Json
  uid : Json
  status : Option Int
  deriving DecidableEq, Repr

/-- An error of talking to the box. -/
inductive BoxError where
  | stated (message : Text)
  | configuration (e : ConfigurationError)
  | network (e : NetworkError)
  | deadline (e : DeadlineError)
  | decoding (e : DecodingError)
  | status (code : Int) (body : Text)
  | refusal (r : Refusal)
  /-- An application authorization that did not end in a grant. -/
  | authorization (status : Json)
  deriving DecidableEq, Repr

/-! ## Wording -/

/-- The wording of a base64 defect. -/
def Base64.DecodeError.message : Base64.DecodeError → String
  | .notAscii => "string argument should contain only ASCII characters"
  | .leadingPadding => "Leading padding not allowed"
  | .excessAfterPadding => "Excess data after padding"
  | .stranger => "Only base64 data is allowed"
  | .discontinuousPadding => "Discontinuous padding not allowed"
  | .oneLeftOver n =>
    "Invalid base64-encoded string: number of data characters (" ++ toString n
      ++ ") cannot be 1 more than a multiple of 4"
  | .incorrectPadding => "Incorrect padding"

/-- The wording of a path error. -/
def PathError.message : PathError → String
  | .base64 e => e.message
  | .utf8 e => (Json.undecodableUtf8 e).message

/-- Something received, between quotes. -/
def Raw.quoted : Raw → String
  | .text s => Fault.quoted s
  | .octets bs => String.ofList (Quoted.octets bs)

/-- The wording of a missing credential. -/
def ConfigurationError.message : ConfigurationError → Text
  | .appIdNotSet => "app id is not set"
  | .privateTokenNotSet => "private token is not set"
  | .stated m => m

/-- The wording of a network error. -/
def NetworkError.message : NetworkError → Text
  | .request method url reason => "failed to perform " ++ method ++ " " ++ url ++ ": " ++ reason
  | .errorBody method url reason =>
    "failed to read error body of " ++ method ++ " " ++ url ++ ": " ++ reason
  | .fileContent reason => "failed to read file content: " ++ reason
  | .action name reason => "failed to send '" ++ name.shown ++ "' action: " ++ reason
  | .noReply name within => "no reply to '" ++ name ++ "' action within " ++ within.text ++ " seconds"
  | .connectionLost name reason =>
    "connection lost while waiting for '" ++ name ++ "' reply: " ++ reason
  | .uploadData reason => "failed to send upload data: " ++ reason
  | .websocket url reason => "failed to open websocket " ++ url ++ ": " ++ reason
  | .eventStream reason => "event stream interrupted: " ++ reason
  | .stated m => m

/-- The wording of a missed deadline. -/
def DeadlineError.message : DeadlineError → Text
  | .request method url after => method ++ " " ++ url ++ " timed out after " ++ after.text ++ " seconds"
  | .stated m => m

/-- The wording of a decoding error. -/
def DecodingError.message : DecodingError → Text
  | .body text why => "failed to unmarshal response body '" ++ text ++ "': " ++ why.message
  | .frame received why => "failed to unmarshal websocket message " ++ received.quoted ++ ": " ++ why.message
  | .bodyKind kind => "expected a JSON object as response body, got " ++ kind.name
  | .messageKind kind => "expected a JSON object as websocket message, got " ++ kind.name
  | .objectKind expected kind => "expected a JSON object for " ++ expected ++ ", got " ++ kind.name
  | .arrayKind expected kind => "expected a JSON array of " ++ expected ++ ", got " ++ kind.name
  | .valueKind expected kind => "expected " ++ expected.name ++ ", got " ++ kind.name
  | .taskKind kind => "expected a JSON object holding a task id, got " ++ kind.name
  | .mismatch target fault => "failed to decode " ++ target ++ ": " ++ fault.inspected
  | .pathKind kind => "expected a base64 string for a path, got " ++ kind.name
  | .path text why => "invalid base64 path " ++ Fault.quoted text ++ ": " ++ why.message
  | .portsText text => "unexpected string " ++ Fault.quoted text ++ " for usb port bindings"
  | .portsItem kind => "unexpected " ++ kind.name ++ " in usb port bindings"
  | .portsKind kind => "unexpected " ++ kind.name ++ " for usb port bindings"
  | .challengeKind kind => "expected a string login challenge, got " ++ kind.name
  | .tokenKind kind => "expected a string session token, got " ++ kind.name
  | .permissionsKind kind => "expected a JSON object for permissions, got " ++ kind.name
  | .notification missing => "malformed event notification: missing " ++ Fault.quoted missing
  | .stated m => m

namespace BoxError

/-- The wording of an error. -/
def message : BoxError → Text
  | stated m => m
  | configuration e => e.message
  | network e => e.message
  | deadline e => e.message
  | decoding e => e.message
  | status code body =>
    "failed with status '" ++ Whole.text code ++ "': server returned '" ++ body ++ "'"
  | refusal r => "failed with error code '" ++ r.code.shown ++ "': " ++ r.message.shown
  | authorization s => "application authorization ended with status '" ++ s.shown ++ "'"

end BoxError

/-! ## Classes and reports -/

/-- The classes of a refusal, from its own up to the one of all refusals. -/
def RefusalKind.lineage : RefusalKind → List String
  | .general => ["BusinessError"]
  | .notFound => ["NotFoundError", "BusinessError"]
  | .pathNotFound => ["PathNotFoundError", "NotFoundError", "BusinessError"]
  | .taskNotFound => ["TaskNotFoundError", "NotFoundError", "BusinessError"]
  | .conflict => ["ConflictError", "BusinessError"]
  | .destinationConflict => ["DestinationConflictError", "ConflictError", "BusinessError"]
  | .authRequired => ["AuthRequiredError", "BusinessError"]

namespace BoxError

/-- The classes of an error, from its own up to the one of all errors of the box. -/
def lineage (e : BoxError) : List String :=
  (match e with
    | stated _ => []
    | configuration .appIdNotSet => ["AppIDNotSetError", "ConfigurationError"]
    | configuration .privateTokenNotSet => ["PrivateTokenNotSetError", "ConfigurationError"]
    | configuration (.stated _) => ["ConfigurationError"]
    | network _ => ["NetworkError"]
    | deadline _ => ["RequestTimeoutError", "NetworkError"]
    | decoding _ => ["DecodingError"]
    | status _ _ => ["StatusError"]
    | refusal r => r.kind.lineage
    | authorization _ => ["AuthorizationError"]) ++ ["FreeboxError"]

/-- The class of an error. -/
def name (e : BoxError) : String := e.lineage.headD "FreeboxError"

/-- The report of an error as an object: its wording and its class, the status of a bad status, the code of a refusal,
and its status if there is one other than nought. -/
def report (e : BoxError) : Members :=
  ("error", .str e.message) :: ("type", .str e.name) :: match e with
    | status code _ => [("status", .int code)]
    | refusal r =>
      ("error_code", r.code) :: match r.status with
        | some s => if s = 0 then [] else [("status", .int s)]
        | none => []
    | _ => []

/-- Whether a session was missing, expired or rejected. -/
def isAuthRequired : BoxError → Bool
  | refusal r => r.kind = .authRequired
  | _ => false

/-- Whether a credential is missing. -/
def isConfiguration : BoxError → Bool
  | configuration _ => true
  | _ => false

end BoxError

/-! ## Failures -/

/-- An error of talking to the box, with the one behind it, or a fault. -/
inductive Failure where
  | box (e : BoxError) (cause : Option BoxError)
  | fault (f : Fault)
  deriving DecidableEq, Repr

namespace Failure

/-- An error with none behind it. -/
def ofBox (e : BoxError) : Failure := .box e none

/-- A decoding error. -/
def ofDecoding (e : DecodingError) : Failure := .ofBox (.decoding e)

/-- The wording of a failure. -/
def message : Failure → Text
  | box e _ => e.message
  | fault f => f.message

end Failure

end Freebox
