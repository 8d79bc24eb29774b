import Freebox.Channel
import Freebox.Endpoint
import Freebox.Reply
import Freebox.Session

/-!
# `Freebox.Client` — a client of one box

A client knows its box, its credentials and its deadline, and holds one session at most. It runs on a network; both
together are the state of its attempts.

## Contents
- `Client`, `Client.create`, `Client.credentials`.
- `State`: a client on its network.
- `transmit`, `exchange`, `perform`: one request, down to its reply and up to its envelope.
-/

namespace Freebox

/-- A client. A credential that is absent or empty is not set. -/
structure Client where
  endpoint : String
  version : String
  appId : Option String
  privateToken : Option String
  timeout : Quantity
  /-- Whether the transport is the client's own, to be closed with it. -/
  ownsTransport : Bool
  session : Option Session := none
  /-- The number of uploads asked for. -/
  uploads : Nat := 0
  deriving DecidableEq, Repr

namespace Client

/-- The version that is spoken by default. -/
def defaultVersion : String := "v8"

/-- Ten seconds. -/
def defaultTimeout : Quantity := .real (Binary64.ofDecimal false 10 0)

/-- A client for an address, without a session. -/
def create (address version : String) (appId privateToken : Option String) (timeout : Quantity)
    (ownsTransport : Bool) : Client :=
  { endpoint := Endpoint.normalize address, version, appId, privateToken, timeout, ownsTransport }

/-- The address that the resources live under. -/
def base (c : Client) : String := Endpoint.base c.endpoint c.version

/-- The address of a resource. -/
def url (c : Client) (path : Text) : Text := c.base ++ "/" ++ path

/-- The address of a channel. -/
def channelUrl (c : Client) (path : String) : String := Endpoint.channel (c.base ++ "/" ++ path)

/-- A credential that is set. -/
def set? (credential : Option String) : Option String := credential.filter (· != "")

/-- The application and its private token, if both are set. -/
def credentials (c : Client) : Except ConfigurationError (String × String) :=
  match set? c.appId, set? c.privateToken with
  | none, _ => .error .appIdNotSet
  | some _, none => .error .privateTokenNotSet
  | some appId, some privateToken => .ok (appId, privateToken)

/-- The token of the session. -/
def token? (c : Client) : Option Text := c.session.map (·.token)

end Client

/-! ## A client on its network -/

/-- A client and the network it runs on. -/
structure State where
  client : Client
  network : Network

namespace State

/-- The state after one more effect. -/
def did (e : Effect) (s : State) : State := { s with network := s.network.did e }

/-- The state with another session. -/
def withSession (session : Option Session) (s : State) : State :=
  { s with client := { s.client with session } }

end State

/-! ## Requests -/

/-- The header that carries a session's token. -/
def authHeader : String := "X-Fbx-App-Auth"

/-- The header that asks for JSON. -/
def acceptHeader : String × Text := ("Accept", "application/json")

/-- The header of a token, none for an empty one. -/
def tokenHeader : Option Text → List (String × Text)
  | none => []
  | some token => if token = "" then [] else [(authHeader, token)]

/-- What a request carries: a payload, form fields, and a deadline of its own. -/
structure Parcel where
  payload : Json := .null
  form : Option Members := none
  timeout : Option Quantity := none
  deriving DecidableEq, Repr

/-- Sends a request and takes the head of its reply. -/
def transmit (r : Request) : Attempt State Response := fun s =>
  let (reply, network) := s.network.send r
  (match reply with
    | .failed e => .error (r.failed e)
    | .received response => .ok response,
    { s with network })

/-- Sends a request and reads its reply to the end. -/
def exchange (r : Request) : Attempt State Received := do
  let response ← transmit r
  .lift (response.whole.mapError r.failed)

/-- The request for a resource of the box. -/
def Client.request (c : Client) (method : String) (path : Text) (token : Option Text) (parcel : Parcel) : Request where
  method := method
  url := c.url path
  headers := acceptHeader :: tokenHeader token
  timeout := parcel.timeout.getD c.timeout
  payload := parcel.payload
  form := parcel.form

/-- One request for a resource, under a token if there is one: the envelope of its reply. -/
def perform (method : String) (path : Text) (token : Option Text) (parcel : Parcel) : Attempt State Envelope := do
  let s ← .state
  let received ← exchange (s.client.request method path token parcel)
  .lift received.envelope

end Freebox
