import Freebox.Client
import Freebox.Resource.System

/-!
# `Freebox.Discovery` — what is known without a session

## Contents
- `describe`: what a box tells about itself to anybody.
- `Client.diagnostics`: what a client tells about itself; no secrets are in it.
-/

namespace Freebox

/-- The request for the description of a box. -/
def Client.describeRequest (c : Client) : Request where
  method := "GET"
  url := c.endpoint ++ "/api_version"
  headers := [acceptHeader]
  timeout := c.timeout

/-- The description in a reply. -/
def Received.description (r : Received) : Except Failure Record :=
  if isSuccess r.status then
    match Json.read (.octets r.body) with
    | .error e =>
      match r.text with
      | .ok body => .error (.ofDecoding (.body body e))
      | .error f => .error (.fault f)
    | .ok v => Resource.apiVersion.decode v
  else .error (r.statusFailure none)

/-- What a box tells about itself. -/
def describe : Attempt State Record := do
  let s ← .state
  let received ← exchange s.client.describeRequest
  .lift received.description

/-- What a client tells about itself at an instant. -/
def Client.diagnostics (c : Client) (now : Instant) : Members :=
  [("endpoint", .str c.endpoint), ("version", .str c.version), ("base_url", .str c.base),
   ("app_id", .ofString? c.appId), ("app_id_set", .bool (Client.set? c.appId).isSome),
   ("private_token_set", .bool (Client.set? c.privateToken).isSome),
   ("authenticated", .bool c.session.isSome),
   ("session_expires_at", .ofString? (c.session.map (·.expiresAt.text))),
   ("session_expired", match c.session with
     | some session => .bool (session.expired now)
     | none => .null)]

end Freebox
