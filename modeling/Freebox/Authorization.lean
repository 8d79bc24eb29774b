import Freebox.Client
import Freebox.Resource.Login

/-!
# `Freebox.Authorization` — registering an application

An application is registered by a request that the user has to grant at the box. The client asks for the state of the
request until it is granted, has ended otherwise, or was asked for often enough; it sleeps between.

## Contents
- `Authorization.isEnded`: the states that are no grant and never will be.
- `Authorization.poll`, `authorize`.
-/

namespace Freebox

namespace Authorization

/-- The state of a granted request. -/
def granted : Json := .str "granted"

/-- The state of a request before the first answer. -/
def pending : Json := .str "pending"

/-- Whether a request has ended without a grant. -/
def isEnded (status : Json) : Bool := status = .str "denied" || status = .str "timeout" || status = .str "unknown"

/-- Sleeps. -/
def sleep (delay : Quantity) : Attempt State Unit :=
  .update (fun s => { s with network := s.network.sleep delay })

/-- The state of a request, asked for once. -/
def trackStatus (trackId : Text) : Attempt State Json := do
  let envelope ← perform "GET" ("login/authorize/" ++ trackId) none {}
  let state ← Attempt.lift (Resource.grantState.decode envelope.result)
  return state.get "status"

/-- Asks for the state of a request a number of times at most, after a last one. -/
def poll (trackId : Text) (token : Json) (interval : Quantity) : Nat → Json → Attempt State Json
  | 0, last => .fail (.ofBox (.authorization last))
  | n + 1, _ => do
    let status ← trackStatus trackId
    if status = granted then return token
    else if isEnded status then .fail (.ofBox (.authorization status))
    else do
      sleep interval
      poll trackId token interval n status

/-- The delay between two questions by default: a second. -/
def defaultInterval : Quantity := .real (Binary64.ofDecimal false 1 0)

/-- The number of questions by default. -/
def defaultAttempts : Int := 120

end Authorization

/-- Registers an application and waits for the user: the private token granted. -/
def authorize (registration : Resource.Registration) (interval : Quantity) (attempts : Int) : Attempt State Json := do
  let envelope ← perform "POST" "login/authorize" none { payload := .obj registration.payload }
  let grant ← Attempt.lift (Resource.grant.decode envelope.result)
  Authorization.poll (grant.get "track_id").shown (grant.get "app_token") interval attempts.toNat Authorization.pending

end Freebox
