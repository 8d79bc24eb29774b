import Freebox.Client
import Freebox.Resource.Login

/-!
# `Freebox.Renewal` — sessions opened, renewed and closed

A session is opened on first use by a handshake: a challenge is asked for and answered by a password. An operation whose
session is rejected is run once more after one renewal. If the renewal fails, the rejection is what is told, with the
failure of the renewal behind it; but missing credentials are told as such.

## Contents
- `Envelope.word`, `Envelope.opening`: what is read from the replies to a handshake.
- `handshake`, `login`, `logout`, `close`.
- `ensureSession`, `renew`, `withSession`: operations that need a session.
-/

namespace Freebox

/-! ## Handshakes -/

/-- The word that answers the challenge in an envelope. -/
def Envelope.word (privateToken : String) (asked : Envelope) : Except Failure String := do
  let challenge ← Resource.challenge.decode asked.result
  (password privateToken (challenge.text "challenge")).mapError .fault

/-- The token and the permissions of the session in an envelope. -/
def Envelope.opening (opened : Envelope) : Except Failure (Text × Record) := do
  let result ← Resource.sessionResult.decode opened.result
  return (result.text "session_token", result.nested "permissions")

/-- What is sent for a session. -/
def answer (appId word : String) : Parcel := { payload := .obj [("app_id", .str appId), ("password", .str word)] }

/-- The two requests of a handshake: the session's token and its permissions. -/
def negotiate : Attempt State (Text × Record) := do
  let s ← .state
  let (appId, privateToken) ←
    Attempt.lift (s.client.credentials.mapError (fun e => .ofBox (.configuration e)))
  let asked ← perform "GET" "login" none {}
  let word ← Attempt.lift (asked.word privateToken)
  let opened ← perform "POST" "login/session" none (answer appId word)
  .lift opened.opening

/-- Opens a session and tells its token and its permissions. An error of the box leaves no session. -/
def handshake : Attempt State (Text × Record) := do
  match ← negotiate.outcome with
  | .ok (token, permissions) =>
    .update (fun s => s.withSession (some (Session.start token s.network.now Session.validity)))
    return (token, permissions)
  | .error (.box e cause) =>
    .update (State.withSession none)
    .fail (.box e cause)
  | .error (.fault f) => .fail (.fault f)

/-- Opens a session and tells its permissions. -/
def login : Attempt State Record := do
  let (_, permissions) ← handshake
  return permissions

/-! ## Operations under a session -/

/-- The token of the session, which is opened if there is none. -/
def ensureSession : Attempt State Text := do
  let s ← .state
  match s.client.session with
  | some session => return session.token
  | none =>
    let (token, _) ← handshake
    return token

/-- The token of a session other than a stale one, which is renewed if it is still there. -/
def renew (stale : Text) : Attempt State Text := do
  let s ← .state
  let another := s.client.token?.filter (· != stale)
  match another with
  | some token => return token
  | none =>
    let (token, _) ← handshake
    return token

/-- Runs an operation with the token of a session. If the session is rejected it is renewed, once, and the operation
is run again. -/
def withSession {α : Type} (operation : Text → Attempt State α) : Attempt State α := do
  let token ← ensureSession
  match ← (operation token).outcome with
  | .ok v => return v
  | .error (.box e cause) =>
    if e.isAuthRequired then
      match ← (renew token).outcome with
      | .ok fresh => operation fresh
      | .error (.box r behind) =>
        if r.isConfiguration then .fail (.box r behind) else .fail (.box e (some r))
      | .error (.fault f) => .fail (.fault f)
    else .fail (.box e cause)
  | .error (.fault f) => .fail (.fault f)

/-! ## Leaving -/

/-- Closes the session, if there is one. What the box answers does not matter. -/
def logout : Attempt State Unit := do
  let s ← .state
  .update (State.withSession none)
  match s.client.session with
  | none => return ()
  | some session =>
    match ← (perform "POST" "login/logout" (some session.token) {}).outcome with
    | .error (.fault f) => .fail (.fault f)
    | _ => return ()

/-- Closes the session, and the transport if it is the client's own. -/
def close : Attempt State Unit := do
  logout
  .update (fun s => if s.client.ownsTransport then s.did .hangUp else s)

end Freebox
