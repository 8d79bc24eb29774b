import Freebox.Renewal

/-!
# `Freebox.Socket` — channels opened by a client

A channel is opened under the token of a session. A handshake refused with status 401 or 403 means that the session is
rejected. A channel on which the first action is not answered well is closed.

## Contents
- `openChannel`.
- `startChannel`: a channel opened, and its first action answered.
-/

namespace Freebox

/-- The failure of a channel that did not open. -/
def refusedChannel (url : String) : SocketError → Failure
  | .violation m status =>
    match status with
    | some code =>
      if code = 401 ∨ code = 403 then
        .ofBox (.refusal ⟨.authRequired, .str "auth_required",
          .str ("websocket handshake rejected with status " ++ Whole.text code), .null, some code⟩)
      else .ofBox (.network (.websocket url m))
    | none => .ofBox (.network (.websocket url m))
  | e => Channel.failureOf (.websocket url) e

/-- Opens a channel under a token. Channels are numbered from one as they open. -/
def openChannel (path : String) (token : Text) : Attempt State Channel := fun s =>
  let url := s.client.channelUrl path
  let asked := fun number => s.did (.connect url [(authHeader, token)] s.client.timeout number)
  match s.network.peer.accept (s.network.log.countP Effect.isConnect) with
  | .refused e => (.error (refusedChannel url e), asked none)
  | .accepted inbox failures =>
    let number := s.network.log.countP Effect.isOpened + 1
    (.ok { number, inbox, failures }, asked (some number))

/-- Runs an attempt on a channel: the value, and the channel afterwards. -/
def onChannel {α : Type} (channel : Channel) (a : Attempt (Logged Channel) α) :
    Attempt State (Except Failure α × Channel) :=
  fun s =>
    let (result, after) := a ⟨channel, s.network.log⟩
    (.ok (result, after.value), { s with network := { s.network with log := after.log } })

/-- Sends an action and waits for the reply to it. -/
def ask (action : Members) (reply : String) (request : Option Int) (within : Quantity) :
    Attempt (Logged Channel) Members := do
  Channel.sendAction action
  Channel.awaitReply reply request within

/-- Opens a channel, sends a first action and waits for its reply. After an error of the box the channel is closed. -/
def startChannel (path : String) (token : Text) (action : Members) (reply : String) (request : Option Int) :
    Attempt State Channel := do
  let channel ← openChannel path token
  let s ← .state
  let (result, after) ← onChannel channel (ask action reply request s.client.timeout)
  match result with
  | .ok _ => return after
  | .error (.box e cause) => do
    .update (State.did after.close)
    .fail (.box e cause)
  | .error (.fault f) => .fail (.fault f)

end Freebox
