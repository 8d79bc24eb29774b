import Freebox.Envelope
import Freebox.Json.Writer
import Freebox.Network

/-!
# `Freebox.Channel` — actions and replies over a channel

A channel carries frames both ways. Actions are sent as JSON objects; the reply to an action is the first message of
that action and, if one is asked for, of that request. Other messages are passed over.

## Contents
- `Channel`, and `Logged`: a value beside the effects so far.
- `Channel.transmit`, `Channel.close`: the effects of a channel.
- `Channel.sendAction`; `Channel.decodeMessage`, `Channel.awaitReply`.
-/

namespace Freebox

/-- An open channel: its number, the messages to come, and the sends that fail, by their number from one. -/
structure Channel where
  number : Nat
  inbox : List Incoming
  failures : List (Nat × SocketError) := []
  sends : Nat := 0
  deriving DecidableEq, Repr

/-- A value beside the effects so far. -/
structure Logged (α : Type) where
  value : α
  log : List Effect

namespace Channel

/-! ## Effects -/

/-- Hands a frame to a channel. -/
def transmit (frame : Raw) (c : Logged Channel) : Except SocketError Unit × Logged Channel :=
  let sent := { c.value with sends := c.value.sends + 1 }
  match c.value.failures.lookup (c.value.sends + 1) with
  | none => (.ok (), ⟨sent, c.log ++ [.send c.value.number frame true]⟩)
  | some e => (.error e, ⟨sent, c.log ++ [.send c.value.number frame false]⟩)

/-- Closes a channel. -/
def close (c : Channel) : Effect := .close c.number

/-! ## Actions -/

/-- The failure that an error of a channel is: one of the network, unless it is no error of a channel. -/
def failureOf (wording : String → NetworkError) : SocketError → Failure
  | .foreign m => .fault (.foreign m)
  | e => .ofBox (.network (wording e.reason))

/-- Sends an action as a JSON object on one line. -/
def sendAction (action : Members) : Attempt (Logged Channel) Unit := fun c =>
  match transmit (.text (Json.obj action).line) c with
  | (.ok (), d) => (.ok (), d)
  | (.error e, d) => (.error (failureOf (.action (action.get "action")) e), d)

/-! ## Replies -/

/-- The object that a message holds. -/
def decodeMessage (m : Raw) : Except DecodingError Members :=
  match Json.read m with
  | .error e => .error (.frame m e)
  | .ok (.obj ms) => .ok ms
  | .ok v => .error (.messageKind v.kind)

/-- A message that reports success, or the refusal that it is. -/
def accepted (ms : Members) : Except Failure Members :=
  if (Envelope.ofMembers ms).success then .ok ms else .error ((Envelope.ofMembers ms).refused none)

/-- Whether a message answers an action, of a request if one is given. -/
def isReply (action : String) (request : Option Int) (ms : Members) : Bool :=
  ms.get "action" = .str action && (match request with
    | none => true
    | some n => (ms.get "request_id").isNumber n)

/-- The failure of waiting for a reply. -/
def lost (action : String) (within : Quantity) : SocketError → Failure
  | .timeout _ => .ofBox (.network (.noReply action within))
  | e => failureOf (.connectionLost action) e

/-- The reply to an action among the messages to come, and those after it. A channel without more messages has been
closed normally. -/
def findReply (action : String) (request : Option Int) (within : Quantity) :
    List Incoming → Except Failure Members × List Incoming
  | [] => (.error (lost action within .closedNormally), [])
  | .failure e :: rest => (.error (lost action within e), rest)
  | .message m :: rest =>
    match decodeMessage m with
    | .error e => (.error (.ofDecoding e), rest)
    | .ok ms =>
      if isReply action request ms then (accepted ms, rest) else findReply action request within rest

/-- Waits for the reply to an action. -/
def awaitReply (action : String) (request : Option Int) (within : Quantity) : Attempt (Logged Channel) Members :=
  fun c =>
    let (result, rest) := findReply action request within c.value.inbox
    (result, { c with value := { c.value with inbox := rest } })

end Channel

end Freebox
