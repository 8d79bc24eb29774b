import Freebox.Resource.Event
import Freebox.Socket

/-!
# `Freebox.EventStream` — notifications as they arrive

Notifications are taken one by one from a channel on which their kinds were registered. Other messages are passed over.
A message that is refused or malformed is told and used up; the stream goes on behind it. The stream ends when the
channel is closed.

## Contents
- `EventStream`, with `EventStream.next`, `EventStream.close` and `EventStream.drain`.
- `listen`: a stream of some kinds of notification.
-/

namespace Freebox

/-- Notifications to come. -/
structure EventStream where
  channel : Channel
  closed : Bool := false
  deriving DecidableEq, Repr

namespace EventStream

/-- The notification in a message that reports success. -/
def notification (ms : Members) : Except Failure Record :=
  match Resource.event.ofMembers ms with
  | .error (.fault (.missingMember name)) => .error (.ofDecoding (.notification name))
  | r => r

/-- What is found among the messages to come: a notification, a failure, or the end. -/
inductive Found where
  | event (r : Record)
  | failure (e : Failure)
  /-- The channel was closed or failed: with a failure, or normally. -/
  | ended (e : Option Failure)
  deriving DecidableEq, Repr

/-- What an error of the channel means. -/
def interrupted : SocketError → Found
  | .closedNormally => .ended none
  | .foreign m => .failure (.fault (.foreign m))
  | e => .ended (some (.ofBox (.network (.eventStream e.reason))))

/-- The first thing of interest among the messages to come, and those after it. -/
def scan : List Incoming → Found × List Incoming
  | [] => (.ended none, [])
  | .failure e :: rest => (interrupted e, rest)
  | .message m :: rest =>
    match Channel.decodeMessage m with
    | .error e => (.failure (.ofDecoding e), rest)
    | .ok ms =>
      if Channel.isReply "notification" none ms then
        match Channel.accepted ms with
        | .error e => (.failure e, rest)
        | .ok _ =>
          match notification ms with
          | .error e => (.failure e, rest)
          | .ok r => (.event r, rest)
      else scan rest

/-- The next notification, none at the end. -/
def next : Attempt (Logged EventStream) (Option Record) := fun s =>
  if s.value.closed then (.ok none, s)
  else
    let (found, rest) := scan s.value.channel.inbox
    let going : EventStream := { s.value with channel := { s.value.channel with inbox := rest } }
    let ended : EventStream := { going with closed := true }
    match found with
    | .event r => (.ok (some r), { s with value := going })
    | .failure e => (.error e, { s with value := going })
    | .ended none => (.ok none, { s with value := ended })
    | .ended (some e) => (.error e, { s with value := ended })

/-- Stops listening and closes the channel, unless the stream has ended. -/
def close : Attempt (Logged EventStream) Unit := .update (fun s =>
  if s.value.closed then s
  else ⟨{ s.value with closed := true }, s.log ++ [s.value.channel.close]⟩)

/-- The notifications up to the end, a number of them at most. -/
def collect : Nat → Attempt (Logged EventStream) (List Record)
  | 0 => return []
  | n + 1 => do
    match ← next with
    | none => return []
    | some r =>
      let rs ← collect n
      return r :: rs

/-- All notifications up to the end; the stream is closed afterwards, also after a failure. -/
def drain : Attempt (Logged EventStream) (List Record) := do
  let s ← .state
  let result ← (collect (s.value.channel.inbox.length + 1)).outcome
  close
  .lift result

end EventStream

/-- The action that registers kinds of notification. -/
def EventStream.registration (topics : List String) : Members :=
  [("action", .str "register"), ("events", .ofStrings topics)]

/-- Registers kinds of notification under a token. -/
def beginListening (topics : List String) (token : Text) : Attempt State EventStream := do
  let channel ← startChannel "ws/event" token (EventStream.registration topics) "register" none
  return { channel }

/-- Listens to kinds of notification; there has to be one at least. -/
def listen (events : List Resource.EventDescription) : Attempt State EventStream :=
  if events = [] then .fail (.fault .noEvents)
  else withSession (beginListening (events.map (·.topic)))

end Freebox
