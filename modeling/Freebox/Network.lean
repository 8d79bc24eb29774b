import Freebox.Attempt
import Freebox.Json.Encoding
import Freebox.Number.Quantity
import Freebox.Time

/-!
# `Freebox.Network` — the world outside a client

A client reaches the outside by few effects: it sends requests, opens channels and sends frames on them, reads and
releases bodies, and sleeps. All of them are logged in order. What the outside answers is told by a peer: the reply to
a request may depend on the requests before it, and channels are granted or refused in the order of asking.

## Contents
- `Request`, `Reply`, `Response`: the exchange of messages over HTTP.
- `SocketError`, `Incoming`, `Opening`: what channels do.
- `Effect`: what is logged. `Peer`, `Network`: the other side, the clock and the log.
-/

namespace Freebox

/-! ## Requests and replies -/

/-- A request. A null payload is no payload. -/
structure Request where
  method : String
  url : Text
  headers : List (String × Text)
  timeout : Quantity
  payload : Json := .null
  form : Option Members := none
  deriving DecidableEq, Repr

/-- A failure of the transport: a deadline missed, or anything else. -/
structure TransportError where
  timedOut : Bool
  message : String
  deriving DecidableEq, Repr

/-- The head of a reply and its body in chunks, after which the transport may fail. -/
structure Response where
  status : Int
  headers : List (String × String) := []
  chunks : List Bytes
  broken : Option TransportError := none
  deriving DecidableEq, Repr

/-- What a request meets with. -/
inductive Reply where
  | failed (e : TransportError)
  | received (r : Response)
  deriving DecidableEq, Repr

/-- A status that tells success. -/
def isSuccess (status : Int) : Bool := 200 ≤ status && status ≤ 299

/-- A reply whose body was read whole. -/
structure Received where
  status : Int
  headers : List (String × String)
  body : Bytes
  deriving DecidableEq, Repr

/-! ## Channels -/

/-- Why a channel did not open, send or receive. -/
inductive SocketError where
  | closedNormally
  | closedAbruptly
  /-- The protocol was violated; a handshake may have been refused with a status. -/
  | violation (message : String) (status : Option Int)
  | system (message : String)
  | timeout (message : String)
  /-- Anything that is no error of a channel. -/
  | foreign (message : String)
  deriving DecidableEq, Repr

/-- The wording of a channel's error. -/
def SocketError.reason : SocketError → String
  | closedNormally | closedAbruptly => "no close frame received or sent"
  | violation m _ | system m | timeout m | foreign m => m

/-- What a channel receives. -/
inductive Incoming where
  | message (m : Raw)
  | failure (e : SocketError)
  deriving DecidableEq, Repr

/-- What an attempt to open a channel meets with: an error, or the messages to come and the sends that fail, by
their number from one. -/
inductive Opening where
  | refused (e : SocketError)
  | accepted (inbox : List Incoming) (failures : List (Nat × SocketError))
  deriving DecidableEq, Repr

/-! ## Effects -/

/-- What a client does to the outside. -/
inductive Effect where
  | request (r : Request)
  /-- The body of a streamed reply is read whole. -/
  | readBody
  /-- A streamed reply is released. -/
  | releaseBody
  /-- A channel is asked for; its number if it opened. -/
  | connect (url : String) (headers : List (String × Text)) (timeout : Quantity) (channel : Option Nat)
  /-- A frame is handed to a channel. -/
  | send (channel : Nat) (frame : Raw) (delivered : Bool)
  | close (channel : Nat)
  | sleep (delay : Quantity)
  /-- The transport of requests is closed. -/
  | hangUp
  deriving DecidableEq, Repr

/-- The other side: replies by the requests made before, channels by the number of those asked for before. -/
structure Peer where
  reply : List Request → Request → Reply
  accept : Nat → Opening

/-- The other side, the clock, and what was done so far. -/
structure Network where
  peer : Peer
  now : Instant
  log : List Effect := []

/-- The request that an effect is. -/
def Effect.request? : Effect → Option Request
  | request r => some r
  | _ => none

/-- Whether an effect asks for a channel. -/
def Effect.isConnect : Effect → Bool
  | connect _ _ _ _ => true
  | _ => false

/-- Whether an effect opened a channel. -/
def Effect.isOpened : Effect → Bool
  | connect _ _ _ (some _) => true
  | _ => false

namespace Network

/-- The requests made so far. -/
def requests (n : Network) : List Request := n.log.filterMap Effect.request?

/-- The network after one more effect. -/
def did (n : Network) (e : Effect) : Network := { n with log := n.log ++ [e] }

/-- Sends a request: what it meets with, and the network afterwards. -/
def send (n : Network) (r : Request) : Reply × Network := (n.peer.reply n.requests r, n.did (.request r))

/-- Sleeps: the clock moves on. -/
def sleep (n : Network) (delay : Quantity) : Network :=
  { n.did (.sleep delay) with now := n.now.plus delay.microseconds }

end Network

end Freebox
