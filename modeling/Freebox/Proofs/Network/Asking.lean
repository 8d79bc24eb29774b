import Freebox.EventStream
import Freebox.FileContent
import Freebox.Proofs.Attempt.Guarantee
import Freebox.Upload

/-!
# `Freebox.Proofs.Network.Asking` — what a client asks for

Of the effects of a client two kinds ask something of the box: requests, and openings of channels. They are the ones
that carry the token of a session. Everything else, such as frames, bodies and sleeps, follows upon one of them.

## Contents
- `Asking`, `State.asked`: what was asked for, in order, without what came of it.
- `Asks`: a stretch of a run on which the client stays as it is and asks for certain things.
- `perform_apply`: one request, with its reply and the state afterwards.
- `openFile_asks`, `startChannel_asks`: files and channels ask exactly once.
-/

namespace Freebox

/-! ## Askings -/

/-- What a client asks for: the reply to a request, or a channel. -/
inductive Asking where
  | request (r : Request)
  | channel (url : String) (headers : List (String × Text)) (timeout : Quantity)
  deriving DecidableEq, Repr

namespace Asking

/-- The address that is asked. -/
def url : Asking → Text
  | request r => r.url
  | channel url _ _ => url

/-- The headers that are sent along. -/
def headers : Asking → List (String × Text)
  | request r => r.headers
  | channel _ headers _ => headers

/-- The tokens that are shown. -/
def tokens (a : Asking) : List Text := (a.headers.filter (·.1 = authHeader)).map (·.2)

/-- The same without the token that is shown. -/
def bare : Asking → Asking
  | request r => request { r with headers := r.headers.filter (·.1 ≠ authHeader) }
  | channel url headers timeout => channel url (headers.filter (·.1 ≠ authHeader)) timeout

/-- The request that is made. -/
def request? : Asking → Option Request
  | request r => some r
  | channel _ _ _ => none

end Asking

/-- What an effect asks for. -/
def Effect.asking? : Effect → Option Asking
  | request r => some (.request r)
  | connect url headers timeout _ => some (.channel url headers timeout)
  | _ => none

/-- What was asked for so far. -/
def State.asked (s : State) : List Asking := s.network.log.filterMap Effect.asking?

/-! ## States after an effect -/

namespace State

@[simp] theorem did_asked (e : Effect) (s : State) : (s.did e).asked = s.asked ++ e.asking?.toList := by
  cases h : e.asking? <;> simp [asked, did, Network.did, h]

@[simp] theorem withSession_session (x : Option Session) (s : State) : (s.withSession x).client.session = x := rfl
@[simp] theorem withSession_asked (x : Option Session) (s : State) : (s.withSession x).asked = s.asked := rfl

/-- The requests made so far are among what was asked for. -/
theorem requests_eq (s : State) : s.network.requests = s.asked.filterMap Asking.request? := by
  simp only [Network.requests, asked, List.filterMap_filterMap]
  congr 1
  funext e
  cases e <;> rfl

end State

/-! ## Stretches of a run -/

/-- Between two states the client stays as it is and asks for certain things, of one and the same other side. -/
structure Asks (news : List Asking) (s t : State) : Prop where
  client : t.client = s.client
  peer : t.network.peer = s.network.peer
  asked : t.asked = s.asked ++ news

namespace Asks

variable {s t u : State} {first second : List Asking}

theorem trans (h : Asks first s t) (k : Asks second t u) : Asks (first ++ second) s u where
  client := k.client.trans h.client
  peer := k.peer.trans h.peer
  asked := by rw [k.asked, h.asked, List.append_assoc]

theorem of_did (e : Effect) (s : State) : Asks e.asking?.toList s (s.did e) :=
  ⟨rfl, rfl, State.did_asked e s⟩

instance : Std.Refl (Asks []) := ⟨fun _ => ⟨rfl, rfl, (List.append_nil _).symm⟩⟩

instance : IsTrans State (Asks []) := ⟨fun _ _ _ => Asks.trans⟩

/-- What asks for nothing may follow. -/
theorem quietly (h : Asks first s t) (k : Asks [] t u) : Asks first s u := by
  have both := h.trans k
  rwa [List.append_nil] at both

end Asks

/-! ## Requests -/

/-- The reply that a request meets with at a state. -/
def State.answer (s : State) (r : Request) : Reply := s.network.peer.reply s.network.requests r

/-- The head of a reply. -/
def Reply.head (r : Request) : Reply → Except Failure Response
  | failed e => .error (r.failed e)
  | received response => .ok response

/-- A reply that is read to its end. -/
def Reply.whole (r : Request) : Reply → Except Failure Received
  | failed e => .error (r.failed e)
  | received response => response.whole.mapError r.failed

/-- The envelope in a reply. -/
def Reply.envelope (r : Request) (reply : Reply) : Except Failure Envelope := (reply.whole r).bind Received.envelope

theorem transmit_apply (r : Request) (s : State) : transmit r s = ((s.answer r).head r, s.did (.request r)) := by
  cases h : s.answer r <;>
    (simp only [State.answer] at h; simp only [transmit, Network.send, h]; rfl)

theorem exchange_apply (r : Request) (s : State) : exchange r s = ((s.answer r).whole r, s.did (.request r)) := by
  rw [exchange, Attempt.bind_lift, transmit_apply]
  cases s.answer r <;> rfl

/-- **One request.** It is sent once, whatever its reply, and its envelope is the one in the reply. -/
theorem perform_apply (method : String) (path : Text) (token : Option Text) (parcel : Parcel) (s : State) :
    perform method path token parcel s
      = ((s.answer (s.client.request method path token parcel)).envelope (s.client.request method path token parcel),
        s.did (.request (s.client.request method path token parcel))) := by
  have start : perform method path token parcel s
      = (exchange (s.client.request method path token parcel) >>= fun received =>
          Attempt.lift received.envelope) s := rfl
  rw [start, Attempt.bind_lift, exchange_apply]
  rfl

theorem perform_asks (method : String) (path : Text) (token : Option Text) (parcel : Parcel) (s : State) :
    Asks [.request (s.client.request method path token parcel)] s (perform method path token parcel s).2 := by
  rw [perform_apply]
  exact Asks.of_did (.request _) s

/-! ## Files -/

/-- A file asks once: for its content. -/
theorem openFile_asks (path : String) (token : Text) (s : State) :
    Asks [.request (s.client.fileRequest path token)] s (openFile path token s).2 := by
  have sent : Asks [.request (s.client.fileRequest path token)] s (transmit (s.client.fileRequest path token) s).2 := by
    rw [transmit_apply]
    exact Asks.of_did (.request _) s
  refine sent.quietly (Attempt.Keeps.bind_tail (R := Asks []) (fun response => ?_) _ s)
  by_cases h : isSuccess response.status
  · simp only [h, if_true]
    exact Attempt.keeps_lift _
  · -- the body of an error is read and released before it is looked at
    simp only [h]
    refine Attempt.Keeps.bind (Attempt.keeps_update fun t => ?_) fun _ =>
      Attempt.Keeps.bind (Attempt.keeps_lift _) fun _ =>
      Attempt.Keeps.bind (Attempt.keeps_lift _) fun _ => Attempt.keeps_lift _
    exact ⟨rfl, rfl, by simp [Effect.asking?]⟩

/-! ## Channels -/

namespace Channel

/-- What happens on an open channel asks for nothing. -/
def Silent {α : Type} (c d : Logged α) : Prop :=
  d.log.filterMap Effect.asking? = c.log.filterMap Effect.asking?

variable {α : Type}

instance : Std.Refl (Silent (α := α)) := ⟨fun _ => rfl⟩

instance : IsTrans (Logged α) Silent := ⟨fun _ _ _ h k => k.trans h⟩

theorem transmit_silent (frame : Raw) (c : Logged Channel) : Silent c (transmit frame c).2 := by
  unfold transmit
  cases c.value.failures.lookup (c.value.sends + 1) <;> simp [Silent, Effect.asking?]

theorem sendAction_silent (action : Members) : Attempt.Keeps Silent (sendAction action) := by
  intro c
  have sent := transmit_silent (.text (Json.obj action).line) c
  unfold sendAction
  cases h : transmit (.text (Json.obj action).line) c with
  | mk result d =>
    rw [h] at sent
    cases result <;> exact sent

theorem awaitReply_silent (action : String) (request : Option Int) (within : Quantity) :
    Attempt.Keeps Silent (awaitReply action request within) := fun _ => rfl

theorem ask_silent (action : Members) (reply : String) (request : Option Int) (within : Quantity) :
    Attempt.Keeps Silent (ask action reply request within) :=
  (sendAction_silent action).bind fun _ => awaitReply_silent reply request within

end Channel

/-- An attempt on a channel that asks for nothing there asks for nothing at all. -/
theorem onChannel_asks {α : Type} {a : Attempt (Logged Channel) α} (h : Attempt.Keeps Channel.Silent a)
    (channel : Channel) : Attempt.Keeps (Asks []) (onChannel channel a) := by
  intro s
  refine ⟨rfl, rfl, ?_⟩
  rw [List.append_nil]
  exact h ⟨channel, s.network.log⟩

theorem openChannel_asks (path : String) (token : Text) (s : State) :
    Asks [.channel (s.client.channelUrl path) [(authHeader, token)] s.client.timeout] s
      (openChannel path token s).2 := by
  unfold openChannel
  cases s.network.peer.accept (s.network.log.countP Effect.isConnect) <;>
    exact Asks.of_did (.connect _ _ _ _) s

/-- A channel asks once: to be opened. Its first action, the reply to it and its closing ask for nothing. -/
theorem startChannel_asks (path : String) (token : Text) (action : Members) (reply : String) (request : Option Int)
    (s : State) :
    Asks [.channel (s.client.channelUrl path) [(authHeader, token)] s.client.timeout] s
      (startChannel path token action reply request s).2 := by
  refine (openChannel_asks path token s).quietly (Attempt.Keeps.bind_tail (R := Asks []) (fun channel => ?_) _ s)
  refine Attempt.keeps_state.bind fun t => ?_
  refine (onChannel_asks (Channel.ask_silent action reply request t.client.timeout) channel).bind fun outcome => ?_
  obtain ⟨result, after⟩ := outcome
  cases result with
  | ok ms => exact Attempt.keeps_pure _
  | error f =>
    cases f with
    | box e cause =>
      refine Attempt.Keeps.bind (Attempt.keeps_update fun u => ?_) fun _ => Attempt.keeps_fail _
      exact Asks.of_did (.close _) u
    | fault f => exact Attempt.keeps_fail _

end Freebox
