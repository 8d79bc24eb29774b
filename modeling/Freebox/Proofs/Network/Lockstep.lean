import Freebox.Authorization
import Freebox.Discovery
import Freebox.Proofs.Attempt.Lockstep
import Freebox.Proofs.Network.Asking

/-!
# `Freebox.Proofs.Network.Lockstep` — clients that look the same from outside

To the outside a client is its address, its deadline, its application and the token of its session; everything else that
it sends was given by its caller or by the box. So if a relation between two clients keeps these the same, whatever is
done to the outside is done by both, and they bring the same.

## Contents
- `Client.outward`: a client without what never leaves it as it is.
- `Paced`: attempts that are in step with themselves. `Lockstep`: what a relation has to keep for that.
- `Lockstep.perform`, `Lockstep.openFile`, `Lockstep.startChannel`, `Lockstep.authorize`: requests, files, channels.
-/

namespace Freebox

open Attempt (Keeps InStep inStep_pure inStep_fail inStep_lift inStep_update)

/-! ## What is seen of a client -/

/-- A client without its session and its private token. -/
def Client.outward (c : Client) : Client := { c with session := none, privateToken := none }

namespace State

/-- The other side, and the requests that it has answered so far, are of a sort. -/
def Past (good : Peer → List Request → Prop) (s : State) : Prop := good s.network.peer s.network.requests

/-- The state with another log. -/
def withLog (log : List Effect) (s : State) : State := { s with network := { s.network with log } }

/-- The state some time later. -/
def later (microseconds : Int) (s : State) : State :=
  { s with network := { s.network with now := s.network.now.plus microseconds } }

end State

/-- An attempt is in step with itself, as long as the past is of a sort. -/
abbrev Paced {α : Type} (good : Peer → List Request → Prop) (R : State → State → Prop) (a : Attempt State α) : Prop :=
  InStep (State.Past good) R a a

/-- A relation between two clients on their networks that both of them keep: from outside they look the same, their
sessions have the same token, the other side is the same, and the same was done so far; and it stays so when the same is
done to both. What it may rely on in the past of a client is not regained once it is lost. -/
structure Lockstep (good : Peer → List Request → Prop) (R : State → State → Prop) : Prop where
  earlier : ∀ {peer asked} news, good peer (asked ++ news) → good peer asked
  refl : ∀ s, R s s
  outward : ∀ {s t}, R s t → s.client.outward = t.client.outward
  token : ∀ {s t}, R s t → s.client.token? = t.client.token?
  peer : ∀ {s t}, R s t → s.network.peer = t.network.peer
  log : ∀ {s t}, R s t → s.network.log = t.network.log
  logged : ∀ {s t}, R s t → ∀ log, R (s.withLog log) (t.withLog log)
  later : ∀ {s t}, R s t → ∀ microseconds, R (s.later microseconds) (t.later microseconds)
  dropped : ∀ {s t}, R s t → R (s.withSession none) (t.withSession none)
  counted : ∀ {s t}, R s t → ∀ uploads,
    R { s with client := { s.client with uploads } } { t with client := { t.client with uploads } }
  named : ∀ {s t}, R s t → ∀ appId,
    R { s with client := { s.client with appId } } { t with client := { t.client with appId } }
  keyed : ∀ {s t}, R s t → ∀ privateToken,
    R { s with client := { s.client with privateToken } } { t with client := { t.client with privateToken } }

namespace Lockstep

variable {good : Peer → List Request → Prop} {R : State → State → Prop} (steps : Lockstep good R) {s t : State}
include steps

/-- What is asked for later does not make the past any better. -/
theorem past {news : List Asking} (asks : Asks news s t) (kept : t.Past good) : s.Past good := by
  unfold State.Past at kept ⊢
  rw [asks.peer, State.requests_eq, asks.asked, List.filterMap_append, ← State.requests_eq] at kept
  exact steps.earlier _ kept

/-! ## Requests -/

/-- What can be seen of a client from outside is the same on both sides. -/
theorem seen {β : Type} (look : Client → β) (outside : ∀ c : Client, look c = look c.outward) (related : R s t) :
    look s.client = look t.client := by
  have same : look s.client.outward = look t.client.outward := congrArg look (steps.outward related)
  rwa [← outside, ← outside] at same

theorem timeout (related : R s t) : s.client.timeout = t.client.timeout :=
  steps.seen (fun c => c.timeout) (fun _ => rfl) related

theorem uploads (related : R s t) : s.client.uploads = t.client.uploads :=
  steps.seen (fun c => c.uploads) (fun _ => rfl) related

theorem request (related : R s t) (method : String) (path : Text) (token : Option Text) (parcel : Parcel) :
    s.client.request method path token parcel = t.client.request method path token parcel :=
  steps.seen (fun c => c.request method path token parcel) (fun _ => rfl) related

/-- The same effect on both sides. -/
theorem did (related : R s t) (e : Effect) : R (s.did e) (t.did e) := by
  have after := steps.logged related (s.network.log ++ [e])
  have right : t.did e = t.withLog (s.network.log ++ [e]) := by
    rw [steps.log related]
    rfl
  rw [right]
  exact after

theorem answer (related : R s t) (r : Request) : s.answer r = t.answer r := by
  unfold State.answer Network.requests
  rw [steps.peer related, steps.log related]

theorem transmit (r : Request) : Paced good R (Freebox.transmit r) := by
  refine ⟨fun s => ?lasting, fun s t related _ => ?along⟩
  case lasting =>
    rw [transmit_apply]
    exact steps.past (Asks.of_did (.request r) s)
  case along =>
    rw [transmit_apply, transmit_apply, steps.answer related r]
    exact ⟨rfl, steps.did related (.request r)⟩

theorem exchange (r : Request) : Paced good R (Freebox.exchange r) := by
  unfold Freebox.exchange
  exact (steps.transmit r).bind fun response => inStep_lift _

/-- **One request**: both clients send the same, and are told the same. -/
theorem perform (method : String) (path : Text) (token : Option Text) (parcel : Parcel) :
    Paced good R (Freebox.perform method path token parcel) := by
  unfold Freebox.perform
  refine InStep.bind_state steps.refl fun s t related => ?_
  rw [steps.request related]
  exact (steps.exchange _).bind fun received => inStep_lift _

theorem describe : Paced good R Freebox.describe := by
  unfold Freebox.describe
  refine InStep.bind_state steps.refl fun s t related => ?_
  have same : s.client.describeRequest = t.client.describeRequest :=
    steps.seen (fun c => c.describeRequest) (fun _ => rfl) related
  rw [same]
  exact (steps.exchange _).bind fun received => inStep_lift _

/-! ## Registering -/

theorem sleep (delay : Quantity) : Paced good R (Authorization.sleep delay) := by
  refine inStep_update (fun s t related => ?_) fun s => ?_
  · -- the sleep is logged, and then it is later
    exact steps.later (steps.did related (.sleep delay)) delay.microseconds
  · have asks : Asks [] s { s with network := s.network.sleep delay } := ⟨rfl, rfl, State.did_asked (.sleep delay) s⟩
    exact steps.past asks

theorem trackStatus (trackId : Text) :
    Paced good R (Authorization.trackStatus trackId) := by
  unfold Authorization.trackStatus
  exact (steps.perform _ _ _ _).bind fun envelope => (inStep_lift _).bind fun state => inStep_pure _

theorem poll (trackId : Text) (token : Json) (interval : Quantity) (n : Nat) (last : Json) :
    Paced good R (Authorization.poll trackId token interval n last) := by
  induction n generalizing last with
  | zero => exact inStep_fail _
  | succ n ih =>
    unfold Authorization.poll
    refine (steps.trackStatus trackId).bind fun status => ?_
    by_cases granted : status = Authorization.granted
    · rw [if_pos granted]
      exact inStep_pure token
    · rw [if_neg granted]
      by_cases ended : Authorization.isEnded status = true
      · rw [if_pos ended]
        exact inStep_fail _
      · rw [if_neg ended]
        exact (steps.sleep interval).bind fun _ => ih status

/-- **Registering** asks the same as often, and sleeps as long between. -/
theorem authorize (registration : Resource.Registration) (interval : Quantity) (attempts : Int) :
    Paced good R (Freebox.authorize registration interval attempts) := by
  unfold Freebox.authorize
  refine (steps.perform _ _ _ _).bind fun envelope => ?_
  exact (inStep_lift _).bind fun grant => steps.poll _ _ _ _ _

/-! ## Files -/

theorem openFile (path : String) (token : Text) :
    Paced good R (Freebox.openFile path token) := by
  unfold Freebox.openFile
  refine InStep.bind_state steps.refl fun s t related => ?_
  have same : s.client.fileRequest path token = t.client.fileRequest path token :=
    steps.seen (fun c => c.fileRequest path token) (fun _ => rfl) related
  rw [same]
  refine (steps.transmit _).bind fun response => ?_
  by_cases success : isSuccess response.status = true
  · rw [if_pos success]
    exact inStep_lift _
  · rw [if_neg success]
    refine (inStep_update (fun s t related => ?_) fun s => ?_).bind fun _ => ?_
    · exact steps.did (steps.did related .readBody) .releaseBody
    · exact steps.past ((Asks.of_did .readBody s).trans (Asks.of_did .releaseBody _))
    exact (inStep_lift _).bind fun received => (inStep_lift _).bind fun _ => inStep_lift _

/-! ## Channels -/

theorem openChannel (path : String) (token : Text) :
    Paced good R (Freebox.openChannel path token) := by
  refine ⟨fun s => steps.past (openChannel_asks path token s), fun s t related _ => ?_⟩
  have url : s.client.channelUrl path = t.client.channelUrl path :=
    steps.seen (fun c => c.channelUrl path) (fun _ => rfl) related
  unfold Freebox.openChannel
  rw [url, steps.peer related, steps.log related, steps.timeout related]
  cases t.network.peer.accept (t.network.log.countP Effect.isConnect) with
  | refused e => exact ⟨rfl, steps.did related _⟩
  | accepted inbox failures => exact ⟨rfl, steps.did related _⟩

/-- What happens on a channel is told by the channel and by what was done before. -/
theorem onChannel {α : Type} (channel : Channel) {a : Attempt (Logged Channel) α} (silent : Keeps Channel.Silent a) :
    Paced good R (Freebox.onChannel channel a) := by
  refine ⟨fun s => steps.past (onChannel_asks silent channel s), fun s t related _ => ?_⟩
  unfold Freebox.onChannel
  rw [steps.log related]
  exact ⟨rfl, steps.logged related _⟩

theorem startChannel (path : String) (token : Text) (action : Members) (reply : String) (request : Option Int) :
    Paced good R (Freebox.startChannel path token action reply request) := by
  unfold Freebox.startChannel
  refine (steps.openChannel path token).bind fun channel => ?_
  refine InStep.bind_state steps.refl fun s t related => ?_
  rw [steps.timeout related]
  refine (steps.onChannel channel (Channel.ask_silent _ _ _ _)).bind fun outcome => ?_
  obtain ⟨result, after⟩ := outcome
  cases result with
  | ok ms => exact inStep_pure after
  | error f =>
    cases f with
    | box e cause =>
      refine (inStep_update (fun s t related => ?_) fun s => ?_).bind fun _ => inStep_fail _
      · exact steps.did related after.close
      · exact steps.past (Asks.of_did after.close s)
    | fault f => exact inStep_fail _

theorem beginUpload (start : Resource.UploadStart) (number : Int) (token : Text) :
    Paced good R (Freebox.beginUpload start number token) := by
  unfold Freebox.beginUpload
  refine InStep.bind_state steps.refl fun s t related => ?_
  rw [steps.timeout related]
  exact (steps.startChannel _ _ _ _ _).bind fun channel => inStep_pure _

theorem beginListening (topics : List String) (token : Text) :
    Paced good R (Freebox.beginListening topics token) := by
  unfold Freebox.beginListening
  exact (steps.startChannel _ _ _ _ _).bind fun channel => inStep_pure _

end Lockstep

end Freebox
