import Freebox.Proofs.Channel.Action
import Freebox.Proofs.Session.Renewal

/-!
# `Freebox.Proofs.Channel.Release` — channels that are opened are closed

To start an upload or a stream opens a channel, and a second one after a renewal. The channel of a handle stays open.
Every other channel is closed once, unless its first action ended in a fault: then nobody closes it.

## Contents
- `State.opened`, `State.closed`, `State.sought`: the channels of a run.
- `SameChannels`, `handshake_channels`: what does not touch channels.
- `Leaves`, `Balanced`: a channel left open, and channels that are all closed.
- `FirstAskFaulted`: a channel was opened whose first action ends in a fault.
- `startChannel_attempted`: one attempt. `withSession_balanced`, `withSession_releases`: all attempts of an operation.
- `started_releases`: uploads and streams, from every state.
-/

namespace Freebox

open Attempt (Keeps)

/-! ## The channels of a run -/

/-- The channel that an effect opens. -/
def Effect.opened? : Effect → Option Nat
  | connect _ _ _ number => number
  | _ => none

/-- The channel that an effect closes. -/
def Effect.closed? : Effect → Option Nat
  | close number => some number
  | _ => none

namespace State

/-- The channels opened so far, in order. -/
def opened (s : State) : List Nat := s.network.log.filterMap Effect.opened?

/-- The channels closed so far, in order, each as often as it was closed. -/
def closed (s : State) : List Nat := s.network.log.filterMap Effect.closed?

/-- How many channels were asked for so far. -/
def sought (s : State) : Nat := s.network.log.countP Effect.isConnect

/-- The state once a channel was asked for. -/
def connected (s : State) (path : String) (token : Text) (number : Option Nat) : State :=
  s.did (.connect (s.client.channelUrl path) [(authHeader, token)] s.client.timeout number)

/-- Channels are numbered as they open. -/
theorem countP_isOpened (s : State) : s.network.log.countP Effect.isOpened = s.opened.length := by
  rw [opened, List.length_filterMap_eq_countP]
  congr 1
  funext e
  cases e with
  | connect url headers timeout number => cases number <;> rfl
  | _ => rfl

end State

/-! ## What does not touch channels -/

/-- Between two states no channel is asked for or closed. -/
structure SameChannels (s t : State) : Prop where
  peer : t.network.peer = s.network.peer
  opened : t.opened = s.opened
  closed : t.closed = s.closed
  sought : t.sought = s.sought

namespace SameChannels

instance : Std.Refl SameChannels := ⟨fun _ => ⟨rfl, rfl, rfl, rfl⟩⟩

instance : IsTrans State SameChannels := ⟨fun _ _ _ h k =>
  ⟨k.peer.trans h.peer, k.opened.trans h.opened, k.closed.trans h.closed, k.sought.trans h.sought⟩⟩

theorem request (r : Request) (s : State) : SameChannels s (s.did (.request r)) where
  peer := rfl
  opened := by simp [State.opened, State.did, Network.did, Effect.opened?]
  closed := by simp [State.closed, State.did, Network.did, Effect.closed?]
  sought := by simp [State.sought, State.did, Network.did, Effect.isConnect]

/-- Handing frames over touches no channel. -/
theorem handed (c : Channel) (frames : List Raw) (s : State) :
    SameChannels s { s with network := { s.network with log := s.network.log ++ c.handed frames } } := by
  have silent : (c.handed frames).filterMap Effect.opened? = [] ∧ (c.handed frames).filterMap Effect.closed? = [] ∧
      (c.handed frames).countP Effect.isConnect = 0 := by
    induction frames generalizing c with
    | nil => exact ⟨rfl, rfl, rfl⟩
    | cons frame rest ih => simpa [Channel.handed, Effect.opened?, Effect.closed?, Effect.isConnect] using ih c.next
  obtain ⟨opened, closed, sought⟩ := silent
  exact {
    peer := rfl
    opened := by simp [State.opened, opened]
    closed := by simp [State.closed, closed]
    sought := by simp [State.sought, sought] }

end SameChannels

/-- **A handshake** touches no channel. -/
theorem handshake_channels : Keeps SameChannels handshake :=
  handshake_keeps SameChannels.request fun _ _ => ⟨rfl, rfl, rfl, rfl⟩

/-! ## Openings -/

/-- The first action on a channel that opens like this ends in a fault. -/
def Opening.AskEndsInFault (reply : String) (request : Option Int) : Opening → Prop
  | refused _ => False
  | accepted inbox failures => Channel.AskEndsInFault reply request { number := 0, inbox, failures }

section
variable (reply : String) (request : Option Int)

/-- Between two states a channel was opened whose first action ends in a fault. -/
def FirstAskFaulted (s t : State) : Prop :=
  ∃ i, s.sought ≤ i ∧ i < t.sought ∧ (s.network.peer.accept i).AskEndsInFault reply request

/-- Between two states some channels were opened, and each of them was closed once. None was opened whose first action
ends in a fault. -/
structure Balanced (s t : State) : Prop where
  peer : t.network.peer = s.network.peer
  sought : s.sought ≤ t.sought
  channels : ∃ n, t.opened = s.opened ++ List.range' (s.opened.length + 1) n ∧
    t.closed = s.closed ++ List.range' (s.opened.length + 1) n
  sound : ¬ FirstAskFaulted reply request s t

/-- Between two states one channel was asked for and opened, and it is still open. -/
structure Leaves (number : Nat) (s t : State) : Prop where
  peer : t.network.peer = s.network.peer
  sought : t.sought = s.sought + 1
  opened : t.opened = s.opened ++ [number]
  closed : t.closed = s.closed
  fresh : number = s.opened.length + 1

/-- One attempt: the channel of a handle is left open, and after an error of the box none is. A fault leaves one open if
it is that of a first action. -/
def Attempted {α : Type} (channel : α → Channel) (s : State) (told : Except Failure α × State) : Prop :=
  match told.1 with
  | .ok v => Leaves (channel v).number s told.2
  | .error (.box _ _) => Balanced reply request s told.2
  | .error (.fault _) =>
    Balanced reply request s told.2 ∨ ((∃ number, Leaves number s told.2) ∧ FirstAskFaulted reply request s told.2)

/-- **Channels are released.** The channels opened between two states are all different ones. If a handle is told, all
of them but the last one are closed once, and the last one is that of the handle. If a failure is told, all of them are
closed once, unless the first action of one ends in a fault: that one is the last one, and it is not closed. -/
def Releases {α : Type} (channel : α → Channel) (s : State) (told : Except Failure α × State) : Prop :=
  ∃ opened, told.2.opened = s.opened ++ opened ∧ opened.Nodup ∧
    match told.1 with
    | .ok v => ∃ others, opened = others ++ [(channel v).number] ∧ told.2.closed = s.closed ++ others
    | .error _ =>
      (¬ FirstAskFaulted reply request s told.2 → told.2.closed = s.closed ++ opened) ∧
        (FirstAskFaulted reply request s told.2 → ∃ others last, opened = others ++ [last] ∧
          told.2.closed = s.closed ++ others)

end

section
variable {reply : String} {request : Option Int} {s t u : State}

theorem firstAskFaulted_iff (one : t.sought = s.sought + 1) :
    FirstAskFaulted reply request s t ↔ (s.network.peer.accept s.sought).AskEndsInFault reply request := by
  constructor
  · rintro ⟨i, least, most, faulty⟩
    obtain rfl : i = s.sought := by omega
    exact faulty
  · exact fun faulty => ⟨s.sought, Nat.le_refl _, by omega, faulty⟩

namespace Leaves

variable {number : Nat}

theorem connected (path : String) (token : Text) (s : State) :
    Leaves (s.opened.length + 1) s (s.connected path token (some (s.opened.length + 1))) where
  peer := rfl
  sought := by simp [State.connected, State.sought, State.did, Network.did, Effect.isConnect]
  opened := by simp [State.connected, State.opened, State.did, Network.did, Effect.opened?]
  closed := by simp [State.connected, State.closed, State.did, Network.did, Effect.closed?]
  fresh := rfl

theorem same (h : Leaves number s t) (k : SameChannels t u) : Leaves number s u where
  peer := k.peer.trans h.peer
  sought := k.sought.trans h.sought
  opened := k.opened.trans h.opened
  closed := k.closed.trans h.closed
  fresh := h.fresh

/-- A channel left open is closed. -/
theorem close (h : Leaves number s t) (sound : ¬ FirstAskFaulted reply request s t) :
    Balanced reply request s (t.did (.close number)) := by
  have opened : (t.did (.close number)).opened = t.opened := by
    simp [State.opened, State.did, Network.did, Effect.opened?]
  have closed : (t.did (.close number)).closed = t.closed ++ [number] := by
    simp [State.closed, State.did, Network.did, Effect.closed?]
  have sought : (t.did (.close number)).sought = t.sought := by
    simp [State.sought, State.did, Network.did, Effect.isConnect]
  refine ⟨h.peer, by rw [sought, h.sought]; omega, ⟨1, ?_, ?_⟩, ?_⟩
  · rw [opened, h.opened, h.fresh]
    rfl
  · rw [closed, h.closed, h.fresh]
    rfl
  · rw [firstAskFaulted_iff (sought.trans h.sought)]
    rwa [firstAskFaulted_iff h.sought] at sound

end Leaves

namespace Balanced

/-- Nobody closes a channel that did not open. -/
theorem unopened {e : SocketError} (refused : s.network.peer.accept s.sought = .refused e) (path : String)
    (token : Text) : Balanced reply request s (s.connected path token none) := by
  have one : (s.connected path token none).sought = s.sought + 1 := by
    simp [State.connected, State.sought, State.did, Network.did, Effect.isConnect]
  refine ⟨rfl, by omega, ⟨0, ?_, ?_⟩, ?_⟩
  · simp [State.connected, State.opened, State.did, Network.did, Effect.opened?]
  · simp [State.connected, State.closed, State.did, Network.did, Effect.closed?]
  · rw [firstAskFaulted_iff one, refused]
    exact id

theorem of_same (h : SameChannels s t) : Balanced reply request s t where
  peer := h.peer
  sought := Nat.le_of_eq h.sought.symm
  channels := ⟨0, by simpa using h.opened, by simpa using h.closed⟩
  sound := by
    rintro ⟨i, least, most, -⟩
    rw [h.sought] at most
    omega

theorem trans (h : Balanced reply request s t) (k : Balanced reply request t u) : Balanced reply request s u where
  peer := k.peer.trans h.peer
  sought := Nat.le_trans h.sought k.sought
  channels := by
    obtain ⟨m, opened, closed⟩ := h.channels
    obtain ⟨n, opened_then, closed_then⟩ := k.channels
    -- the second channels are numbered on from the first ones
    have onward : t.opened.length + 1 = s.opened.length + 1 + 1 * m := by
      rw [opened, List.length_append, List.length_range']
      omega
    rw [onward] at opened_then closed_then
    refine ⟨m + n, ?_, ?_⟩
    · rw [opened_then, opened, List.append_assoc, List.range'_append]
    · rw [closed_then, closed, List.append_assoc, List.range'_append]
  sound := by
    rintro ⟨i, least, most, faulty⟩
    by_cases early : i < t.sought
    · exact h.sound ⟨i, least, early, faulty⟩
    · exact k.sound ⟨i, by omega, most, by rw [h.peer]; exact faulty⟩

/-- A failure behind balanced channels releases them. -/
theorem releases {α : Type} {channel : α → Channel} {f : Failure} (h : Balanced reply request s t) :
    Releases reply request channel s (.error f, t) := by
  obtain ⟨n, opened, closed⟩ := h.channels
  exact ⟨_, opened, List.nodup_range' _, fun _ => closed, fun faulted => absurd faulted h.sound⟩

/-- One attempt behind balanced channels releases them all. -/
theorem attempted {α : Type} {channel : α → Channel} {told : Except Failure α × State}
    (h : Balanced reply request s t) (k : Attempted reply request channel t told) :
    Releases reply request channel s told := by
  obtain ⟨n, opened, closed⟩ := h.channels
  -- one more channel is numbered next
  have leaving {number : Nat} {v : State} (left : Leaves number t v) :
      v.opened = s.opened ++ (List.range' (s.opened.length + 1) n ++ [number]) ∧
        (List.range' (s.opened.length + 1) n ++ [number]).Nodup ∧
        v.closed = s.closed ++ List.range' (s.opened.length + 1) n := by
    have next : number = s.opened.length + 1 + n := by
      rw [left.fresh, opened, List.length_append, List.length_range']
      omega
    refine ⟨by rw [left.opened, opened, List.append_assoc], ?_, by rw [left.closed, closed]⟩
    rw [next, ← List.range'_1_concat]
    exact List.nodup_range' _
  obtain ⟨result, v⟩ := told
  rcases result with (⟨e, cause⟩ | f) | w
  · exact (h.trans k).releases
  · rcases k with balanced | ⟨⟨number, left⟩, i, least, most, faulty⟩
    · exact (h.trans balanced).releases
    · obtain ⟨all, distinct, rest⟩ := leaving left
      have faulted : FirstAskFaulted reply request s v :=
        ⟨i, Nat.le_trans h.sought least, most, by rw [← h.peer]; exact faulty⟩
      exact ⟨_, all, distinct, fun none => absurd faulted none, fun _ => ⟨_, number, rfl, rest⟩⟩
  · obtain ⟨all, distinct, rest⟩ := leaving k
    exact ⟨_, all, distinct, _, rfl, rest⟩

end Balanced

end

/-! ## One attempt -/

theorem openChannel_apply (path : String) (token : Text) (s : State) :
    openChannel path token s = match s.network.peer.accept s.sought with
      | .refused e => (.error (refusedChannel (s.client.channelUrl path) e), s.connected path token none)
      | .accepted inbox failures =>
        (.ok { number := s.opened.length + 1, inbox, failures },
          s.connected path token (some (s.opened.length + 1))) := by
  unfold openChannel
  rw [State.countP_isOpened]
  rfl

/-- Nothing more is done after a channel did not open. -/
theorem startChannel_refused {s : State} {e : SocketError} (refused : s.network.peer.accept s.sought = .refused e)
    (path : String) (token : Text) (action : Members) (reply : String) (request : Option Int) :
    startChannel path token action reply request s
      = (.error (refusedChannel (s.client.channelUrl path) e), s.connected path token none) := by
  unfold startChannel
  exact Attempt.bind_of_error (by rw [openChannel_apply, refused])

/-- The first action on a channel, and what is done with the channel after it. -/
theorem startChannel_accepted {path reply : String} {token : Text} {action : Members} {request : Option Int}
    {s : State} {inbox : List Incoming} {failures : List (Nat × SocketError)}
    (accepted : s.network.peer.accept s.sought = .accepted inbox failures) :
    let channel : Channel := { number := s.opened.length + 1, inbox, failures }
    let t := s.connected path token (some channel.number)
    let asked := ask action reply request t.client.timeout ⟨channel, t.network.log⟩
    let u : State := { t with network := { t.network with log := asked.2.log } }
    startChannel path token action reply request s = match asked.1 with
      | .ok _ => (.ok asked.2.value, u)
      | .error (.box e cause) => (.error (.box e cause), u.did asked.2.value.close)
      | .error (.fault f) => (.error (.fault f), u) := by
  intro channel t asked u
  have opened : openChannel path token s = (.ok channel, t) := by
    rw [openChannel_apply, accepted]
  unfold startChannel
  rw [Attempt.bind_of_ok opened, Attempt.bind_of_ok (Attempt.state_apply t)]
  have done : onChannel channel (ask action reply request t.client.timeout) t = (.ok (asked.1, asked.2.value), u) := rfl
  rw [Attempt.bind_of_ok done]
  rcases asked.1 with (⟨e, cause⟩ | f) | v <;> rfl

section
variable (path : String) (token : Text) (action : Members) (reply : String) (request : Option Int)

/-- **One attempt** to start a channel leaves it open if it is told, and closes it after an error of the box. -/
theorem startChannel_attempted (s : State) :
    Attempted reply request id s (startChannel path token action reply request s) := by
  cases accepted : s.network.peer.accept s.sought with
  | refused e =>
    rw [startChannel_refused accepted]
    have balanced : Balanced reply request s (s.connected path token none) := .unopened accepted path token
    rcases refusedChannel (s.client.channelUrl path) e with ⟨e, cause⟩ | f
    · exact balanced
    · exact Or.inl balanced
  | accepted inbox failures =>
    let channel : Channel := { number := s.opened.length + 1, inbox, failures }
    let t : State := s.connected path token (some channel.number)
    let asked := ask action reply request t.client.timeout ⟨channel, t.network.log⟩
    let u : State := { t with network := { t.network with log := asked.2.log } }
    have faulty := Channel.ask_fault_iff action reply request t.client.timeout ⟨channel, t.network.log⟩
    obtain ⟨left_over, handed⟩ := Channel.ask_state action reply request t.client.timeout ⟨channel, t.network.log⟩
    have number : asked.2.value.number = channel.number := by rw [handed]; rfl
    -- the action is handed over and its reply taken, and the channel is still open
    have left : Leaves channel.number s u := by
      refine (Leaves.connected path token s).same ?_
      show SameChannels t { t with network := { t.network with log := asked.2.log } }
      rw [handed]
      exact SameChannels.handed channel _ t
    have faulted : FirstAskFaulted reply request s u ↔ ∃ f, asked.1 = .error (.fault f) := by
      rw [firstAskFaulted_iff left.sought, accepted]
      exact faulty.symm
    rw [startChannel_accepted accepted]
    show Attempted reply request id s (match asked.1 with
      | .ok _ => (.ok asked.2.value, u)
      | .error (.box e cause) => (.error (.box e cause), u.did asked.2.value.close)
      | .error (.fault f) => (.error (.fault f), u))
    rcases told : asked.1 with (⟨e, cause⟩ | f) | v
    · have sound : ¬ FirstAskFaulted reply request s u := by simp [faulted, told]
      show Balanced reply request s (u.did (.close asked.2.value.number))
      rw [number]
      exact left.close sound
    · exact Or.inr ⟨⟨channel.number, left⟩, faulted.mpr ⟨f, told⟩⟩
    · show Leaves asked.2.value.number s u
      rw [number]
      exact left

end

/-! ## All attempts -/

/-- What is made of a channel does not matter to how it is released. -/
theorem Attempted.map {α : Type} {reply : String} {request : Option Int} {s : State} {a : Attempt State Channel}
    (h : Attempted reply request id s (a s)) {make : Channel → α} {channel : α → Channel}
    (same : ∀ c, channel (make c) = c) :
    Attempted reply request channel s ((a >>= fun c => pure (make c) : Attempt State α) s) := by
  rw [Attempt.bind_apply]
  rcases told : a s with ⟨(⟨e, cause⟩ | f) | c, t⟩ <;> rw [told] at h
  · exact h
  · exact h
  · show Leaves (channel (make c)).number s t
    rw [same]
    exact h

section
variable {α : Type} {reply : String} {request : Option Int} {channel : α → Channel} {operation : Text → Attempt State α}
  {s t : State}

/-- Up to the last attempt of an operation, or to where it fails without one, the channels are balanced. -/
theorem withSession_balanced (attempts : ∀ token t, Attempted reply request channel t (operation token t))
    (start : Balanced reply request s t) :
    (∃ f u, withSession operation t = (.error f, u) ∧ Balanced reply request s u) ∨
      ∃ token u, Balanced reply request s u ∧ withSession operation t = operation token u := by
  have handshakes : ∀ u, Balanced reply request s u → Balanced reply request s (handshake u).2 :=
    fun u balanced => balanced.trans (.of_same (handshake_channels u))
  have refusals : ∀ token u e cause v, Balanced reply request s u → operation token u = (.error (.box e cause), v) →
      Balanced reply request s v := by
    intro token u e cause v balanced told
    have attempted := attempts token u
    rw [told] at attempted
    exact balanced.trans attempted
  exact withSession_last handshakes refusals start

/-- An operation releases its channels if every attempt does. -/
theorem withSession_releases (attempts : ∀ token t, Attempted reply request channel t (operation token t))
    (start : Balanced reply request s t) : Releases reply request channel s (withSession operation t) := by
  rcases withSession_balanced attempts start with ⟨f, u, told, balanced⟩ | ⟨token, u, balanced, told⟩
  · rw [told]
    exact balanced.releases
  · rw [told]
    exact balanced.attempted (attempts token u)

end

/-- **Uploads and streams release their channels**, from every state, against every other side. -/
theorem started_releases (s : State) :
    (∀ start, Releases "upload_start" (some ↑(s.client.uploads + 1)) Upload.channel s (startUpload start s)) ∧
      ∀ events, Releases "register" none EventStream.channel s (listen events s) := by
  constructor
  · intro start
    -- the number of the upload is used up before a session is looked for
    have begun : Balanced "upload_start" (some ↑(s.client.uploads + 1)) s
        { s with client := { s.client with uploads := s.client.uploads + 1 } } := .of_same ⟨rfl, rfl, rfl, rfl⟩
    refine withSession_releases (fun token t => ?_) begun
    exact (startChannel_attempted "ws/upload" token _ _ _ t).map fun _ => rfl
  · intro events
    unfold listen
    by_cases none_there : events = []
    · rw [if_pos none_there]
      exact (Balanced.of_same (refl_of SameChannels s)).releases
    · rw [if_neg none_there]
      refine withSession_releases (fun token t => ?_) (.of_same (refl_of SameChannels s))
      exact (startChannel_attempted "ws/event" token _ _ _ t).map fun _ => rfl

/-- A refusal whose code is an array leaves the channel of an upload open. -/
theorem array_code_leaks :
    let client : Client := { Client.create "http://fbx.test" "v8" (some "app") (some "secret") (.int 10) false with
      session := some ⟨"token", ⟨0⟩⟩ }
    let refusal :=
      "\x7b\"action\": \"upload_start\", \"request_id\": 1, \"success\": false, \"error_code\": [\"exists\"]\x7d"
    let peer : Peer := ⟨fun _ _ => .failed ⟨false, ""⟩, fun _ => .accepted [.message (.text refusal)] []⟩
    let s : State := { client, network := { peer, now := ⟨0⟩ } }
    let told := startUpload { directory := "/", filename := "a", size := 1 } s
    told.1 = .error (.fault (.unhashable .arr)) ∧ told.2.opened = [1] ∧ told.2.closed = [] := by
  intro client refusal peer s told
  refine ⟨Attempt.failed_of_decide ?_, ?_, ?_⟩
  · decide +kernel
  · decide +kernel
  · decide +kernel

end Freebox
