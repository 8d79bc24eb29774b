import Freebox.Discovery
import Freebox.Proofs.Envelope.Fault
import Freebox.Proofs.Resource.Decoding
import Freebox.Proofs.Session.Registration
import Freebox.Proofs.Session.Trial

/-!
# `Freebox.Proofs.Session.Deadline` — deadlines that are missed

A missed deadline is told by the transport and by nothing else: no reply, no channel and no result that cannot be read
is told like one. So whoever is told of a missed deadline has just made the request that was not answered in time, and
nothing was asked for behind it. Behind an attempt the session is still the one that the request was made under. A
handshake gives the session up, whatever it fails with; but a renewal that fails is told as the rejection before it.

## Contents
- `Failure.Timely`, `Overdue`: failures that are no missed deadline, and results that are one.
- `Reply.Late`, `Missed`, `missed_of_bind`: a reply that is late, and a run that ends because of it.
- `perform_missed`, `exchange_missed`, `openFile_missed`, `startChannel_timely`: requests, files and channels.
- `Negotiates`, `handshake_missed`, `freshToken_missed`: the requests of a handshake, and what it leaves.
- `State.waiting`, `Registers`, `authorize_missed`: the requests of a registration.
- `Authenticated.attempt_missed`, `Authenticated.Sends`, `withSession_missed`: operations under a session.
-/

namespace Freebox

open Attempt (Ends ends_pure ends_fail ends_state ends_lift ends_update)

/-! ## Failures and results -/

/-- A failure is no missed deadline. -/
def Failure.Timely : Failure → Prop
  | .box (.deadline _) _ => False
  | .box _ _ => True
  | .fault _ => True

/-- A result is a missed deadline. -/
def Overdue {α : Type} (result : Except Failure α) : Prop := ∃ e cause, result = .error (.box (.deadline e) cause)

theorem not_overdue {α : Type} {result : Except Failure α} (h : FailsIn Failure.Timely result) : ¬ Overdue result := by
  rintro ⟨e, cause, rfl⟩
  exact h

/-- A failure is a missed deadline or not, whatever the value would have been. -/
theorem Overdue.recast {α β : Type} {f : Failure} (h : Overdue (.error f : Except Failure α)) :
    Overdue (.error f : Except Failure β) := by
  obtain ⟨e, cause, same⟩ := h
  exact ⟨e, cause, congrArg Except.error (Except.error.inj same)⟩

/-- What is done with a value that is there in time does not miss a deadline, so it was missed before. -/
theorem Overdue.of_bind {α β : Type} {x : Except Failure α} {f : α → Except Failure β}
    (later : ∀ v, FailsIn Failure.Timely (f v)) (h : Overdue (x.bind f)) :
    Overdue x ∧ ∀ failure, x = .error failure → x.bind f = .error failure := by
  cases x with
  | ok v => exact absurd h (not_overdue (later v))
  | error failure =>
    refine ⟨h.recast, ?_⟩
    rintro _ ⟨⟩
    rfl

/-- An attempt whose failures are no missed deadlines. -/
abbrev Attempt.Punctual {σ α : Type} (a : Attempt σ α) : Prop := Ends (fun _ => True) (fun _ => True) Failure.Timely a

theorem Attempt.Punctual.not_overdue {σ α : Type} {a : Attempt σ α} (h : a.Punctual) (s : σ) : ¬ Overdue (a s).1 :=
  Freebox.not_overdue (h s trivial).1

theorem Attempt.Punctual.within {σ τ α : Type} {a : Attempt τ α} (h : a.Punctual) (part : σ → τ) (put : τ → σ → σ) :
    (Attempt.within part put a).Punctual :=
  fun s _ => ⟨(h (part s) trivial).1, trivial⟩

/-! ## What is read -/

/-- A decoding error is no missed deadline. -/
theorem Failure.IsDecoding.timely {e : Failure} (h : e.IsDecoding) : e.Timely := by
  obtain ⟨why, rfl⟩ := h
  trivial

namespace Resource

variable {l : Layout} (known : l ∈ responses)
include known

theorem response_timely (v : Json) : FailsIn Failure.Timely (l.decode v) := by
  by_cases overruns : Overruns l v
  · obtain ⟨rfl, endless⟩ := overruns
    rw [grant_endless endless]
    exact .error trivial
  · exact ((response_told_iff known v).mpr overruns).imp (fun _ => id) fun _ => Failure.IsDecoding.timely

theorem responses_timely (v : Json) : FailsIn Failure.Timely (l.decodeList v) := by
  cases v with
  | arr vs =>
    rw [failsIn_iff]
    intro e failed
    obtain ⟨before, v, after, rfl, -, first⟩ := Layout.decodeItems_error_iff.mp failed
    exact (response_timely known v).failure first
  | null => exact .ok []
  | _ => exact .error trivial

end Resource

/-- The layouts of a reading are those of responses. -/
def Reading.Known : Reading → Prop
  | .record l | .recordOrEmpty l | .records l => l ∈ Resource.responses
  | _ => True

/-- Reading a result misses no deadline. -/
theorem Reading.read_timely {reading : Reading} (known : reading.Known) (prepared : reading.Prepared) (result : Json) :
    FailsIn Failure.Timely (reading.read result) := by
  have decoding {x : Except DecodingError Json} : FailsIn Failure.Timely (x.mapError Failure.ofDecoding) :=
    EndsIn.any.mapError fun _ _ => trivial
  cases reading with
  | nothing => exact .ok _
  | record l => exact (Resource.response_timely known result).map _
  | recordOrEmpty l =>
    refine FailsIn.map ?_ _
    by_cases absent : result = .null
    · obtain ⟨r, empty⟩ := prepared
      rw [if_pos absent, empty]
      exact .ok r
    · rw [if_neg absent]
      exact Resource.response_timely known result
  | records l => exact (Resource.responses_timely known result).map _
  | text | path | task => exact decoding.map _

namespace Received

variable (r : Received)

theorem statusFailure_timely (cause : Option BoxError) : (r.statusFailure cause).Timely := by
  unfold statusFailure
  cases r.text <;> exact trivial

/-- Whatever a reply holds, it is there in time. -/
theorem envelope_timely : FailsIn Failure.Timely r.envelope := by
  have refused (e : Envelope) (status : Option Int) : (e.refused status).Timely := by
    unfold Envelope.refused
    cases RefusalKind.ofCode e.errorCode <;> exact trivial
  unfold envelope
  cases Envelope.parse (.octets r.body) with
  | error e =>
    refine .error ?_
    split
    · exact trivial
    · exact r.statusFailure_timely _
  | ok e =>
    dsimp only
    split
    · split
      · exact .ok e
      · exact .error (r.statusFailure_timely none)
    · split
      · exact .error (r.statusFailure_timely none)
      · exact .error (refused e _)

theorem description_timely : FailsIn Failure.Timely r.description := by
  unfold description
  split
  · cases Json.read (.octets r.body) with
    | error e => cases r.text <;> exact .error trivial
    | ok v => exact Resource.response_timely (by simp [Resource.responses]) v
  · exact .error (r.statusFailure_timely none)

end Received

/-! ## Replies that are late -/

/-- A reply is late: the transport missed the deadline before it came, or while its body did. -/
def Reply.Late : Reply → Prop
  | .failed e => e.timedOut = true
  | .received response => ∃ e, response.broken = some e ∧ e.timedOut = true

/-- What is told of a request whose reply is late. -/
def Request.overdue (r : Request) : Failure := .ofBox (.deadline (.request r.method r.url r.timeout))

/-- A run ends because the reply to a request is late: it was made at a state, it is told as that, and nothing was asked
for behind it. -/
structure Missed {α : Type} (run : Except Failure α × State) (t : State) (r : Request) : Prop where
  late : (t.answer r).Late
  told : run.1 = .error r.overdue
  last : run.2.asked = t.asked ++ [.request r]

theorem Missed.recast {α β : Type} {f : Failure} {u t : State} {r : Request}
    (h : Missed ((.error f, u) : Except Failure α × State) t r) :
    Missed ((.error f, u) : Except Failure β × State) t r where
  late := h.late
  told := congrArg Except.error (Except.error.inj h.told)
  last := h.last

theorem Request.failed_overdue {α : Type} {r : Request} {e : TransportError}
    (h : Overdue (.error (r.failed e) : Except Failure α)) : e.timedOut = true ∧ r.failed e = r.overdue := by
  by_cases late : e.timedOut = true
  · exact ⟨late, if_pos late⟩
  · obtain ⟨_, _, same⟩ := h
    rw [Request.failed, if_neg late] at same
    cases same

/-- Only a reply that is late is read as a missed deadline. -/
theorem Reply.whole_overdue {r : Request} {reply : Reply} (h : Overdue (reply.whole r)) :
    reply.Late ∧ reply.whole r = .error r.overdue := by
  cases reply with
  | failed e =>
    obtain ⟨late, same⟩ := Request.failed_overdue h
    exact ⟨late, congrArg Except.error same⟩
  | received response =>
    obtain ⟨e, cause, failed⟩ := h
    obtain ⟨transport, broken, same⟩ := Attempt.error_of_mapError failed
    have overdue : Overdue (.error (r.failed transport) : Except Failure Received) := ⟨e, cause, congrArg _ same⟩
    obtain ⟨late, told⟩ := Request.failed_overdue overdue
    refine ⟨⟨transport, ?_, late⟩, by rw [failed, ← same, told]⟩
    unfold Response.whole at broken
    cases there : response.broken with
    | none =>
      rw [there] at broken
      cases broken
    | some e =>
      rw [there] at broken
      exact congrArg some (Except.error.inj broken)

theorem Reply.read_overdue {α : Type} {r : Request} {reply : Reply} {read : Received → Except Failure α}
    (timely : ∀ received, FailsIn Failure.Timely (read received)) (h : Overdue ((reply.whole r).bind read)) :
    reply.Late ∧ (reply.whole r).bind read = .error r.overdue := by
  obtain ⟨before, same⟩ := h.of_bind timely
  obtain ⟨late, told⟩ := Reply.whole_overdue before
  exact ⟨late, same _ told⟩

theorem Reply.envelope_overdue {r : Request} {reply : Reply} (h : Overdue (reply.envelope r)) :
    reply.Late ∧ reply.envelope r = .error r.overdue :=
  Reply.read_overdue Received.envelope_timely h

theorem Reply.result_overdue {α : Type} {r : Request} {reply : Reply} {read : Envelope → Except Failure α}
    (timely : ∀ e, FailsIn Failure.Timely (read e)) (h : Overdue ((reply.envelope r).bind read)) :
    reply.Late ∧ (reply.envelope r).bind read = .error r.overdue := by
  obtain ⟨before, same⟩ := h.of_bind timely
  obtain ⟨late, told⟩ := Reply.envelope_overdue before
  exact ⟨late, same _ told⟩

/-! ## Requests -/

theorem State.asked_request (s : State) (r : Request) : (s.did (.request r)).asked = s.asked ++ [.request r] :=
  s.did_asked (.request r)

/-- **One request** misses a deadline only if it is not answered in time. -/
theorem perform_missed {method : String} {path : Text} {token : Option Text} {parcel : Parcel} {s : State}
    (h : Overdue (perform method path token parcel s).1) :
    Missed (perform method path token parcel s) s (s.client.request method path token parcel) := by
  rw [perform_apply] at h ⊢
  obtain ⟨late, told⟩ := Reply.envelope_overdue h
  exact ⟨late, told, s.asked_request _⟩

/-- So does a request whose whole reply is read in another way. -/
theorem exchange_missed {α : Type} {r : Request} {read : Received → Except Failure α} {s : State}
    (timely : ∀ received, FailsIn Failure.Timely (read received))
    (h : Overdue ((exchange r >>= fun received => Attempt.lift (read received)) s).1) :
    Missed ((exchange r >>= fun received => Attempt.lift (read received)) s) s r := by
  rw [Attempt.bind_lift, exchange_apply] at h ⊢
  obtain ⟨late, told⟩ := Reply.read_overdue timely h
  exact ⟨late, told, s.asked_request r⟩

/-- What follows upon an attempt and misses no deadline does not matter to one that was missed before, whatever else
there is beside the client on its network. -/
theorem missed_of_bind {σ α β : Type} (view : σ → State) {a : Attempt σ α} {next : α → Attempt σ β} {s : σ}
    (timely : ∀ v, (next v).Punctual) (h : Overdue ((a >>= next) s).1) :
    Overdue (a s).1 ∧ ((a >>= next) s).2 = (a s).2 ∧
      ∀ t r, Missed ((a s).1, view (a s).2) t r → Missed (((a >>= next) s).1, view ((a >>= next) s).2) t r := by
  rw [Attempt.bind_apply] at h ⊢
  rcases tried : a s with ⟨f | v, u⟩
  · rw [tried] at h
    exact ⟨h.recast, rfl, fun t r missed => missed.recast⟩
  · rw [tried] at h
    exact absurd h ((timely v).not_overdue u)

theorem transmit_missed {r : Request} {s : State} (h : Overdue (transmit r s).1) : Missed (transmit r s) s r := by
  rw [transmit_apply] at h ⊢
  cases reply : s.answer r with
  | failed e =>
    rw [reply] at h
    obtain ⟨late, told⟩ := Request.failed_overdue h
    refine ⟨?_, congrArg Except.error told, s.asked_request r⟩
    rw [reply]
    exact late
  | received response =>
    rw [reply] at h
    exact absurd h (not_overdue trivial)

/-- A file misses a deadline only before the head of its reply: a body that breaks off is told otherwise. -/
theorem openFile_missed {path : String} {token : Text} {s : State} (h : Overdue (openFile path token s).1) :
    Missed (openFile path token s) s (s.client.fileRequest path token) := by
  have file (response : Response) : FailsIn Failure.Timely (FileContent.ofResponse response) := by
    unfold FileContent.ofResponse
    dsimp only
    split
    · exact .error trivial
    · exact .ok _
  unfold openFile at h ⊢
  rw [Attempt.bind_of_ok (Attempt.state_apply s)] at h ⊢
  obtain ⟨before, -, carry⟩ := missed_of_bind id (by
    intro response
    split
    · exact ends_lift (file response)
    · -- the body is read to its end, and told as an error of the box if it is one
      apply (ends_update fun _ _ => trivial).bind
      intro _ _
      apply (ends_lift (EndsIn.any.mapError fun _ _ => trivial)).bind
      intro received _
      exact (ends_lift received.envelope_timely).bind fun _ _ => ends_lift (file response)) h
  exact carry s _ (transmit_missed before)

/-! ## Channels -/

namespace Channel

theorem failureOf_timely (wording : String → NetworkError) (e : SocketError) : (failureOf wording e).Timely := by
  cases e <;> exact trivial

theorem lost_timely (action : String) (within : Quantity) (e : SocketError) : (lost action within e).Timely := by
  cases e <;> exact trivial

theorem sendAction_timely (action : Members) : (sendAction action).Punctual := by
  intro c _
  unfold sendAction
  rcases transmit (.text (Json.obj action).line) c with ⟨e | v, d⟩
  · exact ⟨.error (failureOf_timely _ e), trivial⟩
  · exact ⟨trivial, trivial⟩

theorem accepted_timely (ms : Members) : FailsIn Failure.Timely (accepted ms) := by
  unfold accepted
  split
  · exact .ok ms
  · unfold Envelope.refused
    cases RefusalKind.ofCode (Envelope.ofMembers ms).errorCode <;> exact .error trivial

/-- A reply that is waited for in vain is a failure of the channel, not a missed deadline. -/
theorem findReply_timely (action : String) (request : Option Int) (within : Quantity) (inbox : List Incoming) :
    FailsIn Failure.Timely (findReply action request within inbox).1 := by
  induction inbox with
  | nil => exact .error trivial
  | cons first rest ih =>
    cases first with
    | failure e => exact .error (lost_timely action within e)
    | message m =>
      rw [findReply]
      cases decodeMessage m with
      | error e => exact .error trivial
      | ok ms =>
        dsimp only
        split
        · exact accepted_timely ms
        · exact ih

theorem awaitReply_timely (action : String) (request : Option Int) (within : Quantity) :
    (awaitReply action request within).Punctual :=
  fun c _ => ⟨findReply_timely action request within c.value.inbox, trivial⟩

theorem ask_timely (action : Members) (reply : String) (request : Option Int) (within : Quantity) :
    (ask action reply request within).Punctual :=
  (sendAction_timely action).bind fun _ _ => awaitReply_timely reply request within

end Channel

theorem openChannel_timely (path : String) (token : Text) : (openChannel path token).Punctual := by
  intro s _
  refine ⟨?_, trivial⟩
  unfold openChannel
  cases s.network.peer.accept (s.network.log.countP Effect.isConnect) with
  | accepted inbox failures => exact trivial
  | refused e =>
    refine .error ?_
    cases e with
    | violation m status =>
      cases status with
      | none => exact trivial
      | some code =>
        unfold refusedChannel
        dsimp only
        split <;> exact trivial
    | _ => exact trivial

/-- **A channel** misses no deadline of a request, while it is opened or behind that. -/
theorem startChannel_timely (path : String) (token : Text) (action : Members) (reply : String) (request : Option Int) :
    (startChannel path token action reply request).Punctual := by
  apply (openChannel_timely path token).bind
  intro channel _
  apply ends_state.bind
  intro s _
  have asked : Ends (fun _ => True) (fun p : Except Failure Members × Channel => FailsIn Failure.Timely p.1)
      Failure.Timely (onChannel channel (ask action reply request s.client.timeout)) := by
    intro t _
    exact ⟨((Channel.ask_timely action reply request s.client.timeout) ⟨channel, t.network.log⟩ trivial).1, trivial⟩
  apply asked.bind
  rintro ⟨result, after⟩ timely
  cases result with
  | ok ms => exact ends_pure trivial
  | error f =>
    cases f with
    | box e cause => exact (ends_update fun _ _ => trivial).bind fun _ _ => ends_fail timely
    | fault f => exact ends_fail trivial

/-! ## Handshakes -/

/-- A handshake from a state makes a request at a state: the challenge at once, and the exchange once the challenge is
answered by one that has a word. -/
inductive Negotiates (s : State) : State → Request → Prop
  | challenge {both : String × String} (configured : s.client.credentials = .ok both) :
      Negotiates s s s.client.challengeRequest
  | exchange {appId privateToken word : String} (configured : s.client.credentials = .ok (appId, privateToken))
      (answered : s.word privateToken = .ok word) : Negotiates s s.challenged (s.client.exchangeRequest appId word)

/-- The client is as it was at the start. -/
theorem Negotiates.client {s t : State} {r : Request} (h : Negotiates s t r) : t.client = s.client := by
  cases h <;> rfl

theorem State.word_overdue {s : State} {privateToken : String} (h : Overdue (s.word privateToken)) :
    (s.answer s.client.challengeRequest).Late ∧ s.word privateToken = .error s.client.challengeRequest.overdue := by
  have timely (e : Envelope) : FailsIn Failure.Timely (e.word privateToken) := by
    have challenge := Resource.response_timely (l := Resource.challenge) (by simp [Resource.responses]) e.result
    exact challenge.bind fun record => EndsIn.any.mapError fun _ _ => trivial
  exact Reply.result_overdue timely h

theorem State.exchanged_overdue {s : State} {appId word : String} (h : Overdue (s.exchanged appId word)) :
    (s.answer (s.client.exchangeRequest appId word)).Late ∧
      s.exchanged appId word = .error (s.client.exchangeRequest appId word).overdue := by
  have timely (e : Envelope) : FailsIn Failure.Timely e.opening := by
    have session := Resource.response_timely (l := Resource.sessionResult) (by simp [Resource.responses]) e.result
    exact session.bind fun _ => .ok _
  exact Reply.result_overdue timely h

theorem negotiate_missed {s : State} (h : Overdue (negotiate s).1) :
    ∃ t r, Negotiates s t r ∧ Missed (negotiate s) t r := by
  rw [negotiate_apply] at h ⊢
  cases configured : s.client.credentials with
  | error e =>
    rw [configured] at h
    exact absurd h (not_overdue trivial)
  | ok both =>
    obtain ⟨appId, privateToken⟩ := both
    rw [configured] at h
    dsimp only at h ⊢
    cases answered : s.word privateToken with
    | error f =>
      have overdue : Overdue (s.word privateToken) := by
        rw [answered] at h ⊢
        exact h.recast
      obtain ⟨late, told⟩ := State.word_overdue overdue
      -- the challenge was waited for in vain, and nothing is exchanged
      have same : f = s.client.challengeRequest.overdue := Except.error.inj (answered.symm.trans told)
      exact ⟨s, _, .challenge configured, late, congrArg Except.error same, s.asked_request _⟩
    | ok word =>
      rw [answered] at h
      obtain ⟨late, told⟩ := State.exchanged_overdue h
      exact ⟨s.challenged, _, .exchange configured answered, late, told, s.challenged.asked_request _⟩

/-- **A handshake** that misses a deadline leaves no session, whichever of its requests was not answered. -/
theorem handshake_missed {s : State} (h : Overdue (handshake s).1) :
    ∃ t r, Negotiates s t r ∧ Missed (handshake s) t r ∧ (handshake s).2.client.session = none := by
  -- a missed deadline is an error of the box like any other, and those give the session up
  have dropped : (handshake s).2.client.session = none := by
    obtain ⟨e, cause, told⟩ := h
    exact handshake_drops (Prod.ext told rfl)
  rw [handshake_apply] at h
  obtain ⟨t, r, sent, late, told, last⟩ := negotiate_missed h
  refine ⟨t, r, sent, ⟨late, ?_, ?_⟩, dropped⟩
  · rw [handshake_apply]
    exact told
  · rw [handshake_apply]
    exact last

/-- So does a token that is asked for anew. -/
theorem freshToken_missed {s : State} (h : Overdue (freshToken s).1) :
    ∃ t r, Negotiates s t r ∧ Missed (freshToken s) t r ∧ (freshToken s).2.client.session = none := by
  obtain ⟨before, same, carry⟩ := missed_of_bind id (fun _ => ends_pure trivial) h
  obtain ⟨t, r, sent, missed, dropped⟩ := handshake_missed before
  exact ⟨t, r, sent, carry t r missed, (congrArg (·.client.session) same).trans dropped⟩

/-! ## Registrations -/

/-- The state after so many questions that settled nothing, with the sleeps behind them. -/
def State.waiting (r : Request) (interval : Quantity) : Nat → State → State
  | 0, s => s
  | n + 1, s => waiting r interval n (s.waited r interval)

/-- Registering makes a request at a state: the registration at once, and behind a grant the questions for its state, as
long as the budget lasts and the answers before them settled nothing. -/
inductive Registers (registration : Resource.Registration) (interval : Quantity) (attempts : Int) (s : State) :
    State → Request → Prop
  | registering : Registers registration interval attempts s s (s.client.registrationRequest registration)
  | tracking {token number : Json} {n : Nat} (within : n < attempts.toNat)
      (registered : (s.answer (s.client.registrationRequest registration)).registered
        (s.client.registrationRequest registration) = .ok (token, number))
      (waits : ∀ i < n, Authorization.Waits
        ((s.did (.request (s.client.registrationRequest registration))).statusAfter
          (s.client.trackingRequest number.shown) i)) :
      Registers registration interval attempts s
        (State.waiting (s.client.trackingRequest number.shown) interval n
          (s.did (.request (s.client.registrationRequest registration))))
        (s.client.trackingRequest number.shown)

theorem State.waiting_client (r : Request) (interval : Quantity) (n : Nat) (s : State) :
    (s.waiting r interval n).client = s.client := by
  induction n generalizing s with
  | zero => rfl
  | succ n ih => exact ih (s.waited r interval)

theorem Registers.client {registration : Resource.Registration} {interval : Quantity} {attempts : Int} {s t : State}
    {r : Request} (h : Registers registration interval attempts s t r) : t.client = s.client := by
  cases h with
  | registering => rfl
  | tracking within registered waits => exact State.waiting_client _ interval _ _

namespace Authorization

/-- A question for the state of a registration misses a deadline only if it is not answered in time. -/
theorem status_overdue {r : Request} {reply : Reply} (h : Overdue (reply.status r)) :
    reply.Late ∧ reply.status r = .error r.overdue := by
  have timely (e : Envelope) : FailsIn Failure.Timely ((Resource.grantState.decode e.result).map (·.get "status")) :=
    (Resource.response_timely (by simp [Resource.responses]) e.result).map _
  exact Reply.result_overdue timely h

theorem registered_overdue {r : Request} {reply : Reply} (h : Overdue (reply.registered r)) :
    reply.Late ∧ reply.registered r = .error r.overdue := by
  have timely (e : Envelope) : FailsIn Failure.Timely
      ((Resource.grant.decode e.result).map fun grant => (grant.get "app_token", grant.get "track_id")) :=
    (Resource.response_timely (by simp [Resource.responses]) e.result).map _
  exact Reply.result_overdue timely h

variable {trackId : Text} {token before : Json} {interval : Quantity} {budget : Nat} {s : State}

/-- Asking for the state of a registration misses a deadline at a question that the answers before it led to. By
induction on the budget: behind an answer that settles nothing, the same holds of the state that was waited for. -/
theorem poll_missed (h : Overdue (poll trackId token interval budget before s).1) :
    let r := s.client.trackingRequest trackId
    ∃ n < budget, (∀ i < n, Waits (s.statusAfter r i)) ∧
      Missed (poll trackId token interval budget before s) (s.waiting r interval n) r ∧
      (poll trackId token interval budget before s).2.client = s.client := by
  intro r
  induction budget generalizing before s with
  | zero => exact absurd h (not_overdue trivial)
  | succ budget ih =>
    rw [poll_succ] at h ⊢
    cases told : s.statusAfter (s.client.trackingRequest trackId) 0 with
    | error f =>
      rw [told] at h
      have overdue : Overdue ((s.answer r).status r) := by
        rw [← State.statusAfter_zero, told]
        exact h
      obtain ⟨late, same⟩ := status_overdue overdue
      rw [← State.statusAfter_zero, told] at same
      have none_before : ∀ i < 0, Waits (s.statusAfter r i) := fun i before => absurd before (Nat.not_lt_zero i)
      exact ⟨0, Nat.succ_pos budget, none_before, ⟨late, same, s.asked_request r⟩, rfl⟩
    | ok status =>
      rw [told] at h
      dsimp only at h ⊢
      by_cases given : status = granted
      · rw [if_pos given] at h
        exact absurd h (not_overdue trivial)
      · rw [if_neg given] at h ⊢
        by_cases ended : isEnded status = true
        · rw [if_pos ended] at h
          exact absurd h (not_overdue trivial)
        · rw [if_neg ended] at h ⊢
          obtain ⟨n, within, waits, missed, client⟩ := ih h
          have first : Waits (s.statusAfter r 0) := ⟨status, told, given, Bool.eq_false_iff.mpr ended⟩
          have behind : ∀ i < n, Waits (s.statusAfter r (i + 1)) := by
            intro i here
            rw [← s.statusAfter_waited r interval]
            exact waits i here
          exact ⟨n + 1, Nat.succ_lt_succ within, waits_succ first behind, missed, client⟩

end Authorization

/-- **Registering** misses a deadline at one of its requests, and leaves the client as it is. -/
theorem authorize_missed {registration : Resource.Registration} {interval : Quantity} {attempts : Int} {s : State}
    (h : Overdue (authorize registration interval attempts s).1) :
    ∃ t r, Registers registration interval attempts s t r ∧ Missed (authorize registration interval attempts s) t r ∧
      (authorize registration interval attempts s).2.client = t.client := by
  rw [authorize_apply] at h ⊢
  cases told : (s.answer (s.client.registrationRequest registration)).registered
      (s.client.registrationRequest registration) with
  | error f =>
    rw [told] at h
    have overdue : Overdue ((s.answer (s.client.registrationRequest registration)).registered
        (s.client.registrationRequest registration)) := by
      rw [told]
      exact h.recast
    obtain ⟨late, same⟩ := Authorization.registered_overdue overdue
    have failure := Except.error.inj (told.symm.trans same)
    exact ⟨s, _, .registering, ⟨late, congrArg Except.error failure, s.asked_request _⟩, rfl⟩
  | ok grant =>
    obtain ⟨token, number⟩ := grant
    rw [told] at h
    obtain ⟨n, within, waits, missed, client⟩ := Authorization.poll_missed h
    have sent : Registers registration interval attempts s
        (State.waiting (s.client.trackingRequest number.shown) interval n
          (s.did (.request (s.client.registrationRequest registration))))
        (s.client.trackingRequest number.shown) := .tracking within told waits
    exact ⟨_, _, sent, missed, client.trans sent.client.symm⟩

/-! ## Operations under a session -/

namespace Authenticated

/-- **An attempt** misses a deadline only if it makes a request, and that is not answered in time. -/
theorem attempt_missed {a : Authenticated} {number : Nat} {token : Text} {s : State}
    (h : Overdue (a.attempt number token s).1) :
    ∃ r, a.asking s.client token = .request r ∧ Missed (a.attempt number token s) s r := by
  cases a with
  | call method path parcel => exact ⟨_, rfl, perform_missed h⟩
  | content path => exact ⟨_, rfl, openFile_missed h⟩
  | upload start =>
    have timely : (beginUpload start number token).Punctual :=
      ends_state.bind fun _ _ => (startChannel_timely _ _ _ _ _).bind fun _ _ => ends_pure trivial
    exact absurd h (timely.not_overdue s)
  | listening first others =>
    have timely : (beginListening ((first :: others).map (·.topic)) token).Punctual :=
      (startChannel_timely _ _ _ _ _).bind fun _ _ => ends_pure trivial
    exact absurd h (timely.not_overdue s)

/-- An operation makes a request at a state: in one of its handshakes, or in one of its attempts. -/
inductive Sends (a : Authenticated) (number : Nat) (s : State) : State → Request → Prop
  | negotiating {u t : State} {r : Request} (stage : .handshake u ∈ course (a.attempt number) s)
      (sends : Negotiates u t r) : Sends a number s t r
  | trying {token : Text} {t : State} {r : Request} (tries : Tries (a.attempt number) s token t)
      (asks : a.asking t.client token = .request r) : Sends a number s t r

end Authenticated

/-- A renewal that misses a deadline is told as the rejection before it. -/
theorem Failure.unrenewed_timely {e : BoxError} (rejected : e.isAuthRequired = true) (f : Failure) :
    (f.unrenewed e).Timely := by
  cases f with
  | fault f => exact trivial
  | box r behind =>
    unfold Failure.unrenewed
    dsimp only
    split
    next missing => cases r <;> first | exact trivial | cases missing
    · cases e <;> first | exact trivial | cases rejected

section
variable {a : Authenticated} {number : Nat} {s : State}

/-- An attempt leaves the client as it is, so what it misses it leaves with the session that it was made under. -/
theorem Tries.missed {token : Text} {t : State} (tries : Tries (a.attempt number) s token t)
    (h : Overdue (a.attempt number token t).1) :
    ∃ t' r, a.Sends number s t' r ∧ Missed (a.attempt number token t) t' r ∧
      (a.attempt number token t).2.client.session = t'.client.session := by
  obtain ⟨r, asks, missed⟩ := Authenticated.attempt_missed h
  exact ⟨t, r, .trying tries asks, missed, congrArg Client.session (a.attempt_asks number token t).client⟩

/-- From the first attempt on, a deadline is missed by the first attempt or by the second: what a renewal misses is not
told. -/
theorem pursue_missed {token : Text} {t : State} (ready : Ready s token t)
    (h : Overdue (pursue (a.attempt number) token t).1) :
    ∃ t' r, a.Sends number s t' r ∧ Missed (pursue (a.attempt number) token t) t' r ∧
      (pursue (a.attempt number) token t).2.client.session = t'.client.session := by
  have current : (a.attempt number token t).2.client.token? = some token := by
    rw [(a.attempt_asks number token t).client]
    exact ready.current
  rcases tried : a.attempt number token t with ⟨f | v, u⟩
  · by_cases rejected : f.isRejection = true
    · rw [tried] at current
      rcases renewed : handshake u with ⟨g | ⟨fresh, permissions⟩, w⟩
      · cases f with
        | fault f => cases rejected
        | box e cause =>
          rw [pursue_unrenewed tried rejected current renewed] at h
          exact absurd h (not_overdue (.error (Failure.unrenewed_timely rejected g)))
      · rw [pursue_again tried rejected current renewed] at h ⊢
        exact Tries.missed (.again ready tried rejected renewed) h
    · rw [pursue_kept tried (Bool.eq_false_iff.mpr rejected), ← tried] at h ⊢
      exact Tries.missed (.first ready) h
  · rw [pursue_ok tried] at h
    exact absurd h (not_overdue trivial)

/-- **An operation under a session** that misses a deadline leaves the session that was there when it made the request.
-/
theorem withSession_missed (h : Overdue (withSession (a.attempt number) s).1) :
    ∃ t r, a.Sends number s t r ∧ Missed (withSession (a.attempt number) s) t r ∧
      (withSession (a.attempt number) s).2.client.session = t.client.session := by
  cases there : s.client.session with
  | some session =>
    have ready : Ready s session.token s := .cached there
    rw [withSession_of_ready ready] at h ⊢
    exact pursue_missed ready h
  | none =>
    rcases opened : handshake s with ⟨f | ⟨token, permissions⟩, u⟩
    · -- there was no session to be given up
      have overdue : Overdue (handshake s).1 := by
        rw [withSession_of_unopened there opened] at h
        rw [opened]
        exact h.recast
      obtain ⟨t, r, sent, missed, dropped⟩ := handshake_missed overdue
      have stage : Stage.handshake s ∈ course (a.attempt number) s := by
        unfold course
        rw [there]
        exact List.mem_cons_self ..
      rw [opened] at missed dropped
      rw [withSession_of_unopened there opened]
      refine ⟨t, r, .negotiating stage sent, missed.recast, ?_⟩
      rw [dropped, sent.client, there]
    · have ready : Ready s token u := .opened there opened
      rw [withSession_of_ready ready] at h ⊢
      exact pursue_missed ready h

end

end Freebox
