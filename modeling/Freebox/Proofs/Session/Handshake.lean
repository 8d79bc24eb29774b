import Freebox.Proofs.Network.Asking

/-!
# `Freebox.Proofs.Session.Handshake` — what a handshake asks for and leaves behind

A handshake is a challenge and an exchange: the challenge is asked for without a token, and its answer is exchanged for
one. It is cut short where it fails first, and without credentials it asks for nothing. It opens a session if it
succeeds, and leaves none after an error of the box; a fault leaves what was there.

## Contents
- `negotiate_apply`: the two requests, and what is read from their replies.
- `handshakeAsked`, `handshake_asked`: what a handshake asks for.
- `handshake_keeps`: what requests keep, handshakes keep.
- `handshake_opens`, `handshake_drops`, `handshake_spares`: the session that is there afterwards.
- `handshake_exchange`: a token comes from the reply to an exchange.
-/

namespace Freebox

open Attempt (Keeps keeps_lift keeps_state)

/-! ## The two requests -/

namespace Client

variable (c : Client)

/-- The request for a challenge. -/
def challengeRequest : Request where
  method := "GET"
  url := c.url "login"
  headers := [("Accept", "application/json")]
  timeout := c.timeout

/-- The request that exchanges a word for a session: an object of the application and the word. -/
def exchangeRequest (appId word : String) : Request where
  method := "POST"
  url := c.url "login/session"
  headers := [("Accept", "application/json")]
  timeout := c.timeout
  payload := .obj [("app_id", .str appId), ("password", .str word)]

end Client

namespace State

/-- The state once a challenge is asked for. -/
def challenged (s : State) : State := s.did (.request s.client.challengeRequest)

/-- The word for the challenge in the reply at a state. -/
def word (s : State) (privateToken : String) : Except Failure String :=
  ((s.answer s.client.challengeRequest).envelope s.client.challengeRequest).bind (Envelope.word privateToken)

/-- What an exchange at a state brings. -/
def exchanged (s : State) (appId word : String) : Except Failure (Text × Record) :=
  ((s.answer (s.client.exchangeRequest appId word)).envelope (s.client.exchangeRequest appId word)).bind
    Envelope.opening

end State

/-- Both requests: the second one is sent if the first is answered by a challenge that has a word. -/
theorem negotiate_apply (s : State) :
    negotiate s = match s.client.credentials with
      | .error e => (.error (.ofBox (.configuration e)), s)
      | .ok (appId, privateToken) =>
        match s.word privateToken with
        | .error f => (.error f, s.challenged)
        | .ok word =>
          (s.challenged.exchanged appId word, s.challenged.did (.request (s.client.exchangeRequest appId word))) := by
  unfold negotiate
  rw [Attempt.bind_of_ok (Attempt.state_apply s)]
  cases hc : s.client.credentials with
  | error e => exact Attempt.bind_of_error rfl
  | ok both =>
    obtain ⟨appId, privateToken⟩ := both
    refine (Attempt.bind_of_ok (v := (appId, privateToken)) (t := s) rfl).trans ?_
    dsimp only
    rw [Attempt.bind_assoc]
    have read := Attempt.bind_lift (perform "GET" "login" none {}) (Envelope.word privateToken) s
    rw [perform_apply] at read
    cases hw : s.word privateToken with
    | error f => exact Attempt.bind_of_error (read.trans (Prod.ext hw rfl))
    | ok word =>
      refine (Attempt.bind_of_ok (read.trans (Prod.ext hw rfl))).trans ?_
      rw [Attempt.bind_lift, perform_apply]
      rfl

/-! ## What is asked for -/

/-- **A handshake** asks for a challenge if there are credentials, and for an exchange if the challenge has a word. -/
def handshakeAsked (s : State) : List Asking :=
  match s.client.credentials with
  | .error _ => []
  | .ok (appId, privateToken) =>
    .request s.client.challengeRequest ::
      match s.word privateToken with
      | .error _ => []
      | .ok word => [.request (s.client.exchangeRequest appId word)]

theorem negotiate_asks (s : State) : Asks (handshakeAsked s) s (negotiate s).2 := by
  rw [negotiate_apply]
  unfold handshakeAsked
  cases s.client.credentials with
  | error e => exact refl_of (Asks []) s
  | ok both =>
    obtain ⟨appId, privateToken⟩ := both
    have asked : Asks [.request s.client.challengeRequest] s s.challenged := Asks.of_did (.request _) s
    cases hw : s.word privateToken with
    | error f => simpa only [hw] using asked
    | ok word =>
      have exchanged : Asks [.request (s.client.exchangeRequest appId word)] s.challenged
          (s.challenged.did (.request (s.client.exchangeRequest appId word))) := Asks.of_did (.request _) _
      simp only [hw]
      exact asked.trans exchanged

/-! ## The session afterwards -/

/-- The session after a handshake from a state. -/
def sessionAfter (s : State) : Option Session :=
  match negotiate s with
  | (.ok (token, _), t) => some (Session.start token t.network.now Session.validity)
  | (.error (.box _ _), _) => none
  | (.error (.fault _), t) => t.client.session

/-- A handshake is its two requests and then a change of the session. -/
theorem handshake_apply (s : State) :
    handshake s = ((negotiate s).1, (negotiate s).2.withSession (sessionAfter s)) := by
  unfold handshake sessionAfter
  rw [Attempt.bind_of_ok (Attempt.outcome_apply negotiate s)]
  cases h : negotiate s with
  | mk result t =>
    cases result with
    | ok opened => obtain ⟨token, permissions⟩ := opened; rfl
    | error f => cases f <;> rfl

/-- A handshake keeps what requests and a change of the session keep. -/
theorem handshake_keeps {R : State → State → Prop} [Std.Refl R] [IsTrans State R]
    (requests : ∀ r s, R s (s.did (.request r))) (sessions : ∀ x s, R s (s.withSession x)) :
    Keeps R handshake := by
  have performed (method : String) (path : Text) (parcel : Parcel) : Keeps R (perform method path none parcel) := by
    intro s
    rw [perform_apply]
    exact requests _ s
  have negotiated : Keeps R negotiate := by
    refine keeps_state.bind fun s => (keeps_lift _).bind fun both => ?_
    refine (performed _ _ _).bind fun asked => (keeps_lift _).bind fun word => ?_
    exact (performed _ _ _).bind fun opened => keeps_lift _
  intro s
  rw [handshake_apply]
  exact trans_of R (negotiated s) (sessions _ _)

theorem handshake_asked (s : State) : (handshake s).2.asked = s.asked ++ handshakeAsked s := by
  rw [handshake_apply]
  exact (negotiate_asks s).asked

theorem handshake_peer (s : State) : (handshake s).2.network.peer = s.network.peer := by
  rw [handshake_apply]
  exact (negotiate_asks s).peer

/-- Nothing of a client but its session changes by a handshake. -/
theorem handshake_client (s : State) : (handshake s).2.client = { s.client with session := sessionAfter s } := by
  rw [handshake_apply, ← (negotiate_asks s).client]
  rfl

section
variable {s t : State}

/-- A handshake that succeeds opens a session with the token that it tells. -/
theorem handshake_opens {token : Text} {permissions : Record} (h : handshake s = (.ok (token, permissions), t)) :
    t.client.token? = some token := by
  rw [handshake_apply] at h
  obtain ⟨hr, rfl⟩ := Prod.mk.injEq .. ▸ h
  have hn : negotiate s = (.ok (token, permissions), (negotiate s).2) := Prod.ext hr rfl
  simp only [Client.token?, State.withSession_session, sessionAfter]
  rw [hn]
  rfl

/-- An error of the box leaves no session. -/
theorem handshake_drops {e : BoxError} {cause : Option BoxError} (h : handshake s = (.error (.box e cause), t)) :
    t.client.session = none := by
  rw [handshake_apply] at h
  obtain ⟨hr, rfl⟩ := Prod.mk.injEq .. ▸ h
  have hn : negotiate s = (.error (.box e cause), (negotiate s).2) := Prod.ext hr rfl
  simp only [State.withSession_session, sessionAfter]
  rw [hn]

/-- A fault leaves the session that was there. -/
theorem handshake_spares {f : Fault} (h : handshake s = (.error (.fault f), t)) :
    t.client.session = s.client.session := by
  rw [handshake_apply] at h
  obtain ⟨hr, rfl⟩ := Prod.mk.injEq .. ▸ h
  have hn : negotiate s = (.error (.fault f), (negotiate s).2) := Prod.ext hr rfl
  simp only [State.withSession_session, sessionAfter]
  rw [hn]
  exact congrArg Client.session (negotiate_asks s).client

/-- **Where tokens come from.** A handshake that succeeds has asked for a challenge and then for an exchange, and its
token is the one in the reply to that exchange. -/
theorem handshake_exchange {token : Text} {permissions : Record} (h : handshake s = (.ok (token, permissions), t)) :
    ∃ appId word, handshakeAsked s
        = [.request s.client.challengeRequest, .request (s.client.exchangeRequest appId word)] ∧
      s.challenged.exchanged appId word = .ok (token, permissions) := by
  rw [handshake_apply, negotiate_apply] at h
  unfold handshakeAsked
  cases hc : s.client.credentials with
  | error e => simp [hc] at h
  | ok both =>
    obtain ⟨appId, privateToken⟩ := both
    cases hw : s.word privateToken with
    | error f => simp [hc, hw] at h
    | ok word =>
      refine ⟨appId, word, by simp [hw], ?_⟩
      simp only [hc, hw, Prod.mk.injEq] at h
      exact h.1

end

end Freebox
