import Freebox.Proofs.Envelope.Refusal
import Freebox.Proofs.Session.Provenance

/-!
# `Freebox.Proofs.Session.Leaving` — leaving as best one can

To leave, a client gives its session up first and then tells the box so, by one request under the token that it gave
up, which is shown unless it is the empty text. What the box answers to it is ignored. A reply that ends in a fault is
not: the session is gone and the request is made all the same, but the fault is raised, and the transport is not hung up
behind it.

## Contents
- `Client.logoutRequest`, `Client.logoutRequests`: what is asked for. `State.left`, `State.hungUp`: the states that
  leavings end in.
- `State.LogoutEndsInFault`: the reply to that request ends in a fault.
- `logout_left`, `logout_result`, `close_apply`: how leavings end.
- `leaving_settles`: leaving, leaving again and closing, from every state.
-/

namespace Freebox

namespace Client

variable (c : Client)

/-- The request by which a client takes leave under a token: it shows the token, unless that is the empty text. -/
def logoutRequest (token : Text) : Request where
  method := "POST"
  url := c.url "login/logout"
  headers := ("Accept", "application/json") :: if token = "" then [] else [("X-Fbx-App-Auth", token)]
  timeout := c.timeout

/-- The requests by which a client takes leave: one under the token of its session, if it has a session. -/
def logoutRequests : List Request := c.session.toList.map fun session => c.logoutRequest session.token

variable {c}

theorem logoutRequests_of_none (h : c.session = none) : c.logoutRequests = [] := by
  rw [logoutRequests, h]
  rfl

theorem logoutRequests_of_some {session : Session} (h : c.session = some session) :
    c.logoutRequests = [c.logoutRequest session.token] := by
  rw [logoutRequests, h]
  rfl

theorem logoutRequest_tokens (token : Text) :
    (Asking.request (c.logoutRequest token)).tokens = if token = "" then [] else [token] := by
  have other : "Accept" ≠ authHeader := by decide
  by_cases empty : token = "" <;> simp [Asking.tokens, Asking.headers, logoutRequest, authHeader, empty] at other ⊢

end Client

namespace State

/-- The state that a leaving ends in: no session is left, and the request of the leaving is made. -/
def left (s : State) : State where
  client := { s.client with session := none }
  network := { s.network with log := s.network.log ++ s.client.logoutRequests.map .request }

/-- The state once the transport is hung up, if it is the client's own. -/
def hungUp (s : State) : State := if s.client.ownsTransport then s.did .hangUp else s

/-- The reply to the request of a leaving ends in a fault. -/
def LogoutEndsInFault (s : State) : Prop :=
  ∃ r ∈ s.client.logoutRequests, ∃ received, (s.answer r).whole r = .ok received ∧ received.EndsInFault

end State

/-! ## How leavings end -/

/-- A reply that is not read to its end is an error of the box, not a fault. -/
theorem Reply.whole_failed {r : Request} {reply : Reply} {f : Failure} (h : reply.whole r = .error f) :
    f.isBox = true := by
  have transport : ∀ e, (r.failed e).isBox = true := by
    intro e
    unfold Request.failed
    cases e.timedOut <;> rfl
  cases reply with
  | failed e =>
    obtain rfl : r.failed e = f := Except.error.inj h
    exact transport e
  | received response =>
    obtain ⟨e, -, rfl⟩ := Attempt.error_of_mapError h
    exact transport e

/-- So a fault comes from what a reply holds. -/
theorem Reply.envelope_fault_iff (r : Request) (reply : Reply) :
    (∃ f, reply.envelope r = .error (.fault f)) ↔ ∃ received, reply.whole r = .ok received ∧ received.EndsInFault := by
  unfold Reply.envelope
  cases whole : reply.whole r with
  | error failure =>
    have box := Reply.whole_failed whole
    refine iff_of_false ?_ (by simp)
    rintro ⟨f, told⟩
    obtain rfl : failure = .fault f := Except.error.inj told
    cases box
  | ok received =>
    show (∃ f, received.envelope = .error (.fault f)) ↔ _
    rw [received.envelope_fault_iff]
    constructor
    · exact fun faulty => ⟨received, rfl, faulty⟩
    · rintro ⟨other, same, faulty⟩
      rwa [Except.ok.inj same]

/-- **Whatever the box answers**, the session is gone and the request of the leaving is made. -/
theorem logout_left (s : State) : (logout s).2 = s.left := by
  rw [logout_state]
  unfold State.left Client.logoutRequests
  cases s.client.session with
  | none => simp [State.withSession]
  | some session => rfl

/-- A leaving returns, unless the reply to its request ends in a fault: then it raises that. -/
theorem logout_result (s : State) :
    (¬ s.LogoutEndsInFault → (logout s).1 = .ok ()) ∧
      (s.LogoutEndsInFault → ∃ f, (logout s).1 = .error (.fault f)) := by
  unfold State.LogoutEndsInFault Client.logoutRequests logout
  rw [Attempt.bind_of_ok (Attempt.state_apply s), Attempt.bind_of_ok (Attempt.update_apply _ s)]
  cases s.client.session with
  | none => exact ⟨fun _ => rfl, by simp⟩
  | some session =>
    -- the request is made without a session, but to the same box and after the same requests
    let r := s.client.logoutRequest session.token
    have asked : perform "POST" "login/logout" (some session.token) {} (s.withSession none)
        = ((s.answer r).envelope r, (s.withSession none).did (.request r)) :=
      perform_apply "POST" "login/logout" (some session.token) {} (s.withSession none)
    have fault := Reply.envelope_fault_iff r (s.answer r)
    dsimp only
    rw [Attempt.bind_of_ok (Attempt.outcome_apply _ _), asked]
    simp only [Option.toList_some, List.map_cons, List.map_nil, List.mem_singleton, exists_eq_left]
    show (¬ (∃ received, (s.answer r).whole r = .ok received ∧ received.EndsInFault) → _) ∧ (_ → _)
    rw [← fault]
    rcases (s.answer r).envelope r with (⟨e, cause⟩ | f) | v
    · exact ⟨fun _ => rfl, by simp⟩
    · exact ⟨fun calm => absurd ⟨f, rfl⟩ calm, fun _ => ⟨f, rfl⟩⟩
    · exact ⟨fun _ => rfl, by simp⟩

/-- Closing is leaving, and hanging up behind a leaving that returned. -/
theorem close_apply (s : State) :
    close s = match (logout s).1 with
      | .ok () => (.ok (), s.left.hungUp)
      | .error f => (.error f, s.left) := by
  rw [← logout_left]
  unfold close
  rw [Attempt.bind_apply]
  rcases logout s with ⟨f | v, t⟩ <;> rfl

/-- **Leaving settles everything**, from every state and against every other side: the session is gone and one request
was made if there was one, which shows the token of that session unless the token is the empty text; leaving again does
nothing; and leaving returns and closing hangs up, unless the reply to the request ends in a fault, which is then raised
by both. -/
theorem leaving_settles (s : State) :
    (logout s).2 = s.left ∧
      (∀ session, s.client.session = some session →
        s.client.logoutRequests = [s.client.logoutRequest session.token] ∧
          (Asking.request (s.client.logoutRequest session.token)).tokens
            = if session.token = "" then [] else [session.token]) ∧
      logout s.left = (.ok (), s.left) ∧
      (¬ s.LogoutEndsInFault → logout s = (.ok (), s.left) ∧ close s = (.ok (), s.left.hungUp)) ∧
      (s.LogoutEndsInFault → ∃ f, logout s = (.error (.fault f), s.left) ∧ close s = (.error (.fault f), s.left)) := by
  have state := logout_left s
  obtain ⟨calm, faulty⟩ := logout_result s
  refine ⟨state, fun session there => ?request, ?again, ?returns, ?raises⟩
  case request => exact ⟨Client.logoutRequests_of_some there, Client.logoutRequest_tokens session.token⟩
  case again =>
    -- without a session there is no request, so nobody can answer it
    have none_left : s.left.client.logoutRequests = [] := Client.logoutRequests_of_none rfl
    have faultless : ¬ s.left.LogoutEndsInFault := by
      rintro ⟨r, here, -⟩
      rw [none_left] at here
      cases here
    have still : s.left.left = s.left := by
      show State.mk _ _ = State.mk _ _
      rw [none_left]
      simp [State.left]
    exact Prod.ext ((logout_result s.left).1 faultless) ((logout_left s.left).trans still)
  case returns =>
    intro h
    have result := calm h
    refine ⟨Prod.ext result state, ?_⟩
    rw [close_apply, result]
  case raises =>
    intro h
    obtain ⟨f, result⟩ := faulty h
    refine ⟨f, Prod.ext result state, ?_⟩
    rw [close_apply, result]

/-- A leaving that is answered by a code that is an array is raised, and the transport is not hung up. -/
theorem array_code_stays :
    let client : Client := { Client.create "http://fbx.test" "v8" (some "app") (some "secret") (.int 10) true with
      session := some ⟨"token", ⟨0⟩⟩ }
    let refusal := "\x7b\"success\": false, \"error_code\": [\"auth_required\"]\x7d"
    let answer : Reply := .received ⟨200, [], [Utf8.encode refusal.toList], none⟩
    let peer : Peer := ⟨fun _ _ => answer, fun _ => .refused .closedNormally⟩
    let s : State := { client, network := { peer, now := ⟨0⟩ } }
    (logout s).1 = .error (.fault (.unhashable .arr)) ∧ (close s).1 = .error (.fault (.unhashable .arr)) ∧
      .hangUp ∉ (close s).2.network.log := by
  intro client refusal answer peer s
  refine ⟨Attempt.failed_of_decide ?_, Attempt.failed_of_decide ?_, ?_⟩
  · decide +kernel
  · decide +kernel
  · decide +kernel

end Freebox
