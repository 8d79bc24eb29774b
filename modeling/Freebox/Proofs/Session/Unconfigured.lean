import Freebox.Proofs.Session.Course

/-!
# `Freebox.Proofs.Session.Unconfigured` — clients without credentials

Credentials are looked at before anything is asked for. So a client that lacks one of them cannot open a session: each
handshake fails at once, asks for nothing and leaves no session behind. A session that such a client still has is used
as long as the box accepts it; with the first rejection it is gone for good.

## Contents
- `Client.missing`, `Client.Unset`: which credential is told to be missing, if one is.
- `handshake_unset`: handshakes without credentials.
- `State.Unconfigured`: neither a session nor credentials.
- `renew_unconfigured`, `run_unconfigured`: nothing is asked for.
- `run_rejected`: the rejection of the last session.
-/

namespace Freebox

/-! ## Missing credentials -/

namespace Client

variable {c : Client}

/-- One of the credentials is not set: it is absent or empty. -/
def Unset (c : Client) : Prop := set? c.appId = none ∨ set? c.privateToken = none

/-- The credential that is told to be missing: the application if it is not set, and its private token otherwise. -/
def missing (c : Client) : ConfigurationError :=
  if set? c.appId = none then .appIdNotSet else .privateTokenNotSet

/-- Credentials are missing if and only if one of them is not set, and the application is looked at first. -/
theorem credentials_error (unset : c.Unset) : c.credentials = .error c.missing := by
  unfold credentials missing
  cases appId : set? c.appId with
  | none => simp
  | some app =>
    have privateToken : set? c.privateToken = none := by
      rcases unset with absent | absent
      · rw [appId] at absent
        cases absent
      · exact absent
    simp [privateToken]

end Client

/-- The failure that tells which credential is missing. -/
def Client.unsetFailure (c : Client) : Failure := .ofBox (.configuration c.missing)

/-- **A handshake without credentials** fails at once, asks for nothing and leaves no session. -/
theorem handshake_unset {s : State} (unset : s.client.Unset) :
    handshake s = (.error s.client.unsetFailure, s.withSession none) := by
  have credentials := Client.credentials_error unset
  have negotiated : negotiate s = (.error s.client.unsetFailure, s) := by
    rw [negotiate_apply, credentials]
    rfl
  have session : sessionAfter s = none := by
    unfold sessionAfter
    rw [negotiated]
    rfl
  rw [handshake_apply, negotiated, session]

/-- What an operation does before it looks for a session does not matter to its credentials. -/
theorem begun_unset {s : State} (unset : s.client.Unset) (a : Authenticated) :
    (a.begun s).client.Unset ∧ (a.begun s).client.missing = s.client.missing := by
  cases a with
  | upload start => exact ⟨unset, rfl⟩
  | call method path parcel => exact ⟨unset, rfl⟩
  | content path => exact ⟨unset, rfl⟩
  | listening first others => exact ⟨unset, rfl⟩

/-! ## Neither a session nor credentials -/

/-- A client has no session and cannot open one, as one of its credentials is not set. -/
structure State.Unconfigured (s : State) : Prop where
  session : s.client.session = none
  unset : s.client.Unset

section
variable {s : State} (unconfigured : s.Unconfigured)
include unconfigured

theorem handshake_unconfigured : handshake s = (.error s.client.unsetFailure, s) := by
  have still : s.withSession none = s := by
    rw [← unconfigured.session]
    rfl
  rw [handshake_unset unconfigured.unset, still]

theorem renew_unconfigured (stale : Text) : renew stale s = (.error s.client.unsetFailure, s) := by
  have token : s.client.token? = none := by rw [Client.token?, unconfigured.session, Option.map_none]
  rw [renew_apply, token]
  exact freshToken_of_error (handshake_unconfigured unconfigured)

theorem withSession_unconfigured {α : Type} (operation : Text → Attempt State α) :
    withSession operation s = (.error s.client.unsetFailure, s) :=
  withSession_of_unopened unconfigured.session (handshake_unconfigured unconfigured)

/-- **No operation** is run: it fails for the missing credential, and asks for nothing. -/
theorem run_unconfigured (a : Authenticated) : a.run s = (.error s.client.unsetFailure, a.begun s) := by
  obtain ⟨unset, missing⟩ := begun_unset unconfigured.unset a
  have begun : (a.begun s).Unconfigured := ⟨by rw [a.begun_session, unconfigured.session], unset⟩
  rw [a.run_apply, withSession_unconfigured begun, Client.unsetFailure, missing]
  rfl

theorem logout_unconfigured : (logout s).2 = s := by
  unfold logout
  rw [Attempt.bind_of_ok (Attempt.state_apply s), Attempt.bind_of_ok (Attempt.update_apply _ s), unconfigured.session]
  show s.withSession none = s
  rw [← unconfigured.session]
  rfl

end

/-! ## The last session -/

/-- **A rejection without credentials.** If the session that is there is rejected, the operation fails for the missing
credential. It has asked once, under the token that was rejected, and the session is gone. -/
theorem run_rejected {a : Authenticated} {s t : State} {session : Session} {f : Failure} (unset : s.client.Unset)
    (there : s.client.session = some session)
    (attempted : a.attempt (s.client.uploads + 1) session.token (a.begun s) = (.error f, t))
    (rejected : f.isRejection = true) :
    (a.run s).1 = .error s.client.unsetFailure ∧ (a.run s).2.Unconfigured ∧
      (a.run s).2.asked = s.asked ++ [a.asking s.client session.token] := by
  obtain ⟨begun, missing⟩ := begun_unset unset a
  have asks := a.attempt_asks (s.client.uploads + 1) session.token (a.begun s)
  rw [attempted] at asks
  have client : t.client = (a.begun s).client := asks.client
  have cached : (a.begun s).client.session = some session := by rw [a.begun_session, there]
  have ready : Ready (a.begun s) session.token (a.begun s) := .cached cached
  have current : t.client.token? = some session.token := by rw [client]; exact ready.current
  have here : t.client.Unset := by rw [client]; exact begun
  have failure : t.client.unsetFailure = s.client.unsetFailure := by rw [client, Client.unsetFailure, missing]; rfl
  have failed := handshake_unset here
  have ended : a.run s = (.error s.client.unsetFailure, t.withSession none) := by
    rw [a.run_apply, withSession_of_ready ready]
    cases f with
    | fault f => cases rejected
    | box e cause =>
      rw [pursue_unrenewed attempted rejected current failed, failure]
      rfl
  rw [ended]
  refine ⟨rfl, ⟨rfl, here⟩, ?_⟩
  have asked : t.asked = (a.begun s).asked ++ [a.asking (a.begun s).client session.token] := asks.asked
  rw [a.begun_asked, a.asking_begun] at asked
  exact asked

end Freebox
