import Freebox.Call
import Freebox.Proofs.Network.Asking

/-!
# `Freebox.Proofs.Session.Authenticated` — the operations that need a session

Four kinds of operation run under a session: calls, the content of a file, the start of an upload, and listening. Each
is the same attempt under one token after another, so what is needed to know of them is what a single attempt asks for.

## Contents
- `Authenticated`, `Authenticated.run`: the operations.
- `Authenticated.attempt`, `Authenticated.run_apply`: every operation is an attempt that is run with a session.
- `Authenticated.asking`, `Authenticated.attempt_asks`: an attempt asks exactly once, under its token.
- `Authenticated.asking_tokens`: the token that it shows.
-/

namespace Freebox

/-- An operation under a session. Listening is to one kind of notification at least. -/
inductive Authenticated where
  | call (method : String) (path : Text) (parcel : Parcel)
  | content (path : String)
  | upload (start : Resource.UploadStart)
  | listening (first : Resource.EventDescription) (others : List Resource.EventDescription)

namespace Authenticated

/-- What an operation brings. -/
def Result : Authenticated → Type
  | call _ _ _ => Envelope
  | content _ => FileContent
  | upload _ => Upload
  | listening _ _ => EventStream

/-- Runs an operation. -/
def run : (a : Authenticated) → Attempt State a.Result
  | call method path parcel => Freebox.call method path true parcel
  | content path => getFile path
  | upload start => startUpload start
  | listening first others => listen (first :: others)

/-! ## Attempts -/

/-- The state in which an operation looks for a session: the number of an upload is used up before that. -/
def begun : Authenticated → State → State
  | upload _, s => { s with client := { s.client with uploads := s.client.uploads + 1 } }
  | _, s => s

/-- One attempt of an operation under a token. The number is that of an upload. -/
def attempt : (a : Authenticated) → (number : Nat) → Text → Attempt State a.Result
  | call method path parcel, _, token => perform method path (some token) parcel
  | content path, _, token => openFile path token
  | upload start, number, token => beginUpload start number token
  | listening first others, _, token => beginListening ((first :: others).map (·.topic)) token

@[simp] theorem begun_session (a : Authenticated) (s : State) : (a.begun s).client.session = s.client.session := by
  cases a <;> rfl
@[simp] theorem begun_asked (a : Authenticated) (s : State) : (a.begun s).asked = s.asked := by cases a <;> rfl

/-- Every operation is an attempt that is run with a session. -/
theorem run_apply (a : Authenticated) (s : State) :
    a.run s = withSession (a.attempt (s.client.uploads + 1)) (a.begun s) := by
  cases a <;> rfl

/-! ## What an attempt asks for -/

/-- What an attempt under a token asks for. -/
def asking : Authenticated → Client → Text → Asking
  | call method path parcel, c, token => .request (c.request method path (some token) parcel)
  | content path, c, token => .request (c.fileRequest path token)
  | upload _, c, token => .channel (c.channelUrl "ws/upload") [(authHeader, token)] c.timeout
  | listening _ _, c, token => .channel (c.channelUrl "ws/event") [(authHeader, token)] c.timeout

/-- **An attempt** asks exactly once, whatever comes of it, and leaves the client as it is. -/
theorem attempt_asks (a : Authenticated) (number : Nat) (token : Text) (s : State) :
    Asks [a.asking s.client token] s (a.attempt number token s).2 := by
  cases a with
  | call method path parcel => exact perform_asks method path (some token) parcel s
  | content path => exact openFile_asks path token s
  | upload start =>
    have started := startChannel_asks "ws/upload" token (start.action number) "upload_start" (some (number : Int)) s
    show Asks _ s (beginUpload start number token s).2
    unfold beginUpload
    rw [Attempt.bind_of_ok (Attempt.state_apply s), Attempt.map_state]
    exact started
  | listening first others =>
    show Asks _ s (beginListening _ token s).2
    unfold beginListening
    rw [Attempt.map_state]
    exact startChannel_asks "ws/event" token _ "register" none s

/-- The session of a client does not matter to what is asked for under a token. -/
@[simp] theorem asking_session (a : Authenticated) (c : Client) (session : Option Session) (token : Text) :
    a.asking { c with session } token = a.asking c token := by
  cases a <;> rfl

@[simp] theorem asking_begun (a : Authenticated) (s : State) (token : Text) :
    a.asking (a.begun s).client token = a.asking s.client token := by
  cases a <;> rfl

/-- The headers of a call without its token are the same under every token. -/
theorem request_bare (c : Client) (method : String) (path : Text) (token : Option Text) (parcel : Parcel) :
    (Asking.request (c.request method path token parcel)).bare = .request (c.request method path none parcel) := by
  have none_left : (tokenHeader token).filter (fun h => decide (h.1 ≠ authHeader)) = [] := by
    cases token with
    | none => rfl
    | some shown => by_cases empty : shown = "" <;> simp [tokenHeader, empty]
  simp only [Asking.bare, Client.request, List.filter_cons, none_left]
  rfl

/-- Two attempts differ in the token that they show, and in nothing else. -/
theorem asking_bare (a : Authenticated) (c : Client) (token fresh : Text) :
    (a.asking c token).bare = (a.asking c fresh).bare := by
  cases a with
  | call method path parcel => exact (request_bare ..).trans (request_bare ..).symm
  | content path => simp [asking, Asking.bare, Client.fileRequest]
  | upload start => simp [asking, Asking.bare]
  | listening first others => simp [asking, Asking.bare]

/-- Whether an operation is a call. -/
def isCall : Authenticated → Bool
  | call _ _ _ => true
  | content _ | upload _ | listening _ _ => false

/-- **An attempt shows its token**, and no other one; but a call shows none if its token is empty. -/
theorem asking_tokens (a : Authenticated) (c : Client) (token : Text) :
    (a.asking c token).tokens = if a.isCall ∧ token = "" then [] else [token] := by
  have other : acceptHeader.1 ≠ authHeader := by decide
  cases a with
  | call method path parcel =>
    by_cases empty : token = ""
    · simp [isCall, asking, Asking.tokens, Asking.headers, Client.request, tokenHeader, empty, other]
    · simp [isCall, asking, Asking.tokens, Asking.headers, Client.request, tokenHeader, empty, other]
  | content path => simp [isCall, asking, Asking.tokens, Asking.headers, Client.fileRequest]
  | upload start => simp [isCall, asking, Asking.tokens, Asking.headers]
  | listening first others => simp [isCall, asking, Asking.tokens, Asking.headers]

/-- An attempt shows no token but its own. -/
theorem mem_asking_tokens (a : Authenticated) (c : Client) {token shown : Text}
    (h : shown ∈ (a.asking c token).tokens) : shown = token := by
  rw [asking_tokens] at h
  split at h
  · cases h
  · exact List.mem_singleton.mp h

end Authenticated

end Freebox
