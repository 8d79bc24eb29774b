import Freebox.Proofs.Session.Course

/-!
# `Freebox.Proofs.Session.Purpose` — what is asked for on behalf of an operation

Handshakes ask for sessions, and attempts ask for what their operation is about. So whatever an operation under a
session asks for is of one of these two kinds, under one token or another. A session that is there is used at once.

## Contents
- `Client.Opens`: what is asked for to open a session.
- `course_stages`: the handshakes of a course are made by the client that it starts with.
- `State.Sends`, `State.Sends.requests`: stretches of a run that send requests of one sort beside the opening of
  sessions.
- `Authenticated.run_sends`: every operation that makes requests sends its own.
-/

namespace Freebox

/-! ## Opening sessions -/

/-- What is asked for to open a session: a challenge, or the exchange of a word for a session. -/
inductive Client.Opens (c : Client) : Asking → Prop
  | challenge : c.Opens (.request c.challengeRequest)
  | exchange (appId word : String) : c.Opens (.request (c.exchangeRequest appId word))

/-- It does not matter which session a client has when it opens another one. -/
theorem Client.Opens.session {c : Client} {x : Asking} {session : Option Session}
    (opens : { c with session }.Opens x) : c.Opens x := by
  cases opens with
  | challenge => exact .challenge
  | exchange appId word => exact .exchange appId word

theorem handshakeAsked_opens (s : State) : ∀ x ∈ handshakeAsked s, s.client.Opens x := by
  intro x here
  unfold handshakeAsked at here
  cases credentials : s.client.credentials with
  | error e => simp [credentials] at here
  | ok both =>
    obtain ⟨appId, privateToken⟩ := both
    rw [credentials] at here
    rcases List.mem_cons.mp here with rfl | here
    · exact .challenge
    · cases worded : s.word privateToken with
      | error f => simp [worded] at here
      | ok word =>
        simp only [worded, List.mem_singleton] at here
        subst here
        exact .exchange appId word

/-! ## Stages of one client -/

/-- A stage is an attempt, or a handshake of a client but for its session. -/
def Stage.Of (c : Client) : Stage → Prop
  | handshake start => ∃ session, start.client = { c with session }
  | attempt _ => True

section
variable {α : Type} {operation : Text → Attempt State α} (keeps : ∀ token s, (operation token s).2.client = s.client)
include keeps

theorem attempts_stages (token : Text) (s : State) : ∀ stage ∈ attempts operation token s, stage.Of s.client := by
  intro stage here
  unfold attempts at here
  rcases List.mem_cons.mp here with rfl | here
  · trivial
  · have client := keeps token s
    rcases h : operation token s with ⟨f | v, t⟩ <;> rw [h] at here client
    · cases rejected : f.isRejection with
      | false => simp [rejected] at here
      | true =>
        simp only [rejected, if_true] at here
        rcases List.mem_cons.mp here with rfl | again
        · exact ⟨s.client.session, client⟩
        · rcases renewed : handshake t with ⟨g | ⟨fresh, permissions⟩, u⟩ <;> rw [renewed] at again
          · cases again
          · obtain rfl : stage = .attempt fresh := List.mem_singleton.mp again
            trivial
    · cases here

/-- All handshakes of a course are made by the client that it starts with. -/
theorem course_stages (s : State) : ∀ stage ∈ course operation s, stage.Of s.client := by
  intro stage here
  unfold course at here
  cases session : s.client.session with
  | some there =>
    rw [session] at here
    exact attempts_stages keeps there.token s stage here
  | none =>
    rw [session] at here
    rcases List.mem_cons.mp here with rfl | later
    · exact ⟨s.client.session, rfl⟩
    · have client := handshake_client s
      rcases opened : handshake s with ⟨f | ⟨token, permissions⟩, t⟩ <;> rw [opened] at later client
      · cases later
      · have stages := attempts_stages keeps token t stage later
        cases stage with
        | attempt token => trivial
        | handshake start =>
          obtain ⟨session, started⟩ := stages
          exact ⟨session, by rw [started, client]⟩

end

/-! ## Requests of one sort -/

/-- From one state to another nothing is asked for but sessions, and by requests of one sort. With a session the first
thing asked for is such a request. -/
def State.Sends (own : Request → Prop) (s t : State) : Prop :=
  ∃ news, t.asked = s.asked ++ news ∧ (∀ x ∈ news, s.client.Opens x ∨ ∃ r, x = .request r ∧ own r) ∧
    (s.client.session ≠ none → ∃ r rest, news = .request r :: rest ∧ own r)

/-- The requests of such a stretch. -/
theorem State.Sends.requests {own : Request → Prop} {s t : State} (h : s.Sends own t) :
    ∃ made, t.network.requests = s.network.requests ++ made ∧ ∀ r ∈ made, s.client.Opens (.request r) ∨ own r := by
  obtain ⟨news, asked, sort, -⟩ := h
  refine ⟨news.filterMap Asking.request?, ?_, fun r here => ?_⟩
  · rw [State.requests_eq, State.requests_eq, asked, List.filterMap_append]
  · obtain ⟨x, there, told⟩ := List.mem_filterMap.mp here
    obtain rfl : x = .request r := by
      cases x with
      | request q => exact congrArg Asking.request (Option.some.inj told)
      | channel url headers timeout => cases told
    rcases sort _ there with opens | ⟨q, same, right⟩
    · exact Or.inl opens
    · obtain rfl : r = q := Asking.request.inj same
      exact Or.inr right

/-- **An operation that makes requests** sends its own. -/
theorem Authenticated.run_sends {own : Request → Prop} (a : Authenticated) (s : State)
    (sort : ∀ token, ∃ r, a.asking s.client token = .request r ∧ own r) : s.Sends own (a.run s).2 := by
  refine ⟨(course (a.attempt (s.client.uploads + 1)) (a.begun s)).flatMap (Stage.asked (a.asking s.client)), ?asked,
    ?own, ?first⟩
  case asked =>
    have same : a.asking (a.begun s).client = a.asking s.client := funext (a.asking_begun s)
    rw [a.run_apply, withSession_asked, a.begun_asked, same]
  case own =>
    intro x here
    obtain ⟨stage, there, asked⟩ := List.mem_flatMap.mp here
    have keeps : ∀ token t, (a.attempt (s.client.uploads + 1) token t).2.client = t.client :=
      fun token t => (a.attempt_asks _ token t).client
    have stages := course_stages keeps (a.begun s) stage there
    cases stage with
    | attempt token =>
      obtain rfl : x = a.asking s.client token := List.mem_singleton.mp asked
      exact Or.inr (sort token)
    | handshake start =>
      obtain ⟨session, client⟩ := stages
      have opens : start.client.Opens x := handshakeAsked_opens start x asked
      rw [client] at opens
      have begun : (a.begun s).client.Opens x := opens.session
      refine Or.inl ?_
      -- the number of uploads does not matter to a handshake either
      cases a with
      | upload start =>
        cases begun with
        | challenge => exact .challenge
        | exchange appId word => exact .exchange appId word
      | call method path parcel => exact begun
      | content path => exact begun
      | listening first others => exact begun
  case first =>
    intro there
    obtain ⟨session, cached⟩ := Option.ne_none_iff_exists'.mp there
    obtain ⟨r, asking, right⟩ := sort session.token
    -- the course starts by an attempt under the token that is there
    obtain ⟨later, stages⟩ : ∃ later,
        course (a.attempt (s.client.uploads + 1)) (a.begun s) = .attempt session.token :: later := by
      unfold course attempts
      rw [a.begun_session, cached]
      exact ⟨_, rfl⟩
    refine ⟨r, later.flatMap (Stage.asked (a.asking s.client)), ?_, right⟩
    rw [stages, List.flatMap_cons]
    show [a.asking s.client session.token] ++ _ = _
    rw [asking]
    rfl

end Freebox
