import Freebox.Proofs.Session.Renewal

/-!
# `Freebox.Proofs.Session.Course` — the stages of an operation under a session

An operation goes through a handshake if there is no session, an attempt, and after a rejection a renewal and a second
attempt. Each stage is taken only if the one before it ended in a certain way, so there are four of them at most, and
what was asked for is what the stages asked for.

## Contents
- `Stage`, `course`: the stages, by how each of them ends.
- `Stage.asked`: what a stage asks for.
- `course_bounded`: how many stages of each kind there are.
- `withSession_carries`: what the single stages carry on, the whole operation does.
- `run_asked`: every operation asks for what its course asks for.
-/

namespace Freebox

/-! ## Stages -/

/-- A stage of an operation: a handshake from a state, or an attempt under a token. -/
inductive Stage where
  | handshake (start : State)
  | attempt (token : Text)

namespace Stage

/-- Whether a stage is a handshake. -/
def isHandshake : Stage → Bool
  | handshake _ => true
  | attempt _ => false

@[simp] theorem isHandshake_handshake (start : State) : (handshake start).isHandshake = true := rfl
@[simp] theorem isHandshake_attempt (token : Text) : (attempt token).isHandshake = false := rfl

/-- What a stage asks for, where an attempt asks for one thing. -/
def asked (asking : Text → Asking) : Stage → List Asking
  | handshake start => handshakeAsked start
  | attempt token => [asking token]

end Stage

section
variable {α : Type}

/-- The stages from the first attempt on: a renewal if and only if the attempt is rejected, and a second attempt if and
only if the renewal succeeds. -/
def attempts (operation : Text → Attempt State α) (token : Text) (s : State) : List Stage :=
  .attempt token :: match operation token s with
    | (.ok _, _) => []
    | (.error f, t) =>
      if f.isRejection then
        .handshake t :: match handshake t with
          | (.ok (fresh, _), _) => [.attempt fresh]
          | (.error _, _) => []
      else []

/-- The stages of an operation: a handshake if and only if there is no session, and attempts if and only if there is one
then. -/
def course (operation : Text → Attempt State α) (s : State) : List Stage :=
  match s.client.session with
  | some session => attempts operation session.token s
  | none => .handshake s :: match handshake s with
    | (.ok (token, _), t) => attempts operation token t
    | (.error _, _) => []

/-! ## How many there are -/

theorem attempts_bounded (operation : Text → Attempt State α) (token : Text) (s : State) :
    (attempts operation token s).countP (!·.isHandshake) ≤ 2 ∧
      (attempts operation token s).countP (·.isHandshake) ≤ 1 := by
  unfold attempts
  rcases operation token s with ⟨f | v, t⟩
  · cases rejected : f.isRejection with
    | false => simp [rejected]
    | true =>
      rcases renewed : handshake t with ⟨g | ⟨fresh, permissions⟩, u⟩ <;>
        simp [rejected, renewed, List.countP_cons]
  · simp

/-- There are two attempts at most, and one handshake at most beside the one that opens the session. -/
theorem course_bounded (operation : Text → Attempt State α) (s : State) :
    (course operation s).countP (!·.isHandshake) ≤ 2 ∧
      (course operation s).countP (·.isHandshake) ≤ (if s.client.session = none then 2 else 1) := by
  unfold course
  cases s.client.session with
  | some session => simpa using attempts_bounded operation session.token s
  | none =>
    rcases opened : handshake s with ⟨f | ⟨token, permissions⟩, t⟩
    · simp
    · obtain ⟨tries, renewals⟩ := attempts_bounded operation token t
      simp only [List.countP_cons, Stage.isHandshake_handshake, if_true]
      exact ⟨by simpa using tries, by omega⟩

end

/-! ## Along the stages -/

section
variable {α β : Type} {operation : Text → Attempt State α} (account : Stage → List β)
  (Holds : List β → State → Prop)

/-- What an attempt and a renewal after it carry on is carried on by all that follows upon a first attempt. -/
theorem pursue_carries (keeps : ∀ token s, (operation token s).2.client = s.client)
    (handshakes : ∀ before s, Holds before s → Holds (before ++ account (.handshake s)) (handshake s).2)
    (tries : ∀ before s token, Holds before s → s.client.token? = some token →
      Holds (before ++ account (.attempt token)) (operation token s).2)
    {before : List β} {token : Text} {s : State} (start : Holds before s) (ready : s.client.token? = some token) :
    Holds (before ++ (attempts operation token s).flatMap account) (pursue operation token s).2 := by
  have tried := tries before s token start ready
  have current : (operation token s).2.client.token? = some token := by rw [keeps]; exact ready
  unfold attempts
  -- the attempt leaves the client, so its token is still the current one and a renewal is a handshake
  rcases h : operation token s with ⟨f | v, t⟩ <;> rw [h] at tried current
  · cases rejected : f.isRejection with
    | false =>
      rw [pursue_kept h rejected]
      simpa [rejected] using tried
    | true =>
      have renewing := handshakes _ t tried
      rcases renewed : handshake t with ⟨g | ⟨fresh, permissions⟩, u⟩ <;> rw [renewed] at renewing
      · -- whatever failure is told now, the state is the one that the handshake left
        have ended : (pursue operation token s).2 = u := by
          cases f with
          | fault f => simp [Failure.isRejection] at rejected
          | box e cause => rw [pursue_unrenewed h rejected current renewed]
        rw [ended]
        simpa [rejected, renewed] using renewing
      · have again := tries _ u fresh renewing (handshake_opens renewed)
        rw [pursue_again h rejected current renewed]
        simpa [rejected, renewed] using again
  · rw [pursue_ok h]
    simpa using tried

/-- **Along the stages.** What handshakes carry on from any state, and attempts from every state with a session, is
carried on by the whole operation, stage by stage. -/
theorem withSession_carries (keeps : ∀ token s, (operation token s).2.client = s.client)
    (handshakes : ∀ before s, Holds before s → Holds (before ++ account (.handshake s)) (handshake s).2)
    (tries : ∀ before s token, Holds before s → s.client.token? = some token →
      Holds (before ++ account (.attempt token)) (operation token s).2)
    {before : List β} {s : State} (start : Holds before s) :
    Holds (before ++ (course operation s).flatMap account) (withSession operation s).2 := by
  unfold course
  cases hs : s.client.session with
  | some session =>
    have ready : Ready s session.token s := .cached hs
    rw [withSession_of_ready ready]
    exact pursue_carries account Holds keeps handshakes tries start ready.current
  | none =>
    have opening := handshakes before s start
    rcases opened : handshake s with ⟨f | ⟨token, permissions⟩, t⟩ <;> rw [opened] at opening
    · rw [withSession_of_unopened hs opened]
      simpa using opening
    · have ready : Ready s token t := .opened hs opened
      have pursued := pursue_carries account Holds keeps handshakes tries opening ready.current
      rw [withSession_of_ready ready]
      simpa using pursued

end

/-! ## What the stages ask for -/

/-- After a handshake an attempt asks for the same under a token as before it. -/
theorem asking_after_handshake (a : Authenticated) (s : State) :
    a.asking (handshake s).2.client = a.asking s.client := by
  funext token
  rw [handshake_client, Authenticated.asking_session]

/-- An operation with a session asks for what its stages ask for. -/
theorem withSession_asked (a : Authenticated) (number : Nat) (s : State) :
    (withSession (a.attempt number) s).2.asked
      = s.asked ++ (course (a.attempt number) s).flatMap (Stage.asked (a.asking s.client)) := by
  -- the course is told by what the client was at the start, so it must not have changed where that matters
  have carried := withSession_carries (Stage.asked (a.asking s.client))
    (fun asked t => t.asked = asked ∧ a.asking t.client = a.asking s.client)
    (fun token t => (a.attempt_asks number token t).client) ?handshakes ?tries ⟨rfl, rfl⟩
  · exact carried.1
  case handshakes =>
    rintro before t ⟨rfl, same⟩
    exact ⟨handshake_asked t, (asking_after_handshake a t).trans same⟩
  case tries =>
    rintro before t token ⟨rfl, same⟩ _
    have tried := a.attempt_asks number token t
    exact ⟨by rw [tried.asked, same]; rfl, by rw [tried.client, same]⟩

/-- **Bounded renewal.** Whatever the other side does, an operation under a session asks for what the stages of its
course ask for, in their order, and for nothing else. There are two attempts at most, and one handshake at most beside
the one that opens a session where there is none; all attempts of an operation ask for the same but for the token that
they show. -/
theorem run_asked (a : Authenticated) (s : State) :
    let stages := course (a.attempt (s.client.uploads + 1)) (a.begun s)
    (a.run s).2.asked = s.asked ++ stages.flatMap (Stage.asked (a.asking s.client)) ∧
      stages.countP (!·.isHandshake) ≤ 2 ∧
      stages.countP (·.isHandshake) ≤ (if s.client.session = none then 2 else 1) ∧
      ∀ token fresh, (a.asking s.client token).bare = (a.asking s.client fresh).bare ∧
        ∀ shown ∈ (a.asking s.client token).tokens, shown = token := by
  intro stages
  obtain ⟨tries, handshakes⟩ := course_bounded (a.attempt (s.client.uploads + 1)) (a.begun s)
  rw [a.begun_session] at handshakes
  refine ⟨?_, tries, handshakes, fun token fresh => ⟨a.asking_bare s.client token fresh, fun shown => ?_⟩⟩
  · have same : a.asking (a.begun s).client = a.asking s.client := funext (a.asking_begun s)
    rw [a.run_apply, withSession_asked, a.begun_asked, same]
  · exact a.mem_asking_tokens s.client

end Freebox
