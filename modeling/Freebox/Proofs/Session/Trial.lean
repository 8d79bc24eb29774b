import Freebox.Proofs.Session.Course

/-!
# `Freebox.Proofs.Session.Trial` — the tokens that attempts show

An operation is tried with the session that is there, or with one that is opened for it, and after a rejection once more
with the session that is renewed. Whichever it is, an attempt is made under the token of the session at that moment.
Files and channels show that token whatever it is. A call shows it unless it is empty: the box may issue such a token
and the client takes it, but the header is left out then, as if there were no session.

## Contents
- `Tries`, `Tries.current`: the states that attempts start from, and the session there.
- `mem_course_iff`: the attempts of a course.
- `State.Extends`, `pursue_extends`, `Tries.asked`: attempts are made in the course of the operation.
- `run_shows`: the tokens that operations show, from every state.
-/

namespace Freebox

open Attempt (Keeps)

/-! ## Attempts and where they start -/

section
variable {α : Type} {operation : Text → Attempt State α} {s t : State} {token : Text}

/-- An operation is tried under a token from a state: first with the session that is there or that is opened, and again,
after a rejection, with the session that is renewed. -/
inductive Tries (operation : Text → Attempt State α) (s : State) : Text → State → Prop
  | first {token : Text} {t : State} (ready : Ready s token t) : Tries operation s token t
  | again {token fresh : Text} {t u w : State} {f : Failure} {permissions : Record} (ready : Ready s token t)
      (tried : operation token t = (.error f, u)) (rejected : f.isRejection = true)
      (renewed : handshake u = (.ok (fresh, permissions), w)) : Tries operation s fresh w

/-- The token is that of the session there. -/
theorem Tries.current (tries : Tries operation s token t) : t.client.token? = some token := by
  cases tries with
  | first ready => exact ready.current
  | again ready tried rejected renewed => exact handshake_opens renewed

theorem mem_attempts_iff {fresh : Text} : Stage.attempt fresh ∈ attempts operation token t ↔ fresh = token ∨
    ∃ f u permissions w, operation token t = (.error f, u) ∧ f.isRejection = true ∧
      handshake u = (.ok (fresh, permissions), w) := by
  unfold attempts
  rcases tried : operation token t with ⟨f | v, u⟩
  · by_cases rejected : f.isRejection = true
    · rcases renewed : handshake u with ⟨g | ⟨other, permissions⟩, w⟩
      · simp [rejected, renewed]
      · simp only [rejected, renewed, if_true, List.mem_cons, Stage.attempt.injEq, reduceCtorEq, List.not_mem_nil,
          or_false, false_or]
        refine or_congr_right ⟨?_, ?_⟩
        · rintro rfl
          exact ⟨f, u, permissions, w, rfl, rejected, renewed⟩
        · rintro ⟨_, _, _, _, ⟨⟩, -, again⟩
          rw [renewed] at again
          cases again
          rfl
    · simp [rejected]
  · simp

/-- The attempts of a course are those that are tried. -/
theorem mem_course_iff : Stage.attempt token ∈ course operation s ↔ ∃ t, Tries operation s token t := by
  constructor
  · intro here
    -- either way there is a session to start with, and the course goes on from its first attempt
    have onward {first : Text} {t : State} (ready : Ready s first t)
        (later : Stage.attempt token ∈ attempts operation first t) : ∃ t, Tries operation s token t := by
      rcases mem_attempts_iff.mp later with rfl | ⟨f, u, permissions, w, tried, rejected, renewed⟩
      · exact ⟨t, .first ready⟩
      · exact ⟨w, .again ready tried rejected renewed⟩
    unfold course at here
    cases there : s.client.session with
    | some session =>
      rw [there] at here
      exact onward (.cached there) here
    | none =>
      rw [there] at here
      rcases opened : handshake s with ⟨f | ⟨first, permissions⟩, t⟩
      · simp [opened] at here
      · simp only [opened, List.mem_cons, reduceCtorEq, false_or] at here
        exact onward (.opened there opened) here
  · have inside {first : Text} {t : State} (ready : Ready s first t)
        (later : Stage.attempt token ∈ attempts operation first t) : Stage.attempt token ∈ course operation s := by
      unfold course
      cases ready with
      | cached there =>
        rw [there]
        exact later
      | opened none_there opened =>
        rw [none_there]
        simp only [opened]
        exact List.mem_cons_of_mem _ later
    rintro ⟨t, ready | ⟨ready, tried, rejected, renewed⟩⟩
    · exact inside ready (mem_attempts_iff.mpr (.inl rfl))
    · exact inside ready (mem_attempts_iff.mpr (.inr ⟨_, _, _, _, tried, rejected, renewed⟩))

end

/-! ## Attempts in the course of an operation -/

/-- What was asked for at a state was asked for at a later one too, before anything else. -/
def State.Extends (s t : State) : Prop := s.asked <+: t.asked

instance : Std.Refl State.Extends := ⟨fun _ => List.prefix_rfl⟩

instance : IsTrans State State.Extends := ⟨fun _ _ _ => List.IsPrefix.trans⟩

theorem Asks.extends {news : List Asking} {s t : State} (h : Asks news s t) : s.Extends t := ⟨news, h.asked.symm⟩

theorem handshake_extends : Keeps State.Extends handshake := fun s => ⟨_, (handshake_asked s).symm⟩

/-- What a first attempt asks for stays what was asked for next, whatever follows upon it. -/
theorem pursue_extends (a : Authenticated) (number : Nat) (token : Text) (t : State) :
    (a.attempt number token t).2.Extends (pursue (a.attempt number) token t).2 := by
  rw [pursue_apply]
  rcases tried : a.attempt number token t with ⟨(⟨e, cause⟩ | f) | v, u⟩
  · by_cases rejected : e.isAuthRequired = true
    · have renewal : u.Extends (renew token u).2 := renew_keeps handshake_extends token u
      simp only [rejected, if_true]
      rcases renewed : renew token u with ⟨g | fresh, w⟩ <;> rw [renewed] at renewal
      · exact renewal
      · exact trans_of State.Extends renewal (a.attempt_asks number fresh w).extends
    · simp only [rejected]
      exact refl_of State.Extends u
  · exact refl_of State.Extends u
  · exact refl_of State.Extends u

/-- Between the start of an operation and an attempt there are handshakes and attempts, so an attempt asks for what it
would have asked for at the start. -/
theorem Tries.asking {a : Authenticated} {number : Nat} {s t : State} {token : Text}
    (tries : Tries (a.attempt number) s token t) : a.asking t.client = a.asking s.client := by
  have ready_asking {token : Text} {t : State} (ready : Ready s token t) : a.asking t.client = a.asking s.client := by
    cases ready with
    | cached there => rfl
    | opened none_there opened =>
      have same := asking_after_handshake a s
      rwa [opened] at same
  cases tries with
  | first ready => exact ready_asking ready
  | again ready tried rejected renewed =>
    rename_i first t u f permissions
    have kept := (a.attempt_asks number first t).client
    have same := asking_after_handshake a u
    rw [tried] at kept
    rw [renewed] at same
    exact same.trans ((congrArg a.asking kept).trans (ready_asking ready))

/-- **An attempt is made in the course of its operation**: what it asks for comes just behind all that was asked for
where it starts. -/
theorem Tries.asked {a : Authenticated} {number : Nat} {s t : State} {token : Text}
    (tries : Tries (a.attempt number) s token t) :
    t.asked ++ [a.asking s.client token] <+: (withSession (a.attempt number) s).2.asked := by
  have made : (a.attempt number token t).2.asked = t.asked ++ [a.asking s.client token] := by
    rw [(a.attempt_asks number token t).asked, tries.asking]
  rw [← made]
  cases tries with
  | first ready =>
    rw [withSession_of_ready ready]
    exact pursue_extends a number token t
  | again ready tried rejected renewed =>
    rename_i first u v f permissions
    have current : v.client.token? = some first := by
      have kept := (a.attempt_asks number first u).client
      rw [tried] at kept
      rw [kept]
      exact ready.current
    have again := pursue_again tried rejected current renewed
    rw [withSession_of_ready ready]
    exact ⟨[], by rw [again, List.append_nil]⟩

/-- **The tokens that operations show**, from every state and against every other side. An operation asks for what its
stages ask for. Its attempts are those that it is tried by, each from a state whose session has the token of the attempt
at that moment, just behind what was asked for until then. An attempt asks once and shows that token and no other,
except that a call under an empty token shows none. -/
theorem run_shows (a : Authenticated) (s : State) :
    let attempt := a.attempt (s.client.uploads + 1)
    let stages := course attempt (a.begun s)
    (a.run s).2.asked = s.asked ++ stages.flatMap (Stage.asked (a.asking s.client)) ∧
      (∀ token, .attempt token ∈ stages ↔ ∃ t, Tries attempt (a.begun s) token t) ∧
      ∀ token t, Tries attempt (a.begun s) token t →
        t.client.token? = some token ∧ Asks [a.asking s.client token] t (attempt token t).2 ∧
          t.asked ++ [a.asking s.client token] <+: (a.run s).2.asked ∧
          (a.asking s.client token).tokens = if a.isCall ∧ token = "" then [] else [token] := by
  intro attempt stages
  have same : a.asking (a.begun s).client = a.asking s.client := funext (a.asking_begun s)
  refine ⟨?stages, fun token => mem_course_iff, fun token t tries => ⟨tries.current, ?asks, ?within, ?shows⟩⟩
  case stages => rw [a.run_apply, withSession_asked, a.begun_asked, same]
  case asks =>
    have asks := a.attempt_asks (s.client.uploads + 1) token t
    rwa [tries.asking, same] at asks
  case within =>
    have within := tries.asked
    rwa [same, ← a.run_apply] at within
  case shows => exact a.asking_tokens s.client token

/-- A box that issues an empty token sees it with a file, and does not see it with a call. -/
theorem empty_token_hidden :
    let client := Client.create "http://fbx.test" "v8" (some "app") (some "secret") (.int 10) true
    let told := fun result =>
      let body := "\x7b\"success\": true, \"result\": " ++ result ++ "\x7d"
      Reply.received ⟨200, [], [Utf8.encode body.toList], none⟩
    let peer : Peer := ⟨fun before _ =>
      if before.length = 0 then told "\x7b\"challenge\": \"VzhbtpR4\"\x7d"
      else if before.length = 1 then told "\x7b\"session_token\": \"\"\x7d"
      else told "[]", fun _ => .refused .closedNormally⟩
    let opened := (login ⟨client, ⟨peer, ⟨0⟩, []⟩⟩).2
    let listed := ((Authenticated.call "GET" "fw/redir/" {}).run opened).2
    let loaded := ((Authenticated.content "/a").run listed).2
    opened.client.token? = some "" ∧ loaded.client.token? = some "" ∧
      loaded.asked.map Asking.tokens = [[], [], [], [Text.ofString ""]] := by
  intro client told peer opened listed loaded
  refine ⟨?_, ?_, ?_⟩
  · decide +kernel
  · decide +kernel
  · decide +kernel

end Freebox
