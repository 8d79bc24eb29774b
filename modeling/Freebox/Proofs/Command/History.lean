import Freebox.Proofs.Command.SessionUse

/-!
# `Freebox.Proofs.Command.History` — tokens over whole runs

The history of a run is the chronicle that its commands write, one after the other. A client that starts without
a session lives by its history wherever the run has got to, so its session and all tokens it ever showed are told by
the exchanges of that run alone.

## Contents
- `SessionUse.moments`, `Lives.sessionUse`: what one command writes.
- `Desk.history`, `Lives.run`: what a run writes.
- `Desk.fresh`: a client that has done nothing yet.
- `run_provenance`: where tokens come from, over every run.
-/

namespace Freebox

/-- The moments of a use of the session between two states. What was done aside is told by what was asked for since. -/
def SessionUse.moments : SessionUse → State → State → List Moment
  | plain, s, t => (t.asked.drop s.asked.length).map .asked
  | login, s, _ => handshakeMoments s
  | logout, s, _ => leavingMoments s
  | renew stale, s, _ =>
    -- a session under another token is left as it is
    match s.client.token?.filter (· != stale) with
    | some _ => []
    | none => handshakeMoments s
  | operation a, s, _ => a.moments s

namespace Desk

/-- The history of a run. -/
def history : List Command → Desk → List Moment
  | [], _ => []
  | c :: cs, d => c.sessionUse.moments d.state (c.perform d).2.state ++ history cs (c.perform d).2

/-- A desk with a client that has done nothing yet. -/
def fresh (client : Client) (peer : Peer) (now : Instant) : Desk := { state := { client, network := { peer, now } } }

end Desk

namespace Lives

variable {base : String} {peer : Peer} {h : List Moment} {s t : State}

/-- What asks for nothing and leaves the client as it is leaves its chronicle as well. -/
theorem quietly (lives : Lives base peer h s) (still : Asks [] s t) : Lives base peer h t := by
  have asked : t.asked = s.asked := by simpa using still.asked
  exact {
    address := (congrArg Client.base still.client).trans lives.address
    otherSide := still.peer.trans lives.otherSide
    asked := asked.trans lives.asked
    session := fun token => by
      rw [still.client]
      exact lives.session token
    sound := lives.sound }

theorem freshToken (lives : Lives base peer h s) :
    Lives base peer (h ++ handshakeMoments s) (freshToken s).2 := by
  rw [freshToken_state]
  exact lives.handshake

/-- **One command**: a client that lives by its chronicle lives by it with the moments of the command added. -/
theorem sessionUse {e : SessionUse} (lives : Lives base peer h s) (transition : e.Transition s t) :
    Lives base peer (h ++ e.moments s t) t := by
  cases e with
  | plain => exact lives.aside transition
  | login =>
    obtain rfl : t = (Freebox.handshake s).2 := transition
    exact lives.handshake
  | logout => exact lives.logout.quietly transition
  | renew stale =>
    obtain rfl : t = (Freebox.renew stale s).2 := transition
    rw [renew_apply, SessionUse.moments]
    cases s.client.token?.filter (· != stale) with
    | some token => simpa using lives
    | none => exact lives.freshToken
  | operation a =>
    obtain rfl : t = (a.run s).2 := transition
    exact lives.operation a

/-- **A whole run**, by induction on its commands. -/
theorem run (cs : List Command) {d : Desk} (lives : Lives base peer h d.state) :
    Lives base peer (h ++ Desk.history cs d) (Desk.run cs d).2.state := by
  -- the chronicle so far is kept general: the commands that are left start in the middle of a run
  induction cs generalizing d h with
  | nil => simpa [Desk.history, Desk.run] using lives
  | cons c cs ih =>
    have step := lives.sessionUse (c.perform_transition d)
    have rest := ih step
    rw [List.append_assoc] at rest
    exact rest

/-- A client that has done nothing lives by nothing. -/
theorem fresh (client : Client) (unopened : client.session = none) (peer : Peer) (now : Instant) :
    Lives client.base peer [] (Desk.fresh client peer now).state where
  address := rfl
  otherSide := rfl
  asked := rfl
  session := fun token => by
    show client.token? = some token ↔ _
    rw [Client.token?, unopened]
    exact iff_of_false (by simp) (not_standing_nil token)
  sound := Sound.nil

end Lives

/-- **Where tokens come from.** Over every run of a client, against every other side: the history tells all that was
asked for; a token is shown under the address of the box only, and only while it stands, that is, while it is the one
opened last and no leaving and no handshake that failed with an error of the box came since; a token is opened only as
the reply to an exchange tells it; and the session has the token that stands, if one does, and there is none otherwise.
-/
theorem run_provenance (address version : String) (appId privateToken : Option String) (timeout : Quantity)
    (ownsTransport : Bool) (peer : Peer) (now : Instant) (cs : List Command) :
    let client := Client.create address version appId privateToken timeout ownsTransport
    let history := Desk.history cs (Desk.fresh client peer now)
    let last := (Desk.run cs (Desk.fresh client peer now)).2.state
    last.asked = askings history ∧
      (∀ before a after, history = before ++ .asked a :: after → ∀ token ∈ a.tokens,
        a.Under client.base ∧ Standing before token) ∧
      (∀ before token after, history = before ++ .opened token :: after → Granted client.base peer before token) ∧
      ∀ token, last.client.token? = some token ↔ Standing history token := by
  intro client history last
  have lives : Lives client.base peer history last := (Lives.fresh client rfl peer now).run cs
  refine ⟨lives.asked, ?shown, ?granted, lives.session⟩
  case shown =>
    intro before a after e
    exact lives.sound before (.asked a) after e
  case granted =>
    intro before token after e
    exact lives.sound before (.opened token) after e

end Freebox
