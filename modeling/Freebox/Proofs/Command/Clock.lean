import Freebox.Proofs.Command.History
import Freebox.Proofs.Command.Lockstep
import Mathlib.Data.List.Forall2

/-!
# `Freebox.Proofs.Command.Clock` — the window of a session is advice

The clock is looked at when a session is opened, to tell when its window elapses, and when a client tells about itself.
No request depends on it. So two runs that differ in the time at which they start and in the time that passes between
commands do the same to the outside and bring the same, but for what is told about the window.

## Contents
- `State.SameButTime`, `sameButTime_lockstep`, `handshake_inStep`: two clients at different times.
- `Members.untimed`, `diagnostics_untimed`: what is told about the window.
- `Command.SameButTime`, `Command.Agrees`: commands and results that differ in time alone.
- `Desk.run_agrees`: whole runs.
- `window_advisory`: the clock over every run.
-/

namespace Freebox

open Attempt (InStep inStep_lift)

/-! ## Two clients at different times -/

/-- Two clients at different times: they differ in the window of their sessions and in nothing else, and so do their
networks in the clock. -/
structure State.SameButTime (s t : State) : Prop where
  client : { s.client with session := none } = { t.client with session := none }
  token : s.client.token? = t.client.token?
  peer : s.network.peer = t.network.peer
  log : s.network.log = t.network.log

namespace State.SameButTime

variable {s t : State}

/-- What does not depend on the session of a client is the same. -/
theorem seen {β : Type} (look : Client → β) (beside : ∀ c : Client, look c = look { c with session := none })
    (related : s.SameButTime t) : look s.client = look t.client := by
  have same : look { s.client with session := none } = look { t.client with session := none } :=
    congrArg look related.client
  rwa [← beside, ← beside] at same

/-- Setting anything but the session alike keeps two clients the same. -/
theorem set (change : Client → Client) (beside : ∀ c : Client,
      ({ change c with session := none } : Client) = { change { c with session := none } with session := none })
    (keeps : ∀ c, (change c).token? = c.token?) (related : s.SameButTime t) :
    SameButTime { s with client := change s.client } { t with client := change t.client } where
  client := related.seen (fun c => { change c with session := none }) beside
  token := by
    show (change s.client).token? = (change t.client).token?
    rw [keeps, keeps, related.token]
  peer := related.peer
  log := related.log

end State.SameButTime

/-- Two clients at different times are in step. -/
theorem sameButTime_lockstep : Lockstep (fun _ _ => True) State.SameButTime where
  earlier := fun _ kept => kept
  refl := fun _ => ⟨rfl, rfl, rfl, rfl⟩
  outward := fun related => related.seen Client.outward fun _ => rfl
  token := State.SameButTime.token
  peer := State.SameButTime.peer
  log := State.SameButTime.log
  logged := fun related _ => ⟨related.client, related.token, related.peer, rfl⟩
  later := fun related _ => ⟨related.client, related.token, related.peer, related.log⟩
  dropped := fun related => ⟨related.client, rfl, related.peer, related.log⟩
  counted := fun related uploads => related.set (fun c => { c with uploads }) (fun _ => rfl) fun _ => rfl
  named := fun related appId => related.set (fun c => { c with appId }) (fun _ => rfl) fun _ => rfl
  keyed := fun related privateToken => related.set (fun c => { c with privateToken }) (fun _ => rfl) fun _ => rfl

/-- The two requests of a handshake are the same, as the credentials are. -/
theorem negotiate_inStep : Paced (fun _ _ => True) State.SameButTime negotiate := by
  unfold negotiate
  refine InStep.bind_state sameButTime_lockstep.refl fun s t related => ?_
  have credentials : s.client.credentials = t.client.credentials := related.seen Client.credentials fun _ => rfl
  rw [credentials]
  refine (inStep_lift _).bind fun both => ?_
  refine (sameButTime_lockstep.perform _ _ _ _).bind fun asked => ?_
  refine (inStep_lift _).bind fun word => ?_
  refine (sameButTime_lockstep.perform _ _ _ _).bind fun opened => ?_
  exact inStep_lift _

/-- **Handshakes at different times** open sessions with the same token, if they open any. -/
theorem handshake_inStep : Paced (fun _ _ => True) State.SameButTime handshake := by
  apply sameButTime_lockstep.handshake negotiate_inStep
  intro s t token related
  -- the windows start at different times, but they are those of one token
  exact ⟨related.client, rfl, related.peer, related.log⟩

/-! ## What is told about the window -/

/-- Members without what they tell about the window of a session. -/
def Members.untimed (ms : Members) : Members :=
  ms.map fun m => if m.1 ∈ (["session_expires_at", "session_expired"] : List Text) then (m.1, .null) else m

/-- At different times a client tells the same about itself, but for the window of its session. -/
theorem diagnostics_untimed {s t : State} (related : s.SameButTime t) (now later : Instant) :
    (s.client.diagnostics now).untimed = (t.client.diagnostics later).untimed := by
  have endpoint : s.client.endpoint = t.client.endpoint := related.seen (fun c => c.endpoint) fun _ => rfl
  have version : s.client.version = t.client.version := related.seen (fun c => c.version) fun _ => rfl
  have base : s.client.base = t.client.base := related.seen Client.base fun _ => rfl
  have appId : s.client.appId = t.client.appId := related.seen (fun c => c.appId) fun _ => rfl
  have privateToken : s.client.privateToken = t.client.privateToken :=
    related.seen (fun c => c.privateToken) fun _ => rfl
  have session : s.client.session.isSome = t.client.session.isSome := by
    have token := congrArg Option.isSome related.token
    rwa [Client.token?, Client.token?, Option.isSome_map, Option.isSome_map] at token
  unfold Client.diagnostics
  rw [endpoint, version, base, appId, privateToken, session]
  simp [Members.untimed]

/-! ## Commands and results -/

/-- Two commands are the same but for the time that passes. -/
inductive Command.SameButTime : Command → Command → Prop
  | same (c : Command) : c.SameButTime c
  | pass (microseconds others : Int) : SameButTime (.pass microseconds) (.pass others)

/-- Two results of a command are the same, unless it tells about the client itself: then they are the same but for what
they tell about the window. -/
inductive Command.Agrees : Command → Except Failure Product → Except Failure Product → Prop
  | same (c : Command) (result : Except Failure Product) : c.Agrees result result
  | diagnostics {ms others : Members} (h : ms.untimed = others.untimed) :
      Agrees .diagnostics (.ok (.value (.obj ms))) (.ok (.value (.obj others)))
  | tool {name : String} (arguments : Option Members) {ms others : Members}
      (named : Tool.ofName? name = some .diagnostics) (h : ms.untimed = others.untimed) :
      Agrees (.tool name arguments) (.ok (.value (.str (answerText (.ok (.obj ms))))))
        (.ok (.value (.str (answerText (.ok (.obj others))))))

/-- **One command** at two desks at different times. -/
theorem Command.perform_agrees {c b : Command} (same : c.SameButTime b) {d e : Desk}
    (alike : Desk.Alike State.SameButTime d e) :
    c.Agrees (c.perform d).1 (b.perform e).1 ∧ Desk.Alike State.SameButTime (c.perform d).2 (b.perform e).2 := by
  cases same with
  | pass microseconds others =>
    refine ⟨.same _ _, ?_, alike.files, alike.uploads, alike.streams⟩
    exact ⟨alike.state.client, alike.state.token, alike.state.peer, alike.state.log⟩
  | same =>
    by_cases diagnoses : c.diagnoses
    · cases c with
      | diagnostics => exact ⟨.diagnostics (diagnostics_untimed alike.state _ _), alike⟩
      | tool name arguments =>
        rw [Command.tool_diagnoses diagnoses, Command.tool_diagnoses diagnoses]
        exact ⟨.tool arguments diagnoses (diagnostics_untimed alike.state _ _), alike⟩
      | _ => cases diagnoses
    · have steps := c.perform_inStep sameButTime_lockstep handshake_inStep diagnoses
      obtain ⟨result, after⟩ := steps.along d e alike trivial
      rw [result]
      exact ⟨.same _ _, after⟩

/-! ## Whole runs -/

/-- **Two runs at different times**, by induction on their commands. -/
theorem Desk.run_agrees {cs bs : List Command} (same : List.Forall₂ Command.SameButTime cs bs) {d e : Desk}
    (alike : Alike State.SameButTime d e) :
    List.Forall₂ (fun told result => told.1.Agrees told.2 result) (cs.zip (run cs d).1) (run bs e).1 ∧
      Alike State.SameButTime (run cs d).2 (run bs e).2 := by
  induction same generalizing d e with
  | nil => exact ⟨.nil, alike⟩
  | cons first _ ih =>
    obtain ⟨agrees, after⟩ := Command.perform_agrees first alike
    obtain ⟨results, last⟩ := ih after
    exact ⟨.cons agrees results, last⟩

/-- **The window of a session is advice.** Two runs of the same commands, with the same other side, that differ only in
the time at which they start and in the time that passes do the same to the outside, effect by effect, and have the same
tokens; they bring the same, but for what a client tells about the window of its session. A session that is there is
used however old it is. -/
theorem window_advisory (client : Client) (peer : Peer) (start other : Instant) (cs bs : List Command)
    (same : List.Forall₂ Command.SameButTime cs bs) :
    let after := Desk.run cs (Desk.fresh client peer start)
    let behind := Desk.run bs (Desk.fresh client peer other)
    after.2.state.network.log = behind.2.state.network.log ∧
      after.2.state.client.token? = behind.2.state.client.token? ∧
      List.Forall₂ (fun told result => told.1.Agrees told.2 result) (cs.zip after.1) behind.1 ∧
      after.2.files = behind.2.files ∧ after.2.uploads = behind.2.uploads ∧ after.2.streams = behind.2.streams ∧
      ∀ (s : State) (session : Session),
        s.client.session = some session → ensureSession s = (.ok session.token, s) := by
  intro after behind
  have alike : Desk.Alike State.SameButTime (Desk.fresh client peer start) (Desk.fresh client peer other) :=
    ⟨⟨rfl, rfl, rfl, rfl⟩, rfl, rfl, rfl⟩
  obtain ⟨results, last⟩ := Desk.run_agrees same alike
  refine ⟨last.state.log, last.state.token, results, last.files, last.uploads, last.streams, ?_⟩
  intro s session there
  rw [ensureSession_apply, there]

/-- Half an hour and a minute after it was opened a session is told to be expired, and is used all the same. -/
theorem window_advisory_elapsed :
    let client := Client.create "http://fbx.test" "v8" (some "app") (some "secret") (.int 10) true
    let told := fun result =>
      let body := "\x7b\"success\": true, \"result\": " ++ result ++ "\x7d"
      Reply.received ⟨200, [], [Utf8.encode body.toList], none⟩
    let peer : Peer := ⟨fun _ r =>
      if r.url = client.url "login" then told "\x7b\"challenge\": \"VzhbtpR4\"\x7d"
      else if r.url = client.url "login/session" then told "\x7b\"session_token\": \"token\"\x7d"
      else told "[]", fun _ => .refused .closedNormally⟩
    let list : Command := .operate (.ok Resource.PortForwarding.list)
    let cs : List Command := [.login, .pass 1860000000, list]
    let bs : List Command := [.login, .pass 0, list]
    let expired := fun d : Desk => d.state.client.session.map fun session => session.expired d.state.network.now
    (Desk.run cs (Desk.fresh client peer ⟨0⟩)).2.state.network.log
        = (Desk.run bs (Desk.fresh client peer ⟨0⟩)).2.state.network.log ∧
      (Desk.run cs (Desk.fresh client peer ⟨0⟩)).2.state.network.requests.map (·.url)
        = [client.url "login", client.url "login/session", client.url "fw/redir/"] ∧
      expired (Desk.run cs (Desk.fresh client peer ⟨0⟩)).2 = some true ∧
      expired (Desk.run bs (Desk.fresh client peer ⟨0⟩)).2 = some false := by
  intro client told peer list cs bs expired
  have same : List.Forall₂ Command.SameButTime cs bs := .cons (.same _) (.cons (.pass _ _) (.cons (.same _) .nil))
  obtain ⟨log, -⟩ := window_advisory client peer ⟨0⟩ ⟨0⟩ cs bs same
  refine ⟨log, ?_, ?_, ?_⟩
  · decide +kernel
  · decide +kernel
  · decide +kernel

end Freebox
