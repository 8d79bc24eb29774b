import Freebox.Command
import Freebox.Proofs.Network.Silence
import Freebox.Proofs.Session.Challenge

/-!
# `Freebox.Proofs.Command.SessionUse` — what commands mean for the session

However many commands there are, few things can happen to a session: it is opened, given up, renewed, or used by an
operation. All other commands are done aside: they leave the session and show no token.

## Contents
- `SessionUse`, `Command.sessionUse`: what a command means for the session. `Tool.plan_of`: what tools plan.
- `Desk.file_quiet`, `Desk.upload_quiet`, `Desk.stream_quiet`: what asks for nothing. `Desk.told`, `Desk.told_state`,
  `Desk.kept_state`: what a step brings does not matter to what it does.
- `SessionUse.Transition`, `Command.perform_transition`: what comes of every command.
- `SessionUse.transition_keeps`: what uses of the session keep.
-/

namespace Freebox

open Attempt (Keeps keeps_update)

/-! ## Uses of the session -/

/-- What a command means for the session. -/
inductive SessionUse where
  | plain
  | login
  | logout
  | renew (stale : Text)
  | operation (a : Authenticated)

/-- The call that an operation is. -/
def Operation.authenticated (o : Operation) : Authenticated :=
  .call o.method o.path { payload := o.payload, form := o.form }

/-- What a plan means for the session. -/
def Plan.sessionUse : Plan → SessionUse
  | operation o _ => .operation o.authenticated
  | login => .login
  | describe | diagnostics => .plain

/-- A plan of a tool: an operation, or the one thing without an operation that the tool is for. -/
def Plan.Of (tool : Tool) : Plan → Prop
  | operation _ _ => True
  | describe => tool = .apiVersion
  | login => tool = .login
  | diagnostics => tool = .diagnostics

theorem Tool.plan_of (tool : Tool) (arguments : Members) : Yields (Plan.Of tool) (tool.plan arguments) := by
  cases tool with
  | apiVersion | login | diagnostics => exact .ok rfl
  | listPortForwarding | listDhcpLeases | listVirtualMachines | listDownloads | listFilesystemTasks | listLanHosts =>
    exact .ok trivial
  | getPortForwarding | addPortForwarding | addDhcpLease | deleteDhcpLease =>
    exact EndsIn.any.bind fun _ _ => .ok trivial
  | deletePortForwarding | startVirtualMachine | stopVirtualMachine | getFileInfo =>
    exact EndsIn.any.bind fun _ _ => EndsIn.any.bind fun _ _ => .ok trivial
  | addDownload => exact EndsIn.any.bind fun _ _ => EndsIn.any.bind fun _ _ => EndsIn.any.bind fun _ _ => .ok trivial

/-- What the tool of a name means for the session: what the plan for its arguments means, if there is one. -/
def toolSessionUse (name : String) (arguments : Members) : SessionUse :=
  match Tool.ofName? name with
  | none => .plain
  | some tool =>
    match tool.plan arguments with
    | .error _ => .plain
    | .ok plan => plan.sessionUse

/-- What a command means for the session. -/
def Command.sessionUse : Command → SessionUse
  | login => .login
  | logout | close => .logout
  | call method path true parcel => .operation (.call method path parcel)
  | renew stale => .renew stale
  | operate (.ok o) => .operation o.authenticated
  | tool name arguments => toolSessionUse name (arguments.getD [])
  | openContent path => .operation (.content path)
  | startUpload start => .operation (.upload start)
  | listen (first :: others) => .operation (.listening first others)
  | _ => .plain

/-! ## Asking without a token -/

theorem perform_aside (method : String) (path : Text) (parcel : Parcel) :
    Keeps Aside (perform method path none parcel) := by
  intro s
  refine Aside.of_asks (perform_asks method path none parcel s) fun a ha => ?_
  rw [List.mem_singleton.mp ha]
  exact tokens_of_accept rfl

/-! ## At a desk -/

namespace Desk

variable {α : Type}

theorem client_state (a : Attempt State α) (d : Desk) : (client a d).2.state = (a d.state).2 := rfl

/-- Reading a file does nothing to the client. -/
theorem file_quiet (i : Nat) (a : Attempt FileContent α) (d : Desk) : Asks [] d.state (file i a d).2.state := by
  unfold file
  cases d.files[i]? <;> exact refl_of (Asks []) d.state

/-- What happens on an open channel asks for nothing. -/
theorem withLog_quiet {d : Desk} {log : List Effect}
    (silent : log.filterMap Effect.asking? = d.state.network.log.filterMap Effect.asking?) :
    Asks [] d.state (d.withLog log).state := by
  refine ⟨rfl, rfl, ?_⟩
  rw [List.append_nil]
  exact silent

theorem upload_quiet (i : Nat) {a : Attempt (Logged Upload) α} (silent : Keeps Channel.Silent a) (d : Desk) :
    Asks [] d.state (upload i a d).2.state := by
  unfold upload
  cases d.uploads[i]? with
  | none => exact refl_of (Asks []) d.state
  | some u => exact withLog_quiet (silent ⟨u, d.state.network.log⟩)

theorem stream_quiet (i : Nat) {a : Attempt (Logged EventStream) α} (silent : Keeps Channel.Silent a) (d : Desk) :
    Asks [] d.state (stream i a d).2.state := by
  unfold stream
  cases d.streams[i]? with
  | none => exact refl_of (Asks []) d.state
  | some s => exact withLog_quiet (silent ⟨s, d.state.network.log⟩)

/-- What is brought by a step does not matter to the state it leaves. -/
theorem told_state (a : Attempt State α) (f : α → Product) (d : Desk) :
    ((client a >>= fun v => pure (f v) : Attempt Desk Product) d).2.state = (a d.state).2 := by
  rw [Attempt.map_state, client_state]

theorem told {R : State → State → Prop} {a : Attempt Desk α} {f : α → Product} {d : Desk}
    (h : R d.state (a d).2.state) : R d.state ((a >>= fun v => pure (f v) : Attempt Desk Product) d).2.state := by
  rw [Attempt.map_state]
  exact h

/-- What is opened by a step is kept at the desk, and does not matter to the state either. -/
theorem kept_state (a : Attempt State α) (keep : α → Desk → Desk) (f : α → Product)
    (same : ∀ v d, (keep v d).state = d.state) (d : Desk) :
    ((client a >>= fun v => .update (keep v) >>= fun _ => pure (f v) : Attempt Desk Product) d).2.state
      = (a d.state).2 := by
  rw [Attempt.bind_apply]
  have reached := client_state a d
  rcases h : client a d with ⟨e | v, t⟩ <;> rw [h] at reached
  · exact reached
  · exact (same v t).trans reached

end Desk

/-! ## From state to state -/

/-- What comes of a use of the session. Closing a client may hang up after the leaving. -/
def SessionUse.Transition : SessionUse → State → State → Prop
  | plain, s, t => Aside s t
  | login, s, t => t = (handshake s).2
  | logout, s, t => Asks [] (Freebox.logout s).2 t
  | renew stale, s, t => t = (Freebox.renew stale s).2
  | operation a, s, t => t = (a.run s).2

/-- **A use of the session** keeps what handshakes, leavings and operations keep, and what asks for nothing. -/
theorem SessionUse.transition_keeps {R : State → State → Prop} [Std.Refl R] [IsTrans State R] {e : SessionUse}
    {s t : State} (session : e ≠ .plain) (quiet : ∀ s t, Asks [] s t → R s t) (opens : Keeps R handshake)
    (leaves : Keeps R Freebox.logout) (operates : ∀ a, e = .operation a → Keeps R a.run)
    (transition : e.Transition s t) : R s t := by
  cases e with
  | plain => exact absurd rfl session
  | login =>
    obtain rfl : t = (handshake s).2 := transition
    exact opens s
  | logout => exact trans_of R (leaves s) (quiet _ t transition)
  | renew stale =>
    obtain rfl : t = (Freebox.renew stale s).2 := transition
    exact renew_keeps opens stale s
  | operation a =>
    obtain rfl : t = (a.run s).2 := transition
    exact operates a rfl s

theorem login_state (s : State) : (login s).2 = (handshake s).2 := by
  unfold login
  rw [Attempt.bind_apply]
  rcases handshake s with ⟨f | ⟨token, permissions⟩, t⟩ <;> rfl

theorem close_asks (s : State) : Asks [] (logout s).2 (close s).2 := by
  refine Attempt.Keeps.bind_tail (fun _ => keeps_update fun t => ?_) logout s
  cases t.client.ownsTransport with
  | true => exact Asks.of_did .hangUp t
  | false => exact refl_of (Asks []) t

theorem operation_state (o : Operation) (s : State) : (o.run s).2 = (o.authenticated.run s).2 := by
  unfold Operation.run
  rw [Attempt.bind_lift]
  rfl

theorem plan_transition (plan : Plan) (s : State) : plan.sessionUse.Transition s (plan.run s).2 := by
  cases plan with
  | operation o report => exact (Attempt.map_state o.run report s).trans (operation_state o s)
  | describe =>
    show Aside s _
    rw [Plan.run, Attempt.map_state]
    exact (describe_openly s).aside
  | login => exact (Attempt.map_state Freebox.login _ s).trans (login_state s)
  | diagnostics => exact refl_of Aside s

/-- The text of an answer does not matter to the state that a tool leaves. -/
theorem callTool_state (name : String) (arguments : Option Members) (s : State) :
    (callTool name arguments s).2 = (runTool name (arguments.getD []) s).2 :=
  Attempt.map_state (runTool name (arguments.getD [])).outcome answerText s

theorem callTool_transition (name : String) (arguments : Option Members) (s : State) :
    (toolSessionUse name (arguments.getD [])).Transition s (callTool name arguments s).2 := by
  rw [callTool_state]
  unfold toolSessionUse runTool
  cases Tool.ofName? name with
  | none => exact refl_of Aside s
  | some tool =>
    dsimp only
    cases tool.plan (arguments.getD []) with
    | error f => exact refl_of Aside s
    | ok plan => exact plan_transition plan s

/-- **Every command** does for the session what it means, and nothing else. -/
theorem Command.perform_transition (c : Command) (d : Desk) :
    c.sessionUse.Transition d.state (c.perform d).2.state := by
  cases c with
  | login => exact (Desk.told_state Freebox.login _ d).trans (login_state d.state)
  | logout =>
    show Asks [] _ _
    rw [Command.perform, Desk.told_state]
    exact refl_of (Asks []) _
  | close =>
    show Asks [] _ _
    rw [Command.perform, Desk.told_state]
    exact close_asks d.state
  | setAppId value => exact Aside.of_still rfl rfl rfl rfl
  | setPrivateToken value => exact Aside.of_still rfl rfl rfl rfl
  | pass microseconds => exact Aside.of_still rfl rfl rfl rfl
  | describe => exact Desk.told (describe_openly d.state).aside
  | diagnostics => exact refl_of Aside d.state
  | authorize registration interval attempts =>
    exact Desk.told (authorize_openly registration interval attempts d.state).aside
  | call method path authenticated parcel =>
    cases authenticated with
    | true =>
      -- the same call, as an operation under a session
      exact Desk.told_state (Freebox.call method path true parcel) _ d
    | false => exact Desk.told (perform_aside method path parcel d.state)
  | renew stale => exact Desk.told_state (Freebox.renew stale) _ d
  | operate draft =>
    cases draft with
    | ok o => exact (Desk.told_state o.run _ d).trans (operation_state o d.state)
    | error f => exact refl_of Aside d.state
  | tool name arguments =>
    show (toolSessionUse name (arguments.getD [])).Transition _ _
    rw [Command.perform, Desk.told_state]
    exact callTool_transition name arguments d.state
  | openContent path =>
    exact Desk.kept_state (getFile path) (fun v d => { d with files := d.files ++ [v] }) _ (fun _ _ => rfl) d
  | takeContent i size => exact Desk.told (Aside.of_quiet (Desk.file_quiet i _ d))
  | releaseContent i => exact Desk.told (Aside.of_quiet (Desk.file_quiet i _ d))
  | startUpload start =>
    exact Desk.kept_state (Freebox.startUpload start) (fun v d => { d with uploads := d.uploads ++ [v] }) _
      (fun _ _ => rfl) d
  | write i data => exact Desk.told (Aside.of_quiet (Desk.upload_quiet i (Upload.write_silent data) d))
  | closeUpload i => exact Desk.told (Aside.of_quiet (Desk.upload_quiet i Upload.close_silent d))
  | cancelUpload i => exact Desk.told (Aside.of_quiet (Desk.upload_quiet i Upload.cancel_silent d))
  | uploadBlock i pieces failure =>
    exact Desk.told (Aside.of_quiet (Desk.upload_quiet i (Upload.block_silent pieces failure) d))
  | listen events =>
    have reached : ((Command.listen events).perform d).2.state = (Freebox.listen events d.state).2 :=
      Desk.kept_state (Freebox.listen events) (fun v d => { d with streams := d.streams ++ [v] }) _ (fun _ _ => rfl) d
    cases events with
    | nil =>
      -- refused before any session is looked for
      show Aside _ _
      rw [reached]
      exact refl_of Aside d.state
    | cons first others => exact reached
  | next i => exact Desk.told (Aside.of_quiet (Desk.stream_quiet i EventStream.next_silent d))
  | drain i => exact Desk.told (Aside.of_quiet (Desk.stream_quiet i EventStream.drain_silent d))
  | closeStream i => exact Desk.told (Aside.of_quiet (Desk.stream_quiet i EventStream.close_silent d))

end Freebox
