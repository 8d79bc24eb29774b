import Freebox.Proofs.Command.History
import Freebox.Proofs.Session.Challenge

/-!
# `Freebox.Proofs.Command.Exchange` — challenges and their answers over whole runs

None of the operations that are offered goes to a path of logging in, so challenges are asked for and answered by
handshakes alone. Each command makes its requests in order under the settings that it finds. Over a whole run, every
exchange stands just behind the challenge that it answers, made by the same command, and no token is ever shown at an
address open to anybody.

## Contents
- `Operation.Offered`, `Operation.Offered.away`: the operations on resources, and where they go.
- `Tool.plan_offered`: tools do what is offered.
- `Command.Away`, `Proceeds`, `Command.perform_proceeds`: one command.
- `Command.Makes`, `Desk.run_makes`: the command that made a request of a run, and what the request answers.
- `run_exchanges`: challenges, exchanges and open addresses, over every run.
-/

namespace Freebox

open Attempt (Keeps)
open Resource

/-! ## Operations that are offered -/

namespace Operation

/-- The operations on the resources of a box. -/
inductive Offered : Operation → Prop
  | portForwarding {o : Operation} (id : Int) (d : RuleDraft)
      (h : o ∈ [PortForwarding.list, PortForwarding.get id, PortForwarding.create d, PortForwarding.update id d,
        PortForwarding.delete id]) : Offered o
  | staticLease {o : Operation} (id : Text) (d : LeaseDraft)
      (h : o ∈ [StaticLease.list, StaticLease.get id, StaticLease.create d, StaticLease.update id d,
        StaticLease.delete id]) : Offered o
  | lan {o : Operation} (interface id : Text)
      (h : o ∈ [Lan.interfaces, Lan.hosts interface, Lan.host interface id]) : Offered o
  | virtualMachine {o : Operation} (id : Int) (d : MachineDraft)
      (h : o ∈ [VirtualMachine.info, VirtualMachine.distributions, VirtualMachine.list, VirtualMachine.get id,
        VirtualMachine.create d, VirtualMachine.update id d, VirtualMachine.delete id, VirtualMachine.start id,
        VirtualMachine.stop id, VirtualMachine.kill id]) : Offered o
  | virtualDisk {o : Operation} (path : String) (id : Int) (new : NewDisk) (resize : DiskResize)
      (h : o ∈ [VirtualDisk.info path, VirtualDisk.task id, VirtualDisk.create new, VirtualDisk.resize resize,
        VirtualDisk.deleteTask id]) : Offered o
  | fileSystem {o : Operation} (path name mode : String) (paths : List String) (id : Int) (e : Extraction)
      (h : o ∈ [FileSystem.info path, FileSystem.remove paths, FileSystem.tasks, FileSystem.task id,
        FileSystem.updateTask id mode, FileSystem.deleteTask id, FileSystem.makeDirectory path name,
        FileSystem.hashResult id, FileSystem.move paths path mode, FileSystem.copy paths path mode,
        FileSystem.extract e]) : Offered o
  | hash {o : Operation} (r : HashRequest) (h : FileSystem.hash r = .ok o) : Offered o
  | download {o : Operation} (id : Int) (u : DownloadUpdate)
      (h : o ∈ [DownloadTask.list, DownloadTask.get id, DownloadTask.delete id, DownloadTask.erase id,
        DownloadTask.update id u]) : Offered o
  | addDownload {o : Operation} (r : DownloadRequest) (h : DownloadTask.add r = .ok o) : Offered o
  | upload {o : Operation} (id : Int)
      (h : o ∈ [UploadTask.list, UploadTask.get id, UploadTask.cancel id, UploadTask.delete id, UploadTask.clean]) :
      Offered o

/-- **No operation that is offered** goes to a path of logging in. -/
theorem Offered.away {o : Operation} (offered : o.Offered) : ¬ LoginPath o.path := by
  refine Text.Elsewhere.not_login ?_
  have rules : ("fw/redir/" : Text).Elsewhere := by decide
  have leases : ("dhcp/static_lease/" : Text).Elsewhere := by decide
  have hosts : ("lan/browser/" : Text).Elsewhere := by decide
  have machines : ("vm/" : Text).Elsewhere := by decide
  have disks : ("vm/disk/task/" : Text).Elsewhere := by decide
  have files : ("fs/info/" : Text).Elsewhere := by decide
  have tasks : ("fs/tasks/" : Text).Elsewhere := by decide
  have downloads : ("downloads/" : Text).Elsewhere := by decide
  have uploads : ("upload/" : Text).Elsewhere := by decide
  cases offered with
  | portForwarding id d h =>
    revert o
    simp only [List.forall_mem_cons, List.not_mem_nil, false_implies, implies_true, and_true]
    exact ⟨rules, rules.string _, rules, rules.string _, rules.string _⟩
  | staticLease id d h =>
    revert o
    simp only [List.forall_mem_cons, List.not_mem_nil, false_implies, implies_true, and_true]
    exact ⟨leases, leases.append _, leases, leases.append _, leases.append _⟩
  | lan interface id h =>
    revert o
    simp only [List.forall_mem_cons, List.not_mem_nil, false_implies, implies_true, and_true]
    exact ⟨hosts.string "interfaces/", (hosts.append _).append _, (((hosts.append _).append _).append _).append _⟩
  | virtualMachine id d h =>
    revert o
    simp only [List.forall_mem_cons, List.not_mem_nil, false_implies, implies_true, and_true]
    exact ⟨by decide, by decide, machines, machines.string _, machines, machines.string _, machines.string _,
      (machines.string _).append _, (machines.string _).append _, (machines.string _).append _⟩
  | virtualDisk path id new resize h =>
    revert o
    simp only [List.forall_mem_cons, List.not_mem_nil, false_implies, implies_true, and_true]
    exact ⟨show ("vm/disk/info" : Text).Elsewhere by decide, disks.string _,
      show ("vm/disk/create" : Text).Elsewhere by decide, show ("vm/disk/resize" : Text).Elsewhere by decide,
      disks.string _⟩
  | fileSystem path name mode paths id e h =>
    revert o
    simp only [List.forall_mem_cons, List.not_mem_nil, false_implies, implies_true, and_true]
    exact ⟨files.append _, show ("fs/rm/" : Text).Elsewhere by decide, tasks, tasks.string _, tasks.string _,
      tasks.string _, show ("fs/mkdir/" : Text).Elsewhere by decide, (tasks.string _).append _,
      show ("fs/mv/" : Text).Elsewhere by decide, show ("fs/cp/" : Text).Elsewhere by decide,
      show ("fs/extract/" : Text).Elsewhere by decide⟩
  | hash r h =>
    have path : o.path = "fs/hash/" := by
      unfold FileSystem.hash at h
      cases payload : r.payload with
      | error f => rw [payload] at h; cases h
      | ok v => rw [payload] at h; cases h; rfl
    rw [path]
    decide
  | download id u h =>
    revert o
    simp only [List.forall_mem_cons, List.not_mem_nil, false_implies, implies_true, and_true]
    exact ⟨downloads, downloads.string _, downloads.string _, (downloads.string _).append _, downloads.string _⟩
  | addDownload r h =>
    have path : o.path = "downloads/add" := by
      unfold DownloadTask.add at h
      cases form : r.form with
      | error f => rw [form] at h; cases h
      | ok v => rw [form] at h; cases h; rfl
    rw [path]
    decide
  | upload id h =>
    revert o
    simp only [List.forall_mem_cons, List.not_mem_nil, false_implies, implies_true, and_true]
    exact ⟨uploads, uploads.string _, (uploads.string _).append _, uploads.string _, by decide⟩

end Operation

/-! ## Tools -/

/-- The operation of a plan, if it has one, is offered. -/
def Plan.Offered : Plan → Prop
  | operation o _ => o.Offered
  | _ => True

namespace Tool

/-- Every plan that may come is offered. -/
def Plans (x : Except Fault Plan) : Prop := ∀ plan, x = .ok plan → plan.Offered

theorem Plans.ok {plan : Plan} (h : plan.Offered) : Plans (.ok plan) := by
  rintro _ ⟨⟩
  exact h

theorem Plans.bind {α : Type} {x : Except Fault α} {f : α → Except Fault Plan}
    (h : ∀ v, x = .ok v → Plans (f v)) : Plans (x >>= f) := by
  cases x with
  | ok v => exact h v rfl
  | error e =>
    rintro plan ⟨⟩

/-- **Tools do what is offered.** -/
theorem plan_offered (tool : Tool) (arguments : Members) : Plans (tool.plan arguments) := by
  cases tool with
  | apiVersion | login | diagnostics => exact .ok trivial
  | listPortForwarding => exact .ok (.portForwarding 0 {} (by simp))
  | listDhcpLeases => exact .ok (.staticLease "" {} (by simp))
  | listVirtualMachines => exact .ok (.virtualMachine 0 {} (by simp))
  | listDownloads => exact .ok (.download 0 {} (by simp))
  | listFilesystemTasks => exact .ok (.fileSystem "" "" "" [] 0 ⟨"", "", none, false, false⟩ (by simp))
  | listLanHosts => exact .ok (.lan _ "" (List.mem_cons_of_mem _ (List.mem_cons_self ..)))
  | getPortForwarding => exact .bind fun id _ => .ok (.portForwarding id {} (by simp))
  | addPortForwarding => exact .bind fun draft _ => .ok (.portForwarding 0 draft (by simp))
  | deletePortForwarding =>
    exact .bind fun v _ => .bind fun id _ => .ok (.portForwarding id {} (by simp))
  | addDhcpLease => exact .bind fun draft _ => .ok (.staticLease "" draft (by simp))
  | deleteDhcpLease => exact .bind fun v _ => .ok (.staticLease v.shown {} (by simp))
  | startVirtualMachine =>
    exact .bind fun v _ => .bind fun id _ => .ok (.virtualMachine id {} (by simp))
  | stopVirtualMachine =>
    refine .bind fun v _ => .bind fun id _ => .ok (.virtualMachine id {} ?_)
    cases (arguments.get "force").isTrue <;> simp
  | addDownload =>
    exact .bind fun url _ => .bind fun directory _ => .bind fun o added => .ok (.addDownload _ added)
  | getFileInfo =>
    exact .bind fun v _ => .bind fun path _ => .ok (.fileSystem path "" "" [] 0 ⟨"", "", none, false, false⟩ (by simp))

end Tool

/-! ## Single commands -/

/-- A command keeps away from the paths of logging in. Only bare calls and operations may be at any path. -/
def Command.Away : Command → Prop
  | call _ path _ _ => ¬ LoginPath path
  | operate (.ok o) => ¬ LoginPath o.path
  | _ => True

/-- What one command does to a client: the box and the other side stay the same, and the requests that are made are in
order under the settings that the command finds. Credentials may have been set. -/
structure Proceeds (s t : State) : Prop where
  endpoint : t.client.endpoint = s.client.endpoint
  version : t.client.version = s.client.version
  peer : t.network.peer = s.network.peer
  requests : ∃ news, t.network.requests = s.network.requests ++ news ∧
    Ordered s.client s.network.peer s.network.requests news

namespace Proceeds

variable {s t : State}

theorem of_orderly (h : Orderly s t) : Proceeds s t where
  endpoint := (congrArg Client.endpoint h.settings : t.client.settings.endpoint = s.client.settings.endpoint)
  version := (congrArg Client.version h.settings : t.client.settings.version = s.client.settings.version)
  peer := h.peer
  requests := h.requests

theorem of_openly (h : Openly s t) : Proceeds s t := of_orderly h.orderly

theorem of_quiet (h : Asks [] s t) : Proceeds s t := of_orderly (.of_quiet h)

end Proceeds

/-- A use of the session that keeps away from the paths of logging in. -/
def SessionUse.Away : SessionUse → Prop
  | plain => False
  | operation a => a.Away
  | _ => True

/-- Uses of the session make their requests in order. -/
theorem SessionUse.orderly {e : SessionUse} {s t : State} (away : e.Away) (transition : e.Transition s t) :
    Orderly s t := by
  refine SessionUse.transition_keeps ?_ (fun _ _ => .of_quiet) handshake_orderly logout_orderly ?_ transition
  · rintro rfl
    exact away
  · rintro a rfl
    exact Authenticated.run_orderly away

theorem Operation.run_orderly {o : Operation} (away : ¬ LoginPath o.path) : Keeps Orderly o.run := by
  intro s
  rw [operation_state]
  exact Authenticated.run_orderly (a := o.authenticated) away s

theorem Plan.run_orderly {plan : Plan} (offered : plan.Offered) : Keeps Orderly plan.run := by
  intro s
  cases plan with
  | operation o report =>
    rw [Plan.run, Attempt.map_state]
    exact Operation.run_orderly (Operation.Offered.away offered) s
  | describe =>
    rw [Plan.run, Attempt.map_state]
    exact (describe_openly s).orderly
  | login =>
    rw [Plan.run, Attempt.map_state, login_state]
    exact handshake_orderly s
  | diagnostics => exact refl_of Orderly s

theorem callTool_orderly (name : String) (arguments : Option Members) : Keeps Orderly (callTool name arguments) := by
  intro s
  rw [callTool_state]
  unfold runTool
  cases Tool.ofName? name with
  | none => exact refl_of Orderly s
  | some tool =>
    dsimp only
    cases planned : tool.plan (arguments.getD []) with
    | error f => exact refl_of Orderly s
    | ok plan => exact Plan.run_orderly (tool.plan_offered _ plan planned) s

/-- A command that uses the session makes its requests in order. -/
theorem Command.sessionUse_proceeds {c : Command} (away : c.sessionUse.Away) (d : Desk) :
    Proceeds d.state (c.perform d).2.state := .of_orderly (SessionUse.orderly away (c.perform_transition d))

/-- **Every command** makes its requests in order under the settings that it finds. -/
theorem Command.perform_proceeds {c : Command} (away : c.Away) (d : Desk) :
    Proceeds d.state (c.perform d).2.state := by
  cases c with
  | login | logout | close | renew _ | openContent _ | startUpload _ =>
    refine Command.sessionUse_proceeds ?_ d
    trivial
  | setAppId _ | setPrivateToken _ => exact ⟨rfl, rfl, rfl, [], (List.append_nil _).symm, .done _⟩
  | pass _ | diagnostics => exact .of_orderly (.of_still rfl rfl rfl)
  | describe => exact Desk.told (Proceeds.of_openly (describe_openly d.state))
  | authorize registration interval attempts =>
    exact Desk.told (Proceeds.of_openly (authorize_openly registration interval attempts d.state))
  | call method path authenticated parcel =>
    cases authenticated with
    | true => exact Command.sessionUse_proceeds (by exact away) d
    | false =>
      have other : path ≠ "login/session" := by
        rintro rfl
        exact away .exchange
      exact Desk.told (Proceeds.of_openly (perform_openly method parcel other d.state))
  | operate draft =>
    cases draft with
    | ok o => exact Command.sessionUse_proceeds (by exact away) d
    | error f => exact .of_orderly (refl_of Orderly d.state)
  | tool name arguments => exact Desk.told (Proceeds.of_orderly (callTool_orderly name arguments d.state))
  | takeContent i size => exact Desk.told (Proceeds.of_quiet (Desk.file_quiet i _ d))
  | releaseContent i => exact Desk.told (Proceeds.of_quiet (Desk.file_quiet i _ d))
  | write i data => exact Desk.told (Proceeds.of_quiet (Desk.upload_quiet i (Upload.write_silent data) d))
  | closeUpload i => exact Desk.told (Proceeds.of_quiet (Desk.upload_quiet i Upload.close_silent d))
  | cancelUpload i => exact Desk.told (Proceeds.of_quiet (Desk.upload_quiet i Upload.cancel_silent d))
  | uploadBlock i pieces failure =>
    exact Desk.told (Proceeds.of_quiet (Desk.upload_quiet i (Upload.block_silent pieces failure) d))
  | listen events =>
    cases events with
    | nil => exact .of_orderly (refl_of Orderly d.state)
    | cons first others => exact Command.sessionUse_proceeds (by trivial) d
  | next i => exact Desk.told (Proceeds.of_quiet (Desk.stream_quiet i EventStream.next_silent d))
  | drain i => exact Desk.told (Proceeds.of_quiet (Desk.stream_quiet i EventStream.drain_silent d))
  | closeStream i => exact Desk.told (Proceeds.of_quiet (Desk.stream_quiet i EventStream.close_silent d))

/-! ## Whole runs -/

/-- The requests made so far at a desk. -/
def Desk.requests (d : Desk) : List Request := d.state.network.requests

/-- A command makes a request at a desk, behind some others. If the request is an exchange, then the same command has
just asked for a challenge, and the exchange answers it by the credentials that the command found. -/
structure Command.Makes (c : Command) (d : Desk) (before : List Request) (r : Request) : Prop where
  made : before ++ [r] <+: (c.perform d).2.requests
  tokenless : d.state.client.Open r.url → r.Tokenless
  answers : d.state.client.Exchanges r → ∃ asked, before = asked ++ [d.state.client.challengeRequest] ∧
    d.requests <+: asked ∧ d.state.client.Answers d.state.network.peer asked r

/-- Every request that is new after a command was made by it. -/
theorem Command.makes {c : Command} (away : c.Away) {d : Desk} {before after : List Request} {r : Request}
    (here : (c.perform d).2.requests = before ++ r :: after) (new : d.requests.length ≤ before.length) :
    c.Makes d before r := by
  obtain ⟨news, requests, ordered⟩ := (c.perform_proceeds away d).requests
  have whole : before ++ r :: after = d.requests ++ news := here.symm.trans requests
  have earlier : d.requests <+: before ++ r :: after := by
    rw [whole]
    exact List.prefix_append _ _
  have since : d.requests <+: before := List.prefix_of_prefix_length_le earlier (List.prefix_append _ _) new
  obtain ⟨first, rfl⟩ := since
  rw [List.append_assoc, List.append_cancel_left_eq] at whole
  rw [← whole] at ordered
  exact {
    made := by
      rw [here]
      exact ⟨after, by simp⟩
    tokenless := fun isOpen => ordered.tokenless (by simp) isOpen
    answers := fun exchange => by
      obtain ⟨asked, rfl, answers⟩ := ordered.exchange_at exchange
      exact ⟨d.requests ++ asked, by rw [List.append_assoc], List.prefix_append _ _, answers⟩ }

namespace Desk

/-- What a run leaves as it is: the box, the other side, and the requests that were made before. -/
theorem run_proceeds (cs : List Command) (away : ∀ c ∈ cs, c.Away) (d : Desk) :
    (run cs d).2.state.client.endpoint = d.state.client.endpoint ∧
      (run cs d).2.state.client.version = d.state.client.version ∧
      (run cs d).2.state.network.peer = d.state.network.peer ∧ d.requests <+: (run cs d).2.requests := by
  induction cs generalizing d with
  | nil => exact ⟨rfl, rfl, rfl, List.prefix_refl _⟩
  | cons c cs ih =>
    have step := c.perform_proceeds (away c (by simp)) d
    obtain ⟨news, requests, -⟩ := step.requests
    obtain ⟨endpoint, version, peer, rest⟩ := ih (fun b hb => away b (by simp [hb])) (c.perform d).2
    have made : d.requests <+: (c.perform d).2.requests := ⟨news, requests.symm⟩
    exact ⟨endpoint.trans step.endpoint, version.trans step.version, peer.trans step.peer, made.trans rest⟩

/-- **Every request of a run** was made by one of its commands, by induction on them. -/
theorem run_makes (cs : List Command) (away : ∀ c ∈ cs, c.Away) {d : Desk} {before after : List Request} {r : Request}
    (here : (run cs d).2.requests = before ++ r :: after) (new : d.requests.length ≤ before.length) :
    ∃ earlier c later, cs = earlier ++ c :: later ∧ c.Makes (run earlier d).2 before r := by
  induction cs generalizing d with
  | nil =>
    have length := congrArg List.length here
    have same : (run [] d).2.requests = d.requests := rfl
    simp only [same, List.length_append, List.length_cons] at length
    omega
  | cons c cs ih =>
    have away_rest : ∀ b ∈ cs, b.Away := fun b hb => away b (by simp [hb])
    by_cases early : before.length < (c.perform d).2.requests.length
    · -- the first command has made it, and the others left it where it is
      obtain ⟨-, -, -, rest⟩ := run_proceeds cs away_rest (c.perform d).2
      have shown : before ++ [r] <+: (run cs (c.perform d).2).2.requests := by
        refine ⟨after, ?_⟩
        rw [List.append_assoc]
        exact here.symm
      have made : before ++ [r] <+: (c.perform d).2.requests :=
        List.prefix_of_prefix_length_le shown rest (by rw [List.length_append]; exact early)
      obtain ⟨tail, split⟩ := made
      have at_once : (c.perform d).2.requests = before ++ r :: tail := by rw [← split, List.append_assoc]; rfl
      exact ⟨[], c, cs, rfl, Command.makes (away c (by simp)) at_once new⟩
    · obtain ⟨earlier, b, later, rfl, makes⟩ := ih away_rest here (Nat.le_of_not_lt early)
      exact ⟨c :: earlier, b, later, rfl, makes⟩

end Desk

theorem Client.open_congr {c d : Client} (endpoint : d.endpoint = c.endpoint) (version : d.version = c.version) :
    d.Open = c.Open ∧ d.Exchanges = c.Exchanges ∧ d.challengeRequest.url = c.challengeRequest.url := by
  have url : d.url = c.url := by
    funext path
    unfold Client.url Client.base
    rw [endpoint, version]
  have description : d.describeRequest.url = c.describeRequest.url := by
    show (d.endpoint : Text) ++ "/api_version" = c.endpoint ++ "/api_version"
    rw [endpoint]
  refine ⟨?_, ?_, ?_⟩
  · funext address
    unfold Client.Open
    rw [url, description]
  · funext r
    unfold Client.Exchanges
    rw [url]
  · show d.url "login" = c.url "login"
    rw [url]

/-- A request of a run was made by a command, and the addresses and the other side were then as at the beginning. -/
theorem Desk.run_made (cs : List Command) (away : ∀ c ∈ cs, c.Away) {d : Desk} {before after : List Request}
    {r : Request} (here : (run cs d).2.requests = before ++ r :: after) (new : d.requests.length ≤ before.length) :
    ∃ earlier c later, cs = earlier ++ c :: later ∧ c.Makes (run earlier d).2 before r ∧
      let client := (run earlier d).2.state.client
      (run earlier d).2.state.network.peer = d.state.network.peer ∧ client.Open = d.state.client.Open ∧
        client.Exchanges = d.state.client.Exchanges ∧
        client.challengeRequest.url = d.state.client.challengeRequest.url := by
  obtain ⟨earlier, c, later, rfl, makes⟩ := run_makes cs away here new
  have away_earlier : ∀ b ∈ earlier, b.Away := fun b hb => away b (by simp [hb])
  obtain ⟨endpoint, version, same_peer, -⟩ := run_proceeds earlier away_earlier d
  exact ⟨earlier, c, later, rfl, makes, same_peer, Client.open_congr endpoint version⟩

/-- What stands last stands behind everything else. -/
theorem last_behind {before between asked : List Request} {r last : Request}
    (h : before ++ r :: between = asked ++ [last]) (other : r ≠ last) : ∃ since, between = since ++ [last] := by
  rcases List.eq_nil_or_concat between with rfl | ⟨since, q, rfl⟩
  · have same : [r] = [last] := (List.append_inj' h rfl).2
    exact absurd (List.head_eq_of_cons_eq same) other
  · rw [List.concat_eq_append, ← List.cons_append, ← List.append_assoc] at h
    have same : [q] = [last] := (List.append_inj' h rfl).2
    exact ⟨since, by rw [List.concat_eq_append, same]⟩

/-- **Challenges and exchanges, over every run** of a client, with any other side. No token is ever shown at an address
open to anybody. Every exchange stands just behind the challenge that it answers: one command asks for the challenge and
answers it, by the credentials that are set then. Between two exchanges another challenge is asked for, so none is
answered twice. Registering and describing leave the client as it is, whatever is answered. -/
theorem run_exchanges (address version : String) (appId privateToken : Option String) (timeout : Quantity)
    (ownsTransport : Bool) (peer : Peer) (now : Instant) (cs : List Command) (away : ∀ c ∈ cs, c.Away) :
    let client := Client.create address version appId privateToken timeout ownsTransport
    let fresh := Desk.fresh client peer now
    let requests := (Desk.run cs fresh).2.requests
    (∀ r ∈ requests, client.Open r.url → r.Tokenless) ∧
      (∀ before r after, requests = before ++ r :: after → client.Exchanges r →
        ∃ earlier c later, cs = earlier ++ c :: later ∧
          let here := (Desk.run earlier fresh).2
          ∃ asked, before = asked ++ [here.state.client.challengeRequest] ∧ here.requests <+: asked ∧
            before ++ [r] <+: (c.perform here).2.requests ∧ here.state.client.Answers peer asked r) ∧
      (∀ before r between q after, requests = before ++ r :: (between ++ q :: after) → client.Exchanges r →
        client.Exchanges q → ∃ since challenge, between = since ++ [challenge] ∧ challenge.method = "GET" ∧
          challenge.url = client.url "login") ∧
      ∀ s, (∀ registration interval attempts, (authorize registration interval attempts s).2.client = s.client) ∧
        (describe s).2.client = s.client := by
  intro client fresh requests
  have makers {before : List Request} {r : Request} {after : List Request} (split : requests = before ++ r :: after) :=
    Desk.run_made cs away split (Nat.zero_le _)
  refine ⟨?tokenless, ?answered, ?between, fun s => ⟨fun registration interval attempts => ?_, ?_⟩⟩
  case tokenless =>
    intro r here isOpen
    obtain ⟨before, after, split⟩ := List.append_of_mem here
    obtain ⟨earlier, c, later, -, makes, -, opens, -⟩ := makers split
    exact makes.tokenless (by rw [opens]; exact isOpen)
  case answered =>
    intro before r after split exchange
    obtain ⟨earlier, c, later, commands, makes, same_peer, -, exchanges, -⟩ := makers split
    obtain ⟨asked, behind, since, answers⟩ := makes.answers (by rw [exchanges]; exact exchange)
    rw [same_peer] at answers
    exact ⟨earlier, c, later, commands, asked, behind, since, makes.made, answers⟩
  case between =>
    intro before r between q after split first second
    have split_again : requests = (before ++ r :: between) ++ q :: after := by rw [split, List.append_assoc]; rfl
    obtain ⟨earlier, c, later, -, makes, -, -, exchanges, login⟩ := makers split_again
    obtain ⟨asked, behind, -, -⟩ := makes.answers (by rw [exchanges]; exact second)
    have get : (Desk.run earlier fresh).2.state.client.challengeRequest.method = "GET" := rfl
    have other : r ≠ (Desk.run earlier fresh).2.state.client.challengeRequest := by
      rintro rfl
      exact absurd (get.symm.trans first.1) (by decide)
    obtain ⟨since, rfl⟩ := last_behind behind other
    exact ⟨since, _, rfl, get, login⟩
  · exact AsksOnly.client (authorize_openly registration interval attempts s)
  · exact AsksOnly.client (describe_openly s)

/-- A client logs in, describes its box while it has a session, lists its rules and leaves. Its one exchange carries the
password for the challenge that was brought, and answers it. -/
theorem run_exchanges_once :
    let client := Client.create "http://fbx.test" "v8" (some "app") (some "secret") (.int 10) true
    let told := fun result =>
      let body := "\x7b\"success\": true, \"result\": " ++ result ++ "\x7d"
      Reply.received ⟨200, [], [Utf8.encode body.toList], none⟩
    let peer : Peer := ⟨fun _ r =>
      if r.url = client.url "login" then told "\x7b\"challenge\": \"VzhbtpR4\"\x7d"
      else told "\x7b\"session_token\": \"token\"\x7d", fun _ => .refused .closedNormally⟩
    let cs : List Command := [.login, .describe, .operate (.ok PortForwarding.list), .logout]
    let requests := (Desk.run cs (Desk.fresh client peer ⟨0⟩)).2.requests
    let credentials : Json := .obj [("app_id", .str "app"),
      ("password", .str "3a386403a008d79a12ec6c808e98d317e2820255")]
    (∀ c ∈ cs, c.Away) ∧
      requests.map (fun r => (r.method, r.url, r.payload)) = [("GET", client.url "login", .null),
        ("POST", client.url "login/session", credentials), ("GET", client.describeRequest.url, .null),
        ("GET", client.url "fw/redir/", .null), ("POST", client.url "login/logout", .null)] ∧
      (∀ r ∈ requests, client.Open r.url → r.Tokenless) ∧
      ∃ r, requests[1]? = some r ∧ client.Answers peer [] r := by
  intro client told peer cs requests credentials
  have away : ∀ c ∈ cs, c.Away := by
    have list : ¬ LoginPath PortForwarding.list.path := Operation.Offered.away (.portForwarding 0 {} (by simp))
    simpa [cs, Command.Away] using list
  have made : requests.map (fun r => (r.method, r.url, r.payload)) = [("GET", client.url "login", .null),
      ("POST", client.url "login/session", credentials), ("GET", client.describeRequest.url, .null),
      ("GET", client.url "fw/redir/", .null), ("POST", client.url "login/logout", .null)] := by decide +kernel
  -- none of the commands sets anything
  have still : ∀ n < 4, (Desk.run (cs.take n) (Desk.fresh client peer ⟨0⟩)).2.state.client.settings
      = client.settings := by decide +kernel
  obtain ⟨tokenless, answered, -⟩ :=
    run_exchanges "http://fbx.test" "v8" (some "app") (some "secret") (.int 10) true peer ⟨0⟩ cs away
  refine ⟨away, made, tokenless, ?_⟩
  obtain ⟨q, rest, split, -, behind⟩ := List.map_eq_cons_iff.mp made
  obtain ⟨r, after, rfl, exchange, -⟩ := List.map_eq_cons_iff.mp behind
  obtain ⟨method, url, -⟩ : r.method = "POST" ∧ r.url = client.url "login/session" ∧ r.payload = credentials := by
    simpa using exchange
  obtain ⟨earlier, c, later, commands, asked, before, -, -, answers⟩ := answered [q] r after split ⟨method, url⟩
  obtain ⟨nothing, -⟩ := @List.append_inj' _ [] _ _ _ before rfl
  refine ⟨r, by rw [split]; rfl, ?_⟩
  have few : earlier.length < 4 := by
    have length : 4 = (earlier ++ c :: later).length := congrArg List.length commands
    rw [List.length_append, List.length_cons] at length
    omega
  have front : cs.take earlier.length = earlier := by rw [commands, List.take_left]
  have settings := still earlier.length few
  rw [front] at settings
  rw [← Client.answers_congr settings, nothing]
  exact answers

end Freebox
