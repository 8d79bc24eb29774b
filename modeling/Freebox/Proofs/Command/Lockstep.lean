import Freebox.Proofs.Command.SessionUse
import Freebox.Proofs.Session.Lockstep

/-!
# `Freebox.Proofs.Command.Lockstep` — commands at two desks

At two desks that hold the same, the same commands bring the same, if the clients and their handshakes are in step. What
was opened before goes on by itself: files are read from the body that came with them, and uploads and streams from
their channel. What a client tells about itself is left out here, as that may show where the two differ.

## Contents
- `Desk.Alike`: two desks that hold the same.
- `Desk.client_inStep`, `Desk.file_inStep`, `Desk.upload_inStep`, `Desk.stream_inStep`.
- `Command.diagnoses`, `Command.perform_diagnoses`: commands that tell about the client.
- `Command.perform_inStep`: every other command.
-/

namespace Freebox

open Attempt (Keeps InStep inStep_pure inStep_fail inStep_update)

/-! ## Two desks -/

/-- Two desks with related clients hold the same files, uploads and streams. -/
structure Desk.Alike (R : State → State → Prop) (d e : Desk) : Prop where
  state : R d.state e.state
  files : d.files = e.files
  uploads : d.uploads = e.uploads
  streams : d.streams = e.streams

namespace Desk

/-- The past of the client at a desk is of a sort. -/
def Past (good : Peer → List Request → Prop) (d : Desk) : Prop := d.state.Past good

variable {good : Peer → List Request → Prop} {R : State → State → Prop} {α : Type}

theorem client_inStep {a b : Attempt State α} (h : InStep (State.Past good) R a b) :
    InStep (Past good) (Alike R) (client a) (client b) where
  lasting := fun d => h.lasting d.state
  along := by
    intro d e alike kept
    obtain ⟨same, after⟩ := h.along d.state e.state alike.state kept
    exact ⟨same, after, alike.files, alike.uploads, alike.streams⟩

/-- What an attempt of the client brings is told. -/
theorem told_inStep {a b : Attempt State α} (h : InStep (State.Past good) R a b) (f : α → Product) :
    InStep (Past good) (Alike R) (client a >>= fun v => pure (f v)) (client b >>= fun v => pure (f v)) :=
  (client_inStep h).bind fun v => inStep_pure (f v)

theorem file_inStep (steps : Lockstep good R) (i : Nat) (a : Attempt FileContent α) :
    InStep (Past good) (Alike R) (file i a) (file i a) := by
  refine ⟨fun d => steps.past (file_quiet i a d), fun d e alike _ => ?_⟩
  unfold file
  rw [alike.files]
  cases e.files[i]? with
  | none => exact ⟨rfl, alike⟩
  | some f => exact ⟨rfl, alike.state, rfl, alike.uploads, alike.streams⟩

theorem upload_inStep (steps : Lockstep good R) (i : Nat) {a : Attempt (Logged Upload) α}
    (silent : Keeps Channel.Silent a) : InStep (Past good) (Alike R) (upload i a) (upload i a) := by
  refine ⟨fun d => steps.past (upload_quiet i silent d), fun d e alike _ => ?_⟩
  unfold upload
  rw [alike.uploads]
  cases e.uploads[i]? with
  | none => exact ⟨rfl, alike⟩
  | some u =>
    dsimp only
    rw [steps.log alike.state]
    exact ⟨rfl, steps.logged alike.state _, alike.files, rfl, alike.streams⟩

theorem stream_inStep (steps : Lockstep good R) (i : Nat) {a : Attempt (Logged EventStream) α}
    (silent : Keeps Channel.Silent a) : InStep (Past good) (Alike R) (stream i a) (stream i a) := by
  refine ⟨fun d => steps.past (stream_quiet i silent d), fun d e alike _ => ?_⟩
  unfold stream
  rw [alike.streams]
  cases e.streams[i]? with
  | none => exact ⟨rfl, alike⟩
  | some s =>
    dsimp only
    rw [steps.log alike.state]
    exact ⟨rfl, steps.logged alike.state _, alike.files, alike.uploads, rfl⟩

end Desk

/-! ## Tools -/

section
variable {good : Peer → List Request → Prop} {R : State → State → Prop} (steps : Lockstep good R)
  (opens : Paced good R handshake)
include steps opens

theorem Plan.run_inStep {plan : Plan} (other : plan ≠ .diagnostics) : Paced good R plan.run := by
  unfold Plan.run
  cases plan with
  | operation o report => exact (steps.operation opens o).bind fun answer => inStep_pure _
  | describe => exact steps.describe.bind fun record => inStep_pure _
  | login => exact (Lockstep.login opens).bind fun permissions => inStep_pure _
  | diagnostics => exact absurd rfl other

theorem callTool_inStep {name : String} (other : Tool.ofName? name ≠ some .diagnostics) (arguments : Option Members) :
    Paced good R (callTool name arguments) := by
  have run : Paced good R (runTool name (arguments.getD [])) := by
    unfold runTool
    cases named : Tool.ofName? name with
    | none => exact inStep_fail _
    | some tool =>
      dsimp only
      cases planned : tool.plan (arguments.getD []) with
      | error f => exact inStep_fail _
      | ok plan =>
        apply Plan.run_inStep steps opens
        rintro rfl
        -- only the tool of that name plans to tell about the client
        obtain rfl : tool = .diagnostics := (tool.plan_of _).value planned
        exact other named
  unfold callTool
  exact run.outcome.bind fun result => inStep_pure _

end

theorem callTool_diagnostics {name : String} (named : Tool.ofName? name = some .diagnostics)
    (arguments : Option Members) (s : State) :
    callTool name arguments s = (.ok (answerText (.ok (.obj (s.client.diagnostics s.network.now)))), s) := by
  have run : runTool name (arguments.getD []) s = (.ok (.obj (s.client.diagnostics s.network.now)), s) := by
    unfold runTool
    rw [named]
    rfl
  rw [callTool, Attempt.map_apply, Attempt.outcome_apply, run]
  rfl

/-! ## Commands -/

/-- Whether a command tells about the client itself. -/
def Command.diagnoses : Command → Prop
  | diagnostics => True
  | tool name _ => Tool.ofName? name = some .diagnostics
  | _ => False

/-- The tool that tells about the client does nothing else. -/
theorem Command.tool_diagnoses {name : String} (named : Tool.ofName? name = some .diagnostics)
    (arguments : Option Members) (d : Desk) :
    (Command.tool name arguments).perform d
      = (.ok (.value (.str (answerText (.ok (.obj (d.state.client.diagnostics d.state.network.now)))))), d) := by
  rw [Command.perform, Attempt.map_apply]
  unfold Desk.client Attempt.within
  rw [callTool_diagnostics named]
  rfl

/-- All that is brought by a command that tells about the client is made of that. -/
theorem Command.perform_diagnoses {c : Command} (diagnoses : c.diagnoses) :
    ∃ form : Members → Product,
      ∀ d : Desk, c.perform d = (.ok (form (d.state.client.diagnostics d.state.network.now)), d) := by
  cases c with
  | diagnostics => exact ⟨fun ms => .value (.obj ms), fun _ => rfl⟩
  | tool name arguments =>
    exact ⟨fun ms => .value (.str (answerText (.ok (.obj ms)))), Command.tool_diagnoses diagnoses arguments⟩
  | _ => cases diagnoses

/-- **Every command** but those that tell about the client itself brings the same at two desks. -/
theorem Command.perform_inStep {good : Peer → List Request → Prop} {R : State → State → Prop}
    (steps : Lockstep good R) (opens : Paced good R handshake) {c : Command}
    (other : ¬ c.diagnoses) : InStep (Desk.Past good) (Desk.Alike R) c.perform c.perform := by
  unfold Command.perform
  cases c with
  | login => exact Desk.told_inStep (Lockstep.login opens) _
  | logout => exact Desk.told_inStep steps.logout _
  | close => exact Desk.told_inStep steps.close _
  | setAppId value =>
    refine Desk.told_inStep (inStep_update (fun s t related => ?_) fun s => ?_) _
    · exact steps.named related value
    · exact id
  | setPrivateToken value =>
    refine Desk.told_inStep (inStep_update (fun s t related => ?_) fun s => ?_) _
    · exact steps.keyed related value
    · exact id
  | pass microseconds =>
    refine Desk.told_inStep (inStep_update (fun s t related => ?_) fun s => ?_) _
    · exact steps.later related microseconds
    · exact id
  | describe => exact Desk.told_inStep steps.describe _
  | diagnostics => exact absurd trivial other
  | authorize registration interval attempts => exact Desk.told_inStep (steps.authorize _ _ _) _
  | call method path authenticated parcel => exact Desk.told_inStep (steps.call opens _ _ _ _) _
  | renew stale => exact Desk.told_inStep (steps.renew opens stale) _
  | operate draft =>
    cases draft with
    | ok o => exact Desk.told_inStep (steps.operation opens o) _
    | error f => exact Desk.told_inStep (a := Operation.runDraft (.error f)) (inStep_fail _) _
  | tool name arguments => exact Desk.told_inStep (callTool_inStep steps opens other arguments) _
  | openContent path =>
    refine (Desk.client_inStep (steps.getFile opens path)).bind fun f => ?_
    refine InStep.bind (inStep_update (fun d e alike => ?_) fun _ kept => kept) fun _ => inStep_pure _
    exact ⟨alike.state, congrArg (· ++ [f]) alike.files, alike.uploads, alike.streams⟩
  | takeContent i size => exact (Desk.file_inStep steps i _).bind fun ps => inStep_pure _
  | releaseContent i => exact (Desk.file_inStep steps i _).bind fun _ => inStep_pure _
  | startUpload start =>
    refine (Desk.client_inStep (steps.startUpload opens start)).bind fun u => ?_
    refine InStep.bind (inStep_update (fun d e alike => ?_) fun _ kept => kept) fun _ => inStep_pure _
    exact ⟨alike.state, alike.files, congrArg (· ++ [u]) alike.uploads, alike.streams⟩
  | write i data => exact (Desk.upload_inStep steps i (Upload.write_silent data)).bind fun n => inStep_pure _
  | closeUpload i => exact (Desk.upload_inStep steps i Upload.close_silent).bind fun _ => inStep_pure _
  | cancelUpload i => exact (Desk.upload_inStep steps i Upload.cancel_silent).bind fun _ => inStep_pure _
  | uploadBlock i pieces failure =>
    exact (Desk.upload_inStep steps i (Upload.block_silent pieces failure)).bind fun _ => inStep_pure _
  | listen events =>
    refine (Desk.client_inStep (steps.listen opens events)).bind fun s => ?_
    refine InStep.bind (inStep_update (fun d e alike => ?_) fun _ kept => kept) fun _ => inStep_pure _
    exact ⟨alike.state, alike.files, alike.uploads, congrArg (· ++ [s]) alike.streams⟩
  | next i => exact (Desk.stream_inStep steps i EventStream.next_silent).bind fun r => inStep_pure _
  | drain i => exact (Desk.stream_inStep steps i EventStream.drain_silent).bind fun rs => inStep_pure _
  | closeStream i => exact (Desk.stream_inStep steps i EventStream.close_silent).bind fun _ => inStep_pure _

end Freebox
