import Freebox.Proofs.Command.History
import Freebox.Proofs.Command.Unconfigured
import Freebox.Proofs.Session.Leaving
import Freebox.Proofs.Upload.Numbering

/-!
# `Freebox.Proofs.Command.Numbering` — the numbers of uploads over whole runs

A client counts the uploads that it is told to start, and nothing else changes the count. So the number of an upload is
its place among all that were ever started, whatever came of them, and no number comes twice. The handle of an upload
keeps its number as long as there is a desk.

## Contents
- `Command.starts`, `Command.perform_count`, `Desk.run_count`: the count after one command, and after a run.
- `Desk.numbers`, `Command.perform_numbers`, `Desk.run_numbers`: the numbers of the handles at a desk.
- `Command.upload?`, `Command.perform_upload`, `Command.perform_speaks`: what is done with a handle, and what is sent
  for it.
- `Desk.Starts`, `upload_numbers`: every start of an upload, in every run.
-/

namespace Freebox

open Attempt (Keeps keeps_pure keeps_update)

/-! ## The count of a client -/

/-- Whether a command starts an upload. -/
def Command.starts : Command → Bool
  | startUpload _ => true
  | _ => false

/-- Whether a use of the session is the start of an upload. -/
def SessionUse.starts : SessionUse → Bool
  | operation (.upload _) => true
  | _ => false

theorem Plan.sessionUse_starts (plan : Plan) : plan.sessionUse.starts = false := by cases plan <;> rfl

/-- Only the command that starts an upload means that. -/
theorem Command.sessionUse_starts (c : Command) : c.sessionUse.starts = c.starts := by
  cases c with
  | call method path authenticated parcel => cases authenticated <;> rfl
  | operate draft => cases draft <;> rfl
  | listen events => cases events <;> rfl
  | tool name arguments =>
    show (toolSessionUse name (arguments.getD [])).starts = false
    unfold toolSessionUse
    cases Tool.ofName? name with
    | none => rfl
    | some tool =>
      dsimp only
      cases tool.plan (arguments.getD []) with
      | error f => rfl
      | ok plan => exact plan.sessionUse_starts
  | _ => rfl

/-- Between two states as many uploads were counted. -/
def State.SameCount (s t : State) : Prop := t.client.uploads = s.client.uploads

instance : Std.Refl State.SameCount := ⟨fun _ => rfl⟩

instance : IsTrans State State.SameCount := ⟨fun _ _ _ h k => k.trans h⟩

theorem handshake_count : Keeps State.SameCount handshake := by
  intro s
  rw [State.SameCount, handshake_client]

/-- An operation counts before it looks for a session, and not again. -/
theorem Authenticated.run_count (a : Authenticated) (s : State) : (a.begun s).SameCount (a.run s).2 := by
  rw [a.run_apply]
  refine withSession_keeps handshake_count (fun token t => ?_) (a.begun s)
  exact congrArg Client.uploads (a.attempt_asks _ token t).client

/-- A use of the session counts one upload if it starts one. -/
theorem SessionUse.transition_count {e : SessionUse} {s t : State} (session : e ≠ .plain)
    (transition : e.Transition s t) :
    t.client.uploads = s.client.uploads + if e.starts then 1 else 0 := by
  cases e with
  | plain => exact absurd rfl session
  | login =>
    obtain rfl : t = (handshake s).2 := transition
    exact handshake_count s
  | logout =>
    have asks : Asks [] s.left t := logout_left s ▸ transition
    have same : t.client = s.left.client := asks.client
    rw [same]
    rfl
  | renew stale =>
    obtain rfl : t = (Freebox.renew stale s).2 := transition
    exact renew_keeps handshake_count stale s
  | operation a =>
    obtain rfl : t = (a.run s).2 := transition
    cases a <;> exact Authenticated.run_count _ s

/-- **One command** counts one upload if it starts one, and none otherwise. -/
theorem Command.perform_count (c : Command) (d : Desk) :
    (c.perform d).2.state.client.uploads = d.state.client.uploads + if c.starts then 1 else 0 := by
  rw [← c.sessionUse_starts]
  by_cases plain : c.sessionUse = .plain
  · rw [plain]
    exact (c.plain_requests plain d).2.2
  · exact SessionUse.transition_count plain (c.perform_transition d)

/-- **A whole run** counts the uploads that it starts, by induction on its commands. -/
theorem Desk.run_count (cs : List Command) (d : Desk) :
    (run cs d).2.state.client.uploads = d.state.client.uploads + cs.countP Command.starts := by
  induction cs generalizing d with
  | nil => rfl
  | cons c cs ih =>
    show (run cs (c.perform d).2).2.state.client.uploads = _
    rw [ih, c.perform_count, List.countP_cons]
    omega

/-! ## The handles at a desk -/

namespace Desk

variable {α : Type}

/-- The numbers of the uploads at a desk. -/
def numbers (d : Desk) : List Int := d.uploads.map (·.requestId)

/-- Between two desks the uploads have the same numbers. -/
def SameNumbers (d e : Desk) : Prop := e.numbers = d.numbers

instance : Std.Refl SameNumbers := ⟨fun _ => rfl⟩

instance : IsTrans Desk SameNumbers := ⟨fun _ _ _ h k => k.trans h⟩

theorem client_sameNumbers (a : Attempt State α) : Keeps SameNumbers (client a) := fun _ => rfl

theorem file_sameNumbers (i : Nat) (a : Attempt FileContent α) : Keeps SameNumbers (file i a) := by
  intro d
  unfold file
  cases d.files[i]? <;> rfl

theorem stream_sameNumbers (i : Nat) (a : Attempt (Logged EventStream) α) : Keeps SameNumbers (stream i a) := by
  intro d
  unfold stream
  cases d.streams[i]? <;> rfl

/-- What an upload continues with takes its place. -/
theorem upload_sameNumbers (i : Nat) {a : Attempt (Logged Upload) α} (continues : Keeps Upload.Continues a) :
    Keeps SameNumbers (upload i a) := by
  intro d
  unfold upload
  cases here : d.uploads[i]? with
  | none => rfl
  | some u =>
    have kept := (continues ⟨u, d.state.network.log⟩).number
    show (d.uploads.set i _).map (·.requestId) = d.uploads.map (·.requestId)
    -- so the number that is put at its place is the one that was there
    rw [List.map_set, kept]
    exact List.ext_getElem? fun j => by grind

end Desk

/-- The place of the handle that a command uses. -/
def Command.upload? : Command → Option Nat
  | write i _ | closeUpload i | cancelUpload i | uploadBlock i _ _ => some i
  | _ => none

/-- What is done with a handle is something that its upload continues with. -/
theorem Command.perform_upload {c : Command} {i : Nat} (uses : c.upload? = some i) :
    ∃ (α : Type) (a : Attempt (Logged Upload) α) (bring : α → Product), Keeps Upload.Continues a ∧
      c.perform = Desk.upload i a >>= fun v => pure (bring v) := by
  cases c with
  | write j data =>
    obtain rfl : j = i := Option.some.inj uses
    exact ⟨_, _, _, Upload.write_continues data, rfl⟩
  | closeUpload j =>
    obtain rfl : j = i := Option.some.inj uses
    exact ⟨_, _, _, Upload.close_continues, rfl⟩
  | cancelUpload j =>
    obtain rfl : j = i := Option.some.inj uses
    exact ⟨_, _, _, Upload.cancel_continues, rfl⟩
  | uploadBlock j pieces failure =>
    obtain rfl : j = i := Option.some.inj uses
    exact ⟨_, _, _, Upload.block_continues pieces failure, rfl⟩
  | _ => cases uses

/-- A command that starts no upload leaves the numbers at a desk as they are. -/
theorem Command.perform_numbers {c : Command} (other : c.starts = false) : Keeps Desk.SameNumbers c.perform := by
  cases used : c.upload? with
  | some i =>
    obtain ⟨α, a, bring, continues, same⟩ := Command.perform_upload used
    rw [same]
    exact (Desk.upload_sameNumbers i continues).bind fun _ => keeps_pure _
  | none =>
    cases c with
    | startUpload start => cases other
    | write _ _ | closeUpload _ | cancelUpload _ | uploadBlock _ _ _ => cases used
    | login | logout | close | setAppId _ | setPrivateToken _ | pass _ | describe | diagnostics | authorize _ _ _
    | call _ _ _ _ | renew _ | operate _ | tool _ _ =>
      exact (Desk.client_sameNumbers _).bind fun _ => keeps_pure _
    | openContent _ | listen _ =>
      exact (Desk.client_sameNumbers _).bind fun _ => Keeps.bind (keeps_update fun _ => rfl) fun _ => keeps_pure _
    | takeContent i _ | releaseContent i => exact (Desk.file_sameNumbers i _).bind fun _ => keeps_pure _
    | next i | drain i | closeStream i => exact (Desk.stream_sameNumbers i _).bind fun _ => keeps_pure _

/-- The start of an upload puts its handle behind those that are there, if there is one. -/
theorem Command.startUpload_apply (start : Resource.UploadStart) (d : Desk) :
    (Command.startUpload start).perform d = match Freebox.startUpload start d.state with
      | (.ok u, t) => (.ok (.upload u), { d with state := t, uploads := d.uploads ++ [u] })
      | (.error f, t) => (.error f, { d with state := t }) := by
  have asked : Desk.client (Freebox.startUpload start) d
      = ((Freebox.startUpload start d.state).1, { d with state := (Freebox.startUpload start d.state).2 }) := rfl
  unfold Command.perform
  rcases told : Freebox.startUpload start d.state with ⟨f | u, t⟩ <;> rw [told] at asked
  · exact Attempt.bind_of_error asked
  · exact Attempt.bind_of_ok asked

namespace Desk

theorem perform_extends (c : Command) (d : Desk) : d.numbers <+: (c.perform d).2.numbers := by
  cases starts : c.starts with
  | false =>
    have same : (c.perform d).2.numbers = d.numbers := Command.perform_numbers starts d
    exact ⟨[], by rw [List.append_nil, same]⟩
  | true =>
    cases c with
    | startUpload start =>
      rw [Command.startUpload_apply]
      rcases Freebox.startUpload start d.state with ⟨f | u, t⟩
      · exact List.prefix_refl d.numbers
      · exact ⟨[u.requestId], by simp [numbers]⟩
    | _ => cases starts

/-- **Handles keep their numbers** over a whole run, by induction on its commands. -/
theorem run_numbers (cs : List Command) (d : Desk) : d.numbers <+: (run cs d).2.numbers := by
  induction cs generalizing d with
  | nil => exact List.prefix_refl d.numbers
  | cons c cs ih => exact (perform_extends c d).trans (ih (c.perform d).2)

end Desk

/-! ## What is sent for a handle -/

theorem Desk.upload_speaks {α : Type} {i : Nat} {d : Desk} {u : Upload} (here : d.uploads[i]? = some u)
    {a : Attempt (Logged Upload) α} (continues : Keeps Upload.Continues a) :
    d.state.Utters (Upload.Speaks u.requestId) (upload i a d).2.state := by
  unfold upload
  rw [here]
  exact (continues ⟨u, d.state.network.log⟩).sends

/-- **For a handle** nothing is sent but what is said under its number. -/
theorem Command.perform_speaks {c : Command} {i : Nat} (uses : c.upload? = some i) {d : Desk} {number : Int}
    (here : d.numbers[i]? = some number) : d.state.Utters (Upload.Speaks number) (c.perform d).2.state := by
  rw [Desk.numbers, List.getElem?_map, Option.map_eq_some_iff] at here
  obtain ⟨u, there, rfl⟩ := here
  obtain ⟨α, a, bring, continues, same⟩ := Command.perform_upload uses
  rw [same]
  exact Desk.told (Desk.upload_speaks there continues)

/-- A handle keeps its number over a whole run, and nothing is sent for it then but what is said under that number. -/
theorem Desk.run_speaks {d : Desk} {i : Nat} {number : Int} (here : d.numbers[i]? = some number)
    (later : List Command) :
    (run later d).2.numbers[i]? = some number ∧ ∀ c : Command, c.upload? = some i →
      (run later d).2.state.Utters (Upload.Speaks number) (c.perform (run later d).2).2.state := by
  have still : (run later d).2.numbers[i]? = some number := by
    obtain ⟨others, split⟩ := run_numbers later d
    rw [← split, List.getElem?_append_left (List.getElem?_eq_some_iff.mp here).1]
    exact here
  exact ⟨still, fun c uses => Command.perform_speaks uses still⟩

/-! ## Every start of an upload -/

/-- At a desk an upload is started under a number. -/
structure Desk.Starts (d : Desk) (start : Resource.UploadStart) (number : Nat) : Prop where
  /-- Every frame that is sent, as often as one is, is the first action under the number. -/
  sends : d.state.Utters (· = .text (Json.obj (start.action number)).line)
    ((Command.startUpload start).perform d).2.state
  /-- That action carries the number. -/
  carries : (start.action number).get? "request_id" = some (.int number)
  /-- If a handle is told, it has the number, and the reply to the action told it. -/
  told : match (Command.startUpload start).perform d with
    | (.ok product, after) => ∃ u, product = .upload u ∧ u.requestId = number ∧ after.uploads = d.uploads ++ [u] ∧
        ∃ i, d.state.sought ≤ i ∧ i < after.state.sought ∧
          (d.state.network.peer.accept i).Admits number u.channel.inbox
    | (.error _, after) => after.uploads = d.uploads
  /-- The number is told beside the handle. -/
  beside : (startNumbered start d.state).1 = (Freebox.startUpload start d.state).1.map (·, number)
  /-- The number is used up, whatever comes of it. -/
  counted : ((Command.startUpload start).perform d).2.state.client.uploads = number

theorem Desk.starts (d : Desk) (start : Resource.UploadStart) : d.Starts start (d.state.client.uploads + 1) where
  sends := by
    have sent := startUpload_utters start d.state
    rw [Command.startUpload_apply]
    rcases told : Freebox.startUpload start d.state with ⟨f | u, t⟩ <;> rw [told] at sent <;> exact sent
  carries := action_number start _
  told := by
    rw [Command.startUpload_apply]
    rcases told : Freebox.startUpload start d.state with ⟨f | u, t⟩
    · rfl
    · obtain ⟨number, admitted⟩ := startUpload_ok told
      exact ⟨u, rfl, number, rfl, admitted⟩
  beside := by rw [startNumbered_apply]
  counted := (Command.startUpload start).perform_count d

/-- **Numbers of uploads are never used again.** In every run of a client, against every other side, the start of an
upload uses the number that is its place among all starts so far: in everything that it sends, in the reply that it
accepts, and in the handle that it tells. Whatever is done later, the handle keeps that number and nothing is sent for
it but under that number. Starts come under greater and greater numbers, and no other command counts. -/
theorem upload_numbers (address version : String) (appId privateToken : Option String) (timeout : Quantity)
    (ownsTransport : Bool) (peer : Peer) (now : Instant) (before : List Command) (start : Resource.UploadStart) :
    let client := Client.create address version appId privateToken timeout ownsTransport
    let d := (Desk.run before (Desk.fresh client peer now)).2
    let number := before.countP Command.starts + 1
    let called := (Command.startUpload start).perform d
    d.Starts start number ∧
      (∀ product, called.1 = .ok product → ∀ later : List Command,
        let e := (Desk.run later called.2).2
        e.numbers[d.uploads.length]? = some ↑number ∧
          ∀ c : Command, c.upload? = some d.uploads.length →
            e.state.Utters (Upload.Speaks number) (c.perform e).2.state) ∧
      (∀ earlier first others, before = earlier ++ Command.startUpload first :: others →
        earlier.countP Command.starts + 1 < number) ∧
      ∀ c : Command, c.starts = false → (c.perform d).2.state.client.uploads = d.state.client.uploads := by
  intro client d number called
  have count : d.state.client.uploads + 1 = number := by
    rw [Desk.run_count]
    show 0 + _ + 1 = _
    omega
  have starts : d.Starts start number := count ▸ d.starts start
  refine ⟨starts, ?handle, ?earlier, ?others⟩
  case handle =>
    intro product succeeded later e
    refine Desk.run_speaks ?_ later
    have reached : (Command.startUpload start).perform d = (.ok product, called.2) := Prod.ext succeeded rfl
    have told := starts.told
    rw [reached] at told
    obtain ⟨u, -, carries, opened, -⟩ := told
    simp [Desk.numbers, opened, carries]
  case earlier =>
    rintro earlier first others rfl
    simp only [number, List.countP_append, List.countP_cons]
    show _ < _ + (_ + 1) + 1
    omega
  case others =>
    intro c other
    rw [c.perform_count, other]
    rfl

/-- The first start is refused, and the second one passes over what was said for the first. -/
example :
    let client : Client := { Client.create "http://fbx.test" "v8" (some "app") (some "secret") (.int 10) true with
      session := some ⟨"token", ⟨0⟩⟩ }
    let refused := "\x7b\"action\": \"upload_start\", \"request_id\": 1, \"success\": false\x7d"
    let started := "\x7b\"action\": \"upload_start\", \"request_id\": 2, \"success\": true\x7d"
    let peer : Peer := ⟨fun _ _ => .failed ⟨false, ""⟩,
      fun _ => .accepted [.message (.text refused), .message (.text started)] []⟩
    let d : Desk := { state := { client, network := { peer, now := ⟨0⟩ } } }
    let start : Command := .startUpload { directory := "/", filename := "a", size := 1 }
    (Desk.run [start, start] d).2.numbers = [2] := by
  decide +kernel

end Freebox
