import Freebox.Proofs.Channel.Release
import Freebox.Proofs.Channel.Reply
import Freebox.Proofs.Upload.Lifecycle

/-!
# `Freebox.Proofs.Upload.Numbering` — the number of an upload

The number that an upload is started under goes with everything that is said for it: with its first action, as often as
that is sent, with the reply that is accepted, and with the action that ends it.

## Contents
- `Utters`, `State.Utters`: logs and states between which only frames of one sort are handed to channels.
- `startChannel_utters`, `startUpload_utters`: what is sent to start an upload.
- `Opening.Admits`, `startUpload_ok`: the reply that is accepted, and the upload that is told.
- `Upload.Speaks`, `Upload.Continues`, `UploadCall.perform_continues`: what is sent for an upload later.
-/

namespace Freebox

open Attempt (Keeps keeps_pure keeps_fail keeps_state keeps_update)

/-! ## Frames that are sent -/

/-- From one log to a later one no frames are handed to channels but those of one sort. -/
def Utters (own : Raw → Prop) (log later : List Effect) : Prop :=
  ∃ news, later = log ++ news ∧ ∀ number frame delivered, Effect.send number frame delivered ∈ news → own frame

namespace Utters

variable {own : Raw → Prop} {log later last : List Effect}

theorem refl (log : List Effect) : Utters own log log := ⟨[], (List.append_nil log).symm, by simp⟩

theorem trans (h : Utters own log later) (k : Utters own later last) : Utters own log last := by
  obtain ⟨first, rfl, sort⟩ := h
  obtain ⟨second, rfl, sort_then⟩ := k
  refine ⟨first ++ second, List.append_assoc .., fun number frame delivered sent => ?_⟩
  rcases List.mem_append.mp sent with early | late
  · exact sort number frame delivered early
  · exact sort_then number frame delivered late

/-- Other effects are free. -/
theorem effect {e : Effect} (other : ∀ number frame delivered, e ≠ .send number frame delivered) (log : List Effect) :
    Utters own log (log ++ [e]) := by
  refine ⟨[e], rfl, fun number frame delivered sent => ?_⟩
  exact absurd (List.mem_singleton.mp sent).symm (other number frame delivered)

theorem handed (c : Channel) {frames : List Raw} (sort : ∀ frame ∈ frames, own frame) (log : List Effect) :
    Utters own log (log ++ c.handed frames) := by
  refine ⟨_, rfl, fun number frame delivered sent => ?_⟩
  induction frames generalizing c with
  | nil => cases sent
  | cons first rest ih =>
    rw [List.forall_mem_cons] at sort
    rcases List.mem_cons.mp sent with now | later
    · cases now
      exact sort.1
    · exact ih c.next sort.2 later

end Utters

/-- From one state to a later one no frames are handed to channels but those of one sort. -/
def State.Utters (own : Raw → Prop) (s t : State) : Prop := Freebox.Utters own s.network.log t.network.log

section
variable {own : Raw → Prop}

instance : Std.Refl (State.Utters own) := ⟨fun s => .refl s.network.log⟩

instance : IsTrans State (State.Utters own) := ⟨fun _ _ _ => Utters.trans⟩

theorem handshake_utters : Keeps (State.Utters own) handshake :=
  handshake_keeps (fun _ s => .effect (by simp) s.network.log) fun _ s => .refl s.network.log

end

/-! ## Starting an upload -/

/-- To start a channel one frame is sent, or none if it does not open: that of its first action. -/
theorem startChannel_utters (path : String) (token : Text) (action : Members) (reply : String)
    (request : Option Int) :
    Keeps (State.Utters (· = .text (Json.obj action).line)) (startChannel path token action reply request) := by
  have opens : Keeps (State.Utters (· = .text (Json.obj action).line)) (openChannel path token) := by
    intro s
    unfold openChannel
    cases s.network.peer.accept (s.network.log.countP Effect.isConnect) <;>
      exact Utters.effect (by simp) s.network.log
  refine opens.bind fun channel => keeps_state.bind fun t => Keeps.bind (fun s => ?_) fun outcome => ?_
  · obtain ⟨inbox, asked⟩ := Channel.ask_state action reply request t.client.timeout ⟨channel, s.network.log⟩
    show Utters _ s.network.log (ask action reply request t.client.timeout ⟨channel, s.network.log⟩).2.log
    rw [asked]
    exact .handed channel (by simp) s.network.log
  · obtain ⟨result, after⟩ := outcome
    rcases result with (⟨e, cause⟩ | f) | ms
    · exact Keeps.bind (keeps_update fun u => Utters.effect (by simp [Channel.close]) u.network.log) fun _ =>
        keeps_fail _
    · exact keeps_fail _
    · exact keeps_pure _

theorem beginUpload_utters (start : Resource.UploadStart) (number : Int) (token : Text) :
    Keeps (State.Utters (· = .text (Json.obj (start.action number)).line)) (beginUpload start number token) :=
  keeps_state.bind fun _ => Keeps.bind (startChannel_utters "ws/upload" token _ _ _) fun _ => keeps_pure _

/-- **The first action** is sent under the number that is drawn, before a renewal and after it. -/
theorem startUpload_utters (start : Resource.UploadStart) (s : State) :
    s.Utters (· = .text (Json.obj (start.action ↑(s.client.uploads + 1))).line) (startUpload start s).2 := by
  -- the number is used up before a session is looked for, so all attempts are made under the same one
  have started := withSession_keeps handshake_utters (beginUpload_utters start ↑(s.client.uploads + 1))
  exact started { s with client := { s.client with uploads := s.client.uploads + 1 } }

/-- The first action carries the number. -/
theorem action_number (start : Resource.UploadStart) (number : Int) :
    (start.action number).get? "request_id" = some (.int number) := by
  have other : ("action" : Text) ≠ "request_id" := by decide
  simp [Resource.UploadStart.action, Members.withoutNulls, Members.get?, other]

/-! ## The reply that is accepted -/

/-- The reply to an action that is answered well is the first message that settles the wait for it. -/
theorem Channel.ask_ok {action : Members} {reply : String} {request : Option Int} {within : Quantity}
    {c d : Logged Channel} {ms : Members} (asked : ask action reply request within c = (.ok ms, d)) :
    ∃ skipped m, c.value.inbox = skipped ++ .message m :: d.value.inbox ∧ Channel.Settles reply request m ∧
      Channel.settled m = .ok ms := by
  have sent := Channel.sendAction_state action c
  unfold ask at asked
  rcases told : Channel.sendAction action c with ⟨e | v, after⟩ <;> rw [told] at sent
  · rw [Attempt.bind_of_error told] at asked
    cases asked
  · rw [Attempt.bind_of_ok told] at asked
    obtain rfl : after = _ := sent
    rcases found : Channel.findReply reply request within c.value.inbox with ⟨result, rest⟩
    rw [Channel.awaitReply_apply (c := ⟨c.value.next, _⟩) found] at asked
    obtain ⟨rfl, rfl⟩ := Prod.mk.inj asked
    exact Channel.findReply_ok found

/-- A channel that opens like this brings, behind some messages, one that tells an upload of a number to be started. -/
def Opening.Admits (number : Int) (o : Opening) (left : List Incoming) : Prop :=
  ∃ skipped m, ∃ ms : Members, ∃ failures, o = .accepted (skipped ++ .message m :: left) failures ∧
    Json.read m = .ok (.obj ms) ∧ ms.get "action" = .str "upload_start" ∧ (ms.get "request_id").isNumber number = true ∧
    ms.get? "success" = some (.bool true)

/-- One attempt that succeeds takes the reply from the channel that it asks for. -/
theorem beginUpload_ok {start : Resource.UploadStart} {number : Int} {token : Text} {s t : State} {u : Upload}
    (begun : beginUpload start number token s = (.ok u, t)) :
    u.requestId = number ∧ (s.network.peer.accept s.sought).Admits number u.channel.inbox := by
  unfold beginUpload at begun
  rw [Attempt.bind_of_ok (Attempt.state_apply s), Attempt.map_apply] at begun
  obtain ⟨told, -⟩ := Prod.mk.inj begun
  cases opening : s.network.peer.accept s.sought with
  | refused e =>
    rw [startChannel_refused opening] at told
    cases told
  | accepted inbox failures =>
    rw [startChannel_accepted opening] at told
    dsimp only at told
    split at told
    next ms answered =>
      -- the reply was the first message to settle the wait, and it was accepted
      obtain rfl := Except.ok.inj told
      obtain ⟨skipped, m, split, settles, reports⟩ := Channel.ask_ok (Prod.ext answered rfl)
      obtain ⟨read, success⟩ := Channel.settled_ok reports
      obtain ⟨action, request⟩ := settles ms read
      exact ⟨rfl, skipped, m, ms, failures, congrArg (Opening.accepted · failures) split, read, action,
        request number rfl, success⟩
    · cases told
    · cases told

/-- **An upload that is told** has the number that was drawn, and its start was told under that number on a channel that
was asked for in between. -/
theorem startUpload_ok {start : Resource.UploadStart} {s t : State} {u : Upload}
    (started : startUpload start s = (.ok u, t)) :
    u.requestId = ↑(s.client.uploads + 1) ∧
      ∃ i, s.sought ≤ i ∧ i < t.sought ∧
        (s.network.peer.accept i).Admits ↑(s.client.uploads + 1) u.channel.inbox := by
  let number : Nat := s.client.uploads + 1
  have attempts : ∀ token v, Attempted "upload_start" (some (number : Int)) Upload.channel v
      (beginUpload start number token v) :=
    fun token v => (startChannel_attempted "ws/upload" token _ _ _ v).map fun _ => rfl
  have drawn : Balanced "upload_start" (some (number : Int)) s
      { s with client := { s.client with uploads := number } } := .of_same ⟨rfl, rfl, rfl, rfl⟩
  rcases withSession_balanced attempts drawn with ⟨f, v, told, -⟩ | ⟨token, v, balanced, told⟩
  · cases told.symm.trans started
  · have last : beginUpload start number token v = (.ok u, t) := told.symm.trans started
    obtain ⟨carries, admits⟩ := beginUpload_ok last
    have leaves : Leaves u.channel.number v t := by
      have attempted := attempts token v
      rw [last] at attempted
      exact attempted
    have within : v.sought < t.sought := by
      rw [leaves.sought]
      exact Nat.lt_succ_self _
    refine ⟨carries, v.sought, balanced.sought, within, ?_⟩
    rw [← balanced.peer]
    exact admits

/-- The number that is told beside an upload is the one that was drawn. -/
theorem startNumbered_apply (start : Resource.UploadStart) (s : State) :
    startNumbered start s = ((startUpload start s).1.map (·, s.client.uploads + 1), (startUpload start s).2) := by
  unfold startNumbered
  rw [Attempt.bind_of_ok (Attempt.state_apply s)]
  exact Attempt.map_apply (startUpload start) (·, s.client.uploads + 1) s

/-! ## What is sent later -/

namespace Upload

/-- What is sent for an upload of a number once it is started: content, and the action that ends it. -/
def Speaks (number : Int) (frame : Raw) : Prop :=
  (∃ data, frame = .octets data) ∨
    ∃ name, (name = "upload_finalize" ∨ name = "upload_cancel") ∧
      frame = .text (Json.obj [("action", .str name), ("request_id", .int number)]).line

/-- An upload keeps its number, and nothing is sent but what is said under it. -/
structure Continues (u v : Logged Upload) : Prop where
  number : v.value.requestId = u.value.requestId
  sends : Utters (Speaks u.value.requestId) u.log v.log

instance : Std.Refl Continues := ⟨fun u => ⟨rfl, .refl u.log⟩⟩

instance : IsTrans (Logged Upload) Continues := ⟨fun _ _ _ h k =>
  ⟨k.number.trans h.number, h.sends.trans (h.number ▸ k.sends)⟩⟩

/-- An end says one of the two actions that end uploads. -/
theorem Ends.continues {name : String} {u v : Logged Upload} (ended : Ends name u v)
    (known : name = "upload_finalize" ∨ name = "upload_cancel") : Continues u v := by
  obtain ⟨inbox, rfl⟩ := ended
  refine ⟨rfl, Utters.trans (.handed u.value.channel ?_ u.log) (.effect (by simp [Channel.close]) _)⟩
  intro frame said
  exact Or.inr ⟨name, known, List.mem_singleton.mp said⟩

end Upload

namespace UploadCall

theorem ending?_known {d : UploadCall} {name : String} (ends : d.ending? = some name) :
    name = "upload_finalize" ∨ name = "upload_cancel" := by
  cases d with
  | write data => cases ends
  | close => exact Or.inl (Option.some.inj ends).symm
  | cancel => exact Or.inr (Option.some.inj ends).symm
  | leave failure =>
    cases failure with
    | none => exact Or.inl (Option.some.inj ends).symm
    | some e => exact Or.inr (Option.some.inj ends).symm

/-- **Every call** keeps the number, and says nothing but under it. -/
theorem perform_continues (d : UploadCall) : Keeps Upload.Continues d.perform := by
  intro u
  cases going : u.value.closed with
  | true =>
    rw [perform_closed going]
    exact refl_of Upload.Continues u
  | false =>
    cases ends : d.ending? with
    | some name => exact (perform_ending going ends).continues (ending?_known ends)
    | none =>
      cases d with
      | close | cancel => cases ends
      | leave failure => cases failure <;> cases ends
      | write data =>
        rw [perform_write going]
        exact ⟨rfl, .handed u.value.channel (by simp [Upload.Speaks]) u.log⟩

theorem run_continues (ds : List UploadCall) (u : Logged Upload) : Upload.Continues u (run ds u).2 := by
  induction ds generalizing u with
  | nil => exact refl_of Upload.Continues u
  | cons d ds ih => exact trans_of Upload.Continues (d.perform_continues u) (ih (d.perform u).2)

end UploadCall

namespace Upload

theorem write_continues (data : Bytes) : Keeps Continues (write data) := by
  intro u
  rw [← Attempt.map_state (write data) some u]
  exact (UploadCall.write data).perform_continues u

theorem close_continues : Keeps Continues close := by
  intro u
  rw [← Attempt.map_state close (fun _ => (none : Option Nat)) u]
  exact UploadCall.close.perform_continues u

theorem cancel_continues : Keeps Continues cancel := by
  intro u
  rw [← Attempt.map_state cancel (fun _ => (none : Option Nat)) u]
  exact UploadCall.cancel.perform_continues u

theorem block_continues (pieces : List Bytes) (failure : Option Failure) : Keeps Continues (block pieces failure) := by
  intro u
  obtain ⟨made, left, -, reached⟩ := block_calls pieces failure u
  rw [reached]
  exact UploadCall.run_continues _ u

end Upload

end Freebox
