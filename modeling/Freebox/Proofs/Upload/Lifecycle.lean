import Freebox.Proofs.Attempt.Guarantee
import Freebox.Proofs.Channel.Action
import Freebox.Upload

/-!
# `Freebox.Proofs.Upload.Lifecycle` — the life of an upload

An upload is written to, and ended once: by closing it, by cancelling it, or by leaving a block. Up to its end it hands
its content to its channel, piece by piece. Its end hands over one action and closes the channel, whatever comes of the
action. After its end nothing more is done.

## Contents
- `UploadCall`, `UploadCall.run`: calls on an upload.
- `UploadCall.written`, `UploadCall.closing?`: the content before the first end, and that end.
- `Upload.write_open`, `Upload.close_open`, `Upload.cancel_open`: an upload that is going on.
- `UploadCall.perform_closed`, `UploadCall.perform_write`, `UploadCall.perform_ending`: one call.
- `UploadCall.run_open`: any number of calls. `Upload.block_calls`: a block is some writes and a leaving.
- `Upload.lifecycle`: the life of an upload as a whole.
-/

namespace Freebox

/-! ## Calls -/

/-- A call on an upload. -/
inductive UploadCall where
  | write (data : Bytes)
  | close
  | cancel
  /-- A block is left: in the normal way, or by a failure that goes on behind it. -/
  | leave (failure : Option Failure)

/-- Leaves a block: the upload is closed, or cancelled after a failure. -/
def Upload.leave : Option Failure → Attempt (Logged Upload) Unit
  | none => Upload.close
  | some e => do
    Upload.cancel
    .fail e

namespace UploadCall

/-- Makes a call: the number of octets that were written, if it is a write. -/
def perform : UploadCall → Attempt (Logged Upload) (Option Nat)
  | write data => do
    let n ← Upload.write data
    return some n
  | close => do
    Upload.close
    return none
  | cancel => do
    Upload.cancel
    return none
  | leave failure => do
    Upload.leave failure
    return none

/-- Makes calls one after the other; a failed one does not keep the next from being made. -/
def run : List UploadCall → Logged Upload → List (Except Failure (Option Nat)) × Logged Upload
  | [], u => ([], u)
  | d :: ds, u =>
    let (result, after) := d.perform u
    let (results, last) := run ds after
    (result :: results, last)

/-- The action that a call ends an upload by, if it does. -/
def ending? : UploadCall → Option String
  | write _ => none
  | close | leave none => some "upload_finalize"
  | cancel | leave (some _) => some "upload_cancel"

/-- What a call comes to once the upload has ended. -/
def spent : UploadCall → Except Failure (Option Nat)
  | write _ => .error (.fault .closedUpload)
  | leave (some e) => .error e
  | close | cancel | leave none => .ok none

/-- The content of the writes before the first call that ends the upload. -/
def written : List UploadCall → List Bytes
  | write data :: ds => data :: written ds
  | _ => []

/-- The action of the first call that ends the upload. -/
def closing? (ds : List UploadCall) : Option String := ds.findSome? ending?

theorem run_append (ds es : List UploadCall) (u : Logged Upload) : (run (ds ++ es) u).2 = (run es (run ds u).2).2 := by
  induction ds generalizing u with
  | nil => rfl
  | cons d ds ih => exact ih (d.perform u).2

theorem written_ending {d : UploadCall} {name : String} (ends : d.ending? = some name) (ds : List UploadCall) :
    written (d :: ds) = [] := by
  cases d with
  | write data => simp [ending?] at ends
  | close | cancel | leave failure => rfl

theorem closing?_ending {d : UploadCall} {name : String} (ends : d.ending? = some name) (ds : List UploadCall) :
    closing? (d :: ds) = some name := by
  rw [closing?, List.findSome?_cons, ends]

end UploadCall

/-! ## An upload that has ended, and one that is going on -/

namespace Upload

/-- The frame of the action that ends an upload: it holds the name of the action and the number of the upload. -/
def endingFrame (u : Upload) (name : String) : Raw :=
  .text (Json.obj [("action", .str name), ("request_id", .int u.requestId)]).line

/-- An upload ends by an action: the action is handed over, the channel is closed, and so is the upload. -/
def Ends (name : String) (u v : Logged Upload) : Prop :=
  ∃ inbox, v = ⟨{ u.value with channel := { u.value.channel.next with inbox }, closed := true },
    u.log ++ u.value.channel.handed [u.value.endingFrame name] ++ [u.value.channel.close]⟩

section
variable {u : Logged Upload}

theorem write_closed (ended : u.value.closed = true) (data : Bytes) :
    write data u = (.error (.fault .closedUpload), u) := by
  unfold write
  rw [Attempt.bind_of_ok (Attempt.state_apply u)]
  simp [ended]

theorem close_closed (ended : u.value.closed = true) : close u = (.ok (), u) := by
  unfold close
  rw [Attempt.bind_of_ok (Attempt.state_apply u)]
  simp [ended]

theorem cancel_closed (ended : u.value.closed = true) : cancel u = (.ok (), u) := by
  unfold cancel
  rw [Attempt.bind_of_ok (Attempt.state_apply u)]
  simp [ended]

theorem send_state (data : Bytes) (c : Logged Channel) :
    (send data c).2 = ⟨c.value.next, c.log ++ c.value.handed [.octets data]⟩ := by
  rw [← Channel.transmit_state]
  unfold send
  rcases Channel.transmit (.octets data) c with ⟨e | v, d⟩ <;> rfl

/-- A write hands its content over, whether it is delivered or not. -/
theorem write_open (going : u.value.closed = false) (data : Bytes) :
    (write data u).2
      = ⟨{ u.value with channel := u.value.channel.next }, u.log ++ u.value.channel.handed [.octets data]⟩ := by
  have sent := send_state data ⟨u.value.channel, u.log⟩
  unfold write
  rw [Attempt.bind_of_ok (Attempt.state_apply u), going]
  show (⟨{ u.value with channel := (send data ⟨u.value.channel, u.log⟩).2.value }, _⟩ : Logged Upload) = _
  rw [sent]

/-- What is done on the channel of an upload that ends: the upload is closed before it, and the channel after it,
whatever comes of it. -/
theorem ended_state {α : Type} (a : Attempt (Logged Channel) α) {tell : Except Failure α → Attempt (Logged Upload) Unit}
    (still : ∀ result v, (tell result v).2 = v) (u : Logged Upload) :
    ((do mark
         let result ← (onChannel a).outcome
         hangUp
         tell result) u).2
      = (let done := (a ⟨u.value.channel, u.log⟩).2
         ⟨{ u.value with channel := done.value, closed := true }, done.log ++ [done.value.close]⟩) := by
  unfold mark hangUp
  rw [Attempt.bind_of_ok (Attempt.update_apply _ u), Attempt.bind_of_ok (Attempt.outcome_apply _ _),
    Attempt.bind_of_ok (Attempt.update_apply _ _), still]
  rfl

/-- Closing finalizes, whatever the box answers. -/
theorem close_open (going : u.value.closed = false) : Ends "upload_finalize" u (close u).2 := by
  obtain ⟨inbox, asked⟩ := Channel.ask_state (u.value.ending "upload_finalize") "upload_finalize"
    (some u.value.requestId) u.value.replyTimeout ⟨u.value.channel, u.log⟩
  refine ⟨inbox, ?_⟩
  unfold close
  rw [Attempt.bind_of_ok (Attempt.state_apply u), going]
  refine (ended_state _ (fun result v => ?_) u).trans ?_
  · exact Attempt.map_state (Attempt.lift result) (fun _ => ()) v
  · rw [asked]
    rfl

/-- What is told of a cancelled upload: only what is no error of the box. -/
def cancelled : Except Failure Unit → Attempt (Logged Upload) Unit
  | .error (.fault f) => .fail (.fault f)
  | _ => return ()

theorem cancel_apply (going : u.value.closed = false) :
    cancel u = (do mark
                   let result ← (onChannel (Channel.sendAction (u.value.ending "upload_cancel"))).outcome
                   hangUp
                   cancelled result) u := by
  unfold cancel
  rw [Attempt.bind_of_ok (Attempt.state_apply u), going]
  rfl

theorem cancel_open (going : u.value.closed = false) : Ends "upload_cancel" u (cancel u).2 := by
  have sent := Channel.sendAction_state (u.value.ending "upload_cancel") ⟨u.value.channel, u.log⟩
  refine ⟨u.value.channel.inbox, ?_⟩
  rw [cancel_apply going, ended_state _ (fun result v => ?_) u, sent]
  · rfl
  · rcases result with (⟨e, cause⟩ | f) | w <;> rfl

/-- An upload can always be cancelled: that an error of the channel keeps the action from being sent does not matter. -/
theorem cancel_ok (sendable : u.value.channel.Sendable) : (cancel u).1 = .ok () := by
  cases going : u.value.closed with
  | true => rw [cancel_closed going]
  | false =>
    have errors := Channel.sendAction_fault_iff (u.value.ending "upload_cancel") ⟨u.value.channel, u.log⟩
    rw [cancel_apply going]
    unfold mark hangUp
    rw [Attempt.bind_of_ok (Attempt.update_apply _ u), Attempt.bind_of_ok (Attempt.outcome_apply _ _),
      Attempt.bind_of_ok (Attempt.update_apply _ _)]
    show (cancelled (Channel.sendAction (u.value.ending "upload_cancel") ⟨u.value.channel, u.log⟩).1 _).1 = _
    rcases told : (Channel.sendAction (u.value.ending "upload_cancel") ⟨u.value.channel, u.log⟩).1 with
      (⟨e, cause⟩ | f) | v
    · rfl
    · obtain ⟨m, foreign⟩ := errors.mp ⟨f, told⟩
      exact absurd foreign (sendable _ m)
    · rfl

theorem leave_closed (ended : u.value.closed = true) (failure : Option Failure) :
    leave failure u = ((match failure with | none => .ok () | some e => .error e), u) := by
  cases failure with
  | none => exact close_closed ended
  | some e => exact Attempt.bind_of_ok (cancel_closed ended)

/-- A failure that goes on behind a block does nothing more to the upload. -/
theorem leave_failed (e : Failure) (u : Logged Upload) : (leave (some e) u).2 = (cancel u).2 := by
  show ((cancel >>= fun _ => .fail e : Attempt (Logged Upload) Unit) u).2 = _
  rw [Attempt.bind_apply]
  rcases cancel u with ⟨f | v, w⟩ <;> rfl

end

end Upload

/-! ## One call -/

namespace UploadCall

section
variable {u : Logged Upload}

/-- **After its end** nothing is done to an upload: writes are refused, and it is not ended again. -/
theorem perform_closed (ended : u.value.closed = true) (d : UploadCall) : d.perform u = (d.spent, u) := by
  cases d with
  | write data => exact Attempt.bind_of_error (Upload.write_closed ended data)
  | close => exact Attempt.bind_of_ok (Upload.close_closed ended)
  | cancel => exact Attempt.bind_of_ok (Upload.cancel_closed ended)
  | leave failure =>
    have left := Upload.leave_closed ended failure
    cases failure with
    | none => exact Attempt.bind_of_ok left
    | some e => exact Attempt.bind_of_error left

/-- **A write** to an upload that is going on. -/
theorem perform_write (going : u.value.closed = false) (data : Bytes) :
    ((write data).perform u).2
      = ⟨{ u.value with channel := u.value.channel.next }, u.log ++ u.value.channel.handed [.octets data]⟩ := by
  rw [perform, Attempt.map_state]
  exact Upload.write_open going data

/-- **The end** of an upload that is going on. -/
theorem perform_ending (going : u.value.closed = false) {d : UploadCall} {name : String}
    (ends : d.ending? = some name) :
    Upload.Ends name u (d.perform u).2 := by
  cases d with
  | write data => simp [ending?] at ends
  | close =>
    obtain rfl : "upload_finalize" = name := Option.some.inj ends
    rw [perform, Attempt.map_state]
    exact Upload.close_open going
  | cancel =>
    obtain rfl : "upload_cancel" = name := Option.some.inj ends
    rw [perform, Attempt.map_state]
    exact Upload.cancel_open going
  | leave failure =>
    rw [perform, Attempt.map_state]
    cases failure with
    | none =>
      obtain rfl : "upload_finalize" = name := Option.some.inj ends
      exact Upload.close_open going
    | some e =>
      obtain rfl : "upload_cancel" = name := Option.some.inj ends
      rw [Upload.leave_failed]
      exact Upload.cancel_open going

/-- The sends that fail are those of the channel from the start. -/
theorem perform_failures (d : UploadCall) : (d.perform u).2.value.channel.failures = u.value.channel.failures := by
  cases going : u.value.closed with
  | true => rw [perform_closed going]
  | false =>
    cases ends : d.ending? with
    | some name =>
      obtain ⟨inbox, ended⟩ := perform_ending going ends
      rw [ended]
      rfl
    | none =>
      cases d with
      | close | cancel => cases ends
      | leave failure => cases failure <;> cases ends
      | write data =>
        rw [perform_write going]
        rfl

/-! ## Any number of calls -/

theorem run_failures (ds : List UploadCall) (u : Logged Upload) :
    (run ds u).2.value.channel.failures = u.value.channel.failures := by
  induction ds generalizing u with
  | nil => rfl
  | cons d ds ih => exact (ih (d.perform u).2).trans (perform_failures d)

theorem run_closed (ended : u.value.closed = true) (ds : List UploadCall) : run ds u = (ds.map spent, u) := by
  induction ds with
  | nil => rfl
  | cons d ds ih => simp only [run, perform_closed ended d, ih, List.map_cons]

/-- **Any number of calls**, by induction: up to the first end every write hands its content over; the end hands its
action over and closes the channel; and nothing comes after it. -/
theorem run_open (going : u.value.closed = false) (ds : List UploadCall) :
    (run ds u).2.log
        = u.log ++ u.value.channel.handed ((written ds).map .octets ++ (closing? ds).toList.map u.value.endingFrame)
          ++ (closing? ds).toList.map (fun _ => u.value.channel.close) ∧
      (run ds u).2.value.closed = (closing? ds).isSome := by
  induction ds generalizing u with
  | nil => exact ⟨by simp [run, written, closing?, Channel.handed], going⟩
  | cons d ds ih =>
    cases ends : d.ending? with
    | some name =>
      obtain ⟨inbox, ended⟩ := perform_ending going ends
      have finished : (run (d :: ds) u).2 = (d.perform u).2 := by
        show (run ds (d.perform u).2).2 = _
        rw [run_closed (by rw [ended]) ds]
      rw [finished, ended, written_ending ends, closing?_ending ends]
      exact ⟨rfl, rfl⟩
    | none =>
      cases d with
      | close | cancel => cases ends
      | leave failure => cases failure <;> cases ends
      | write data =>
        have stepped := perform_write going data
        have rest := ih (u := ((write data).perform u).2) (by rw [stepped]; exact going)
        have onward : (run (write data :: ds) u).2 = (run ds ((write data).perform u).2).2 := rfl
        have later : closing? (write data :: ds) = closing? ds := rfl
        rw [onward, later]
        refine ⟨rest.1.trans ?_, rest.2⟩
        -- the frame of this write stands before all that is handed over afterwards
        rw [stepped]
        simp only [written, List.map_cons, List.cons_append, Channel.handed, List.append_assoc, List.nil_append]
        rfl

end

end UploadCall

/-! ## Blocks -/

namespace Upload

theorem writeAll_calls (pieces : List Bytes) (u : Logged Upload) :
    ∃ made, made <+: pieces ∧ (writeAll pieces u).2 = (UploadCall.run (made.map .write) u).2 := by
  induction pieces generalizing u with
  | nil => exact ⟨[], List.prefix_refl [], rfl⟩
  | cons data rest ih =>
    have same : ((UploadCall.write data).perform u).2 = (write data u).2 := Attempt.map_state (write data) some u
    rcases h : write data u with ⟨e | n, v⟩
    · -- a write that fails is the last one
      refine ⟨[data], ⟨rest, rfl⟩, ?_⟩
      have stopped : writeAll (data :: rest) u = (.error e, v) := Attempt.bind_of_error h
      rw [stopped]
      show v = ((UploadCall.write data).perform u).2
      rw [same, h]
    · obtain ⟨made, before, reached⟩ := ih v
      refine ⟨data :: made, (List.prefix_cons_inj data).mpr before, ?_⟩
      have went_on : writeAll (data :: rest) u = writeAll rest v := Attempt.bind_of_ok h
      rw [went_on, reached]
      show _ = (UploadCall.run (made.map .write) ((UploadCall.write data).perform u).2).2
      rw [same, h]

/-- A block writes its pieces up to the first one that fails, and is left. -/
theorem block_calls (pieces : List Bytes) (failure : Option Failure) (u : Logged Upload) :
    ∃ made left, made <+: pieces ∧
      (block pieces failure u).2 = (UploadCall.run (made.map .write ++ [.leave left]) u).2 := by
  obtain ⟨made, before, reached⟩ := writeAll_calls pieces u
  have leaving (left : Option Failure) :
      (UploadCall.run (made.map .write ++ [.leave left]) u).2 = (leave left (writeAll pieces u).2).2 := by
    rw [UploadCall.run_append, ← reached]
    exact Attempt.map_state (leave left) (fun _ => none) _
  rcases h : writeAll pieces u with ⟨e | v, w⟩
  · refine ⟨made, some e, before, ?_⟩
    rw [leaving, h]
    unfold block
    rw [Attempt.bind_of_ok (Attempt.outcome_apply _ u), Attempt.bind_of_error h]
    rfl
  · refine ⟨made, failure, before, ?_⟩
    rw [leaving, h]
    unfold block
    rw [Attempt.bind_of_ok (Attempt.outcome_apply _ u), Attempt.bind_of_ok h]
    cases failure <;> rfl

/-! ## The whole life -/

/-- **The life of an upload.** Whatever is done with it, and whatever its channel meets with: the content of the writes
before the first end is handed over in order, then the action of that end, if there is one, and then the channel is
closed, once; nothing else is done. From the first end on the upload is closed: writes are refused, it is not ended
again, and nothing changes any more. To cancel it succeeds at any time, unless a send meets with what is no error of a
channel. A block is nothing but writes and a leaving. -/
theorem lifecycle (channel : Channel) (requestId : Int) (replyTimeout : Quantity) (log : List Effect)
    (ds : List UploadCall) :
    let u : Upload := { channel, requestId, replyTimeout }
    let after := (UploadCall.run ds ⟨u, log⟩).2
    after.log
        = log ++ channel.handed
            ((UploadCall.written ds).map .octets ++ (UploadCall.closing? ds).toList.map u.endingFrame) ++
              (UploadCall.closing? ds).toList.map (fun _ => channel.close) ∧
      after.value.closed = (UploadCall.closing? ds).isSome ∧
      (after.value.closed = true → ∀ d : UploadCall, d.perform after = (d.spent, after)) ∧
      (channel.Sendable → (UploadCall.cancel.perform after).1 = .ok none) ∧
      ∀ pieces failure, ∃ made left, made <+: pieces ∧
        (block pieces failure after).2 = (UploadCall.run (made.map .write ++ [.leave left]) after).2 := by
  intro u after
  have going : (⟨u, log⟩ : Logged Upload).value.closed = false := rfl
  obtain ⟨handed, closed⟩ := UploadCall.run_open going ds
  refine ⟨handed, closed, ?ended, ?cancelled, fun pieces failure => block_calls pieces failure after⟩
  case ended =>
    intro ended d
    exact UploadCall.perform_closed ended d
  case cancelled =>
    intro sendable
    have sendable_still : after.value.channel.Sendable := by
      intro n m
      rw [UploadCall.run_failures]
      exact sendable n m
    have told : cancel after = (.ok (), (cancel after).2) := Prod.ext (cancel_ok sendable_still) rfl
    rw [UploadCall.perform, Attempt.bind_of_ok told, Attempt.pure_apply]

/-- An upload whose last action cannot be sent is closed all the same, and is not written to any more. -/
theorem lifecycle_unsent :
    let channel : Channel := { number := 1, inbox := [], failures := [(2, .timeout "timed out")] }
    let u : Upload := { channel, requestId := 7, replyTimeout := .int 10 }
    let after := (UploadCall.run [.write [104], .close, .write [105]] ⟨u, []⟩).2
    after.log = [.send 1 (.octets [104]) true, .send 1 (u.endingFrame "upload_finalize") false, .close 1] ∧
      after.value.closed = true ∧ (UploadCall.write [105]).perform after = (.error (.fault .closedUpload), after) ∧
      channel.Sendable ∧ (UploadCall.cancel.perform after).1 = .ok none := by
  intro channel u after
  have sendable : channel.Sendable := by
    intro n m h
    obtain ⟨before, rest, entries, -⟩ := List.lookup_eq_some_iff.mp h
    have here : (n, SocketError.foreign m) ∈ [(2, SocketError.timeout "timed out")] := by
      show _ ∈ channel.failures
      rw [entries]
      simp
    simp at here
  obtain ⟨handed, closed, spent, cancelled, -⟩ :=
    lifecycle channel 7 (.int 10) [] [.write [104], .close, .write [105]]
  exact ⟨handed, closed, spent closed (.write [105]), sendable, cancelled sendable⟩

end Upload

end Freebox
