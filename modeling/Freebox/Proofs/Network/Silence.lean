import Freebox.Proofs.Network.Asking

/-!
# `Freebox.Proofs.Network.Silence` — uploads and streams ask for nothing

Once a channel is open, all that is done with it is to send frames, to take messages and to close it. So neither an
upload nor a stream asks for anything more, however it goes on.

## Contents
- `Upload.write_silent`, `Upload.close_silent`, `Upload.cancel_silent`, `Upload.block_silent`.
- `EventStream.next_silent`, `EventStream.close_silent`, `EventStream.drain_silent`.
-/

namespace Freebox

open Channel (Silent)
open Attempt (Keeps keeps_pure keeps_fail keeps_lift keeps_state keeps_update)

/-! ## Uploads -/

namespace Upload

theorem onChannel_silent {α : Type} {a : Attempt (Logged Channel) α} (h : Keeps Silent a) :
    Keeps Silent (onChannel a) := fun u => h ⟨u.value.channel, u.log⟩

theorem send_silent (data : Bytes) : Keeps Silent (send data) := by
  intro c
  have sent := Channel.transmit_silent (.octets data) c
  unfold send
  cases h : Channel.transmit (.octets data) c with
  | mk result d =>
    rw [h] at sent
    cases result <;> exact sent

theorem mark_silent : Keeps Silent mark := keeps_update fun _ => rfl

theorem hangUp_silent : Keeps Silent hangUp := by
  refine keeps_update fun u => ?_
  show List.filterMap _ (u.log ++ [u.value.channel.close]) = _
  rw [List.filterMap_append]
  exact List.append_nil _

theorem write_silent (data : Bytes) : Keeps Silent (write data) := by
  refine keeps_state.bind fun u => ?_
  cases u.value.closed with
  | true => exact keeps_fail _
  | false => exact onChannel_silent (send_silent data)

theorem close_silent : Keeps Silent close := by
  refine keeps_state.bind fun u => ?_
  cases u.value.closed with
  | true => exact keeps_pure _
  | false =>
    have asked := onChannel_silent (Channel.ask_silent (u.value.ending "upload_finalize") "upload_finalize"
      (some u.value.requestId) u.value.replyTimeout)
    exact mark_silent.bind fun _ => asked.outcome.bind fun result => hangUp_silent.bind fun _ =>
      (keeps_lift result).bind fun _ => keeps_pure _

theorem cancel_silent : Keeps Silent cancel := by
  refine keeps_state.bind fun u => ?_
  cases u.value.closed with
  | true => exact keeps_pure _
  | false =>
    have sent := onChannel_silent (Channel.sendAction_silent (u.value.ending "upload_cancel"))
    refine mark_silent.bind fun _ => sent.outcome.bind fun result => hangUp_silent.bind fun _ => ?_
    rcases result with (⟨e, cause⟩ | f) | v
    · exact keeps_pure _
    · exact keeps_fail _
    · exact keeps_pure _

theorem writeAll_silent (pieces : List Bytes) : Keeps Silent (writeAll pieces) := by
  induction pieces with
  | nil => exact keeps_pure _
  | cons data rest ih => exact (write_silent data).bind fun _ => ih

theorem block_silent (pieces : List Bytes) (failure : Option Failure) : Keeps Silent (block pieces failure) := by
  refine Keeps.bind (Keeps.outcome (Keeps.bind (writeAll_silent pieces) fun _ => ?last)) fun result => ?after
  case last =>
    cases failure with
    | none => exact keeps_pure _
    | some e => exact keeps_fail e
  case after =>
    cases result with
    | ok _ => exact close_silent
    | error e => exact cancel_silent.bind fun _ => keeps_fail e

end Upload

/-! ## Streams -/

namespace EventStream

theorem next_silent : Keeps Silent next := by
  intro s
  unfold next
  cases s.value.closed with
  | true => exact refl_of Silent s
  | false =>
    rcases scan s.value.channel.inbox with ⟨r | e | (- | e), rest⟩ <;> rfl

theorem close_silent : Keeps Silent close := by
  refine keeps_update fun s => ?_
  cases s.value.closed with
  | true => exact refl_of Silent s
  | false =>
    show List.filterMap _ (s.log ++ [s.value.channel.close]) = _
    rw [List.filterMap_append]
    exact List.append_nil _

theorem collect_silent (n : Nat) : Keeps Silent (collect n) := by
  induction n with
  | zero => exact keeps_pure _
  | succ n ih =>
    refine next_silent.bind fun found => ?_
    cases found with
    | none => exact keeps_pure _
    | some r => exact ih.bind fun _ => keeps_pure _

theorem drain_silent : Keeps Silent drain := by
  refine keeps_state.bind fun s => ?_
  exact (collect_silent _).outcome.bind fun result => close_silent.bind fun _ => keeps_lift result

end EventStream

end Freebox
