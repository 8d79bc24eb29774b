import Freebox.Resource.Transfer
import Freebox.Socket

/-!
# `Freebox.Upload` — files written to a box

An upload is started by an action on a channel of its own. Content is sent in frames of octets. Closing finalizes the
upload and waits for the box; cancelling does not wait. Either closes the channel, once.

## Contents
- `Upload`, with `Upload.write`, `Upload.close`, `Upload.cancel` and `Upload.block`.
- `startUpload`: the next upload of a client. `startNumbered`: with its number beside it.
-/

namespace Freebox

/-- A file being uploaded. -/
structure Upload where
  channel : Channel
  requestId : Int
  replyTimeout : Quantity
  closed : Bool := false
  deriving DecidableEq, Repr

namespace Upload

/-- Runs an attempt on the channel of an upload. -/
def onChannel {α : Type} (a : Attempt (Logged Channel) α) : Attempt (Logged Upload) α :=
  .within (fun u => ⟨u.value.channel, u.log⟩) (fun c u => ⟨{ u.value with channel := c.value }, c.log⟩) a

/-- The action that ends an upload. -/
def ending (name : String) (u : Upload) : Members := [("action", .str name), ("request_id", .int u.requestId)]

/-- Sends content: the number of octets. -/
def send (data : Bytes) : Attempt (Logged Channel) Nat := fun c =>
  match Channel.transmit (.octets data) c with
  | (.ok (), d) => (.ok data.length, d)
  | (.error e, d) => (.error (Channel.failureOf .uploadData e), d)

/-- Sends content, unless the upload is closed. -/
def write (data : Bytes) : Attempt (Logged Upload) Nat := do
  let u ← .state
  if u.value.closed then .fail (.fault .closedUpload) else onChannel (send data)

/-- Marks an upload as closed. -/
def mark : Attempt (Logged Upload) Unit := .update (fun u => { u with value := { u.value with closed := true } })

/-- Closes the channel. -/
def hangUp : Attempt (Logged Upload) Unit := .update (fun u => { u with log := u.log ++ [u.value.channel.close] })

/-- Finalizes an upload, unless it is closed, and closes its channel whatever comes of it. -/
def close : Attempt (Logged Upload) Unit := do
  let u ← .state
  if u.value.closed then return ()
  else do
    mark
    let result ← (onChannel (ask (u.value.ending "upload_finalize") "upload_finalize" (some u.value.requestId)
      u.value.replyTimeout)).outcome
    hangUp
    let _ ← Attempt.lift result
    return ()

/-- Cancels an upload, unless it is closed, and closes its channel. That the action cannot be sent does not matter. -/
def cancel : Attempt (Logged Upload) Unit := do
  let u ← .state
  if u.value.closed then return ()
  else do
    mark
    let result ← (onChannel (Channel.sendAction (u.value.ending "upload_cancel"))).outcome
    hangUp
    match result with
    | .error (.fault f) => .fail (.fault f)
    | _ => return ()

/-- Sends pieces of content. -/
def writeAll : List Bytes → Attempt (Logged Upload) Unit
  | [] => return ()
  | data :: rest => do
    let _ ← write data
    writeAll rest

/-- Sends pieces of content, then fails if told so; afterwards the upload is closed, or cancelled after a failure. -/
def block (pieces : List Bytes) (failure : Option Failure) : Attempt (Logged Upload) Unit := do
  let body : Attempt (Logged Upload) Unit := do
    writeAll pieces
    match failure with
    | some e => .fail e
    | none => return ()
  match ← body.outcome with
  | .ok () => close
  | .error e => do
    cancel
    .fail e

end Upload

/-- Starts an upload under a token. -/
def beginUpload (start : Resource.UploadStart) (requestId : Int) (token : Text) : Attempt State Upload := do
  let s ← .state
  let channel ← startChannel "ws/upload" token (start.action requestId) "upload_start" (some requestId)
  return { channel, requestId, replyTimeout := s.client.timeout }

/-- Starts the next upload of a client. Its number is used up whatever comes of it. -/
def startUpload (start : Resource.UploadStart) : Attempt State Upload := do
  let s ← .state
  let number := s.client.uploads + 1
  .update (fun s => { s with client := { s.client with uploads := number } })
  withSession (beginUpload start number)

/-- Starts the next upload of a client: the upload, and beside it the number that it was started under. -/
def startNumbered (start : Resource.UploadStart) : Attempt State (Upload × Nat) := do
  let s ← .state
  let upload ← startUpload start
  return (upload, s.client.uploads + 1)

end Freebox
