import Freebox.Renewal
import Freebox.Resource.Operation

/-!
# `Freebox.Call` — calls of a box

## Contents
- `call`: one call, under a session or without.
- `Operation.run`: an operation under a session, down to its answer.
-/

namespace Freebox

/-- One call of the box, under a session if it needs one. -/
def call (method : String) (path : Text) (authenticated : Bool) (parcel : Parcel) : Attempt State Envelope :=
  if authenticated then withSession (fun token => perform method path (some token) parcel)
  else perform method path none parcel

/-- Runs an operation under a session and reads its result. -/
def Operation.run (o : Operation) : Attempt State Answer := do
  let envelope ← call o.method o.path true { payload := o.payload, form := o.form }
  .lift (o.reading.read envelope.result)

/-- Runs an operation that may have been refused before. -/
def Operation.runDraft (draft : Except Fault Operation) : Attempt State Answer :=
  match draft with
  | .ok o => o.run
  | .error f => .fail (.fault f)

end Freebox
