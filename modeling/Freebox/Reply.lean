import Freebox.Envelope
import Freebox.Mime
import Freebox.Network

/-!
# `Freebox.Reply` — what a reply to a request means

The box sends structured errors along with statuses that tell no success, so the envelope is looked at first. A reply is
an envelope only if its status and its envelope both tell success. Otherwise the refusal in the envelope counts, if
there is a code or a message in it, or if the status told success; and else the status.

## Contents
- `header?`: the value of a header.
- `Response.whole`: a reply read to its end.
- `Received.text`, `Received.envelope`: the body as a text, and as an envelope or a failure.
-/

namespace Freebox

/-- The value of a header, whatever the case of its name; several values are put in a row. -/
def header? (headers : List (String × String)) (name : String) : Option String :=
  match headers.filter (fun h => h.1.toLower = name) with
  | [] => none
  | hs => some (String.intercalate ", " (hs.map (·.2)))

/-- A reply read to its end, unless the transport fails. -/
def Response.whole (r : Response) : Except TransportError Received :=
  match r.broken with
  | some e => .error e
  | none => .ok ⟨r.status, r.headers, r.chunks.flatten⟩

/-- The failure of a request that the transport did not complete. -/
def Request.failed (r : Request) (e : TransportError) : Failure :=
  if e.timedOut then .ofBox (.deadline (.request r.method r.url r.timeout))
  else .ofBox (.network (.request r.method r.url e.message))

namespace Received

/-- The body as a text, read leniently in the charset that its media type tells. An empty body needs none. -/
def text (r : Received) : Except Fault Text :=
  if r.body = [] then .ok ""
  else do
    let name ← match header? r.headers "content-type" with
      | some type => Mime.charsetName type
      | none => pure none
    Mime.readBody name r.body

/-- The failure that a status tells, with an error behind it if there is one; a body without a text is a fault. -/
def statusFailure (r : Received) (cause : Option BoxError) : Failure :=
  match r.text with
  | .ok body => .box (.status r.status body) cause
  | .error f => .fault f

/-- The envelope of a reply, or the failure that it tells. -/
def envelope (r : Received) : Except Failure Envelope :=
  match Envelope.parse (.octets r.body) with
  | .error e => .error (if isSuccess r.status then .ofDecoding e else r.statusFailure (some (.decoding e)))
  | .ok e =>
    if e.success then
      if isSuccess r.status then .ok e else .error (r.statusFailure none)
    else if !isSuccess r.status && !e.hasErrorDetails then .error (r.statusFailure none)
    else .error (e.refused (some r.status))

end Received

end Freebox
