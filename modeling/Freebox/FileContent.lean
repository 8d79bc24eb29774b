import Freebox.Renewal
import Freebox.Path

/-!
# `Freebox.FileContent` — files read from a box

A file is read from the body of a reply, once, while it arrives. A reply that tells no success is read and released at
once, and is an error like that of any other call. The path of a file is a string, see `Path.encode`: a text with a half
of a surrogate pair is none.

## Contents
- `FileContent`, with `FileContent.take` and `FileContent.release`.
- `openFile`, `getFile`.
-/

namespace Freebox

/-- A file to read: what its headers tell, and the body still to come. -/
structure FileContent where
  contentType : String
  filename : Option Text
  chunks : List Bytes
  broken : Option TransportError
  consumed : Bool := false
  released : Bool := false
  deriving DecidableEq, Repr

namespace FileContent

/-- The file in a reply. -/
def ofResponse (r : Response) : Except Failure FileContent :=
  let type := header? r.headers "content-type"
  match Mime.filename (header? r.headers "content-disposition") type with
  | .error f => .error (.fault f)
  | .ok filename => .ok
    { contentType := (type.map Mime.contentType).getD "", filename, chunks := r.chunks, broken := r.broken }

/-- The pieces of an octet string, of a length each but the last. The number bounds how many there are. -/
def piecesOf (size : Nat) : Nat → Bytes → List Bytes
  | 0, _ => []
  | n + 1, bs => if bs = [] then [] else bs.take size :: piecesOf size n (bs.drop size)

/-- The body in pieces of a length, or as it came. -/
def cut (size : Option Nat) (chunks : List Bytes) : List Bytes :=
  match size with
  | none => chunks.filter (· != [])
  | some n => piecesOf n chunks.flatten.length chunks.flatten

/-- What keeps a body from being read to its end: the transport, or pieces without a length as soon as an octet or the
end has come. -/
def obstacle (size : Option Nat) (f : FileContent) : Option Failure :=
  if size = some 0 ∧ (f.broken = none ∨ f.chunks.flatten ≠ []) then some (.fault .emptyPieces)
  else f.broken.map (fun e => .ofBox (.network (.fileContent e.message)))

/-- Reads the body to its end, if it was neither read nor released before. -/
def take (size : Option Nat) : Attempt FileContent (List Bytes) := fun f =>
  if f.consumed then (.error (.fault .bodyConsumed), f)
  else if f.released then (.error (.fault .bodyReleased), f)
  else
    match f.obstacle size with
    | some e => (.error e, { f with consumed := true })
    | none => (.ok (cut size f.chunks), { f with consumed := true, released := true })

/-- Releases the body. -/
def release (f : FileContent) : FileContent := { f with released := true }

end FileContent

/-- The request for the content of a file. -/
def Client.fileRequest (c : Client) (path : String) (token : Text) : Request where
  method := "GET"
  url := c.url ("dl/" ++ Path.encode path)
  headers := [(authHeader, token)]
  timeout := c.timeout

/-- The failure of reading the body of a reply that tells an error. -/
def Request.failedBody (r : Request) (e : TransportError) : Failure :=
  .ofBox (.network (.errorBody r.method r.url e.message))

/-- Asks for the content of a file under a token. -/
def openFile (path : String) (token : Text) : Attempt State FileContent := do
  let s ← .state
  let request := s.client.fileRequest path token
  let response ← transmit request
  if isSuccess response.status then .lift (FileContent.ofResponse response)
  else do
    .update (fun s => (s.did .readBody).did .releaseBody)
    let received ← Attempt.lift (response.whole.mapError request.failedBody)
    let _ ← Attempt.lift received.envelope
    .lift (FileContent.ofResponse response)

/-- The content of a file. -/
def getFile (path : String) : Attempt State FileContent := withSession (openFile path)

end Freebox
