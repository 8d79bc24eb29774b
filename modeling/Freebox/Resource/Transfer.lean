import Freebox.Resource.Operation

/-!
# `Freebox.Resource.Transfer` — the download manager and the uploads of a box

Downloads are asked for by a form. One address is sent by itself, several as the lines of one text. Directories are
strings, see `Path.encode`: a text with a half of a surrogate pair is none.

## Contents
- `downloadTask`, `uploadTask`: the layouts.
- `DownloadRequest`, `DownloadUpdate`, `UploadStart`: what is asked for.
- `DownloadTask`, `UploadTask`: the operations.
-/

namespace Freebox.Resource

/-! ## Downloads -/

/-- A download. -/
def downloadTask : Layout := .ofFields "DownloadTask"
  [.required "id", .optional "type", .optional "name", .optional "status", .count "size", .count "queue_pos",
   .optional "io_priority", .count "tx_bytes", .count "rx_bytes", .count "tx_rate", .count "rx_rate",
   .count "tx_pct", .count "rx_pct", .optional "error", .optional "created_ts", .count "eta",
   .path "download_dir", .count "stop_ratio", .optional "archive_password", .optional "info_hash",
   .count "piece_length"]

/-- Downloads to add. The addresses are what the caller gave. -/
structure DownloadRequest where
  urls : List Json
  directory : Option String := none
  filename : Option String := none
  hash : Option String := none
  recursive : Option Bool := none
  username : Option String := none
  password : Option String := none
  archivePassword : Option String := none
  cookies : Option String := none
  deriving DecidableEq, Repr

/-- The texts of addresses; the number is the place of the first. -/
def addressTexts : Nat → List Json → Except Fault (List Text)
  | _, [] => .ok []
  | i, .str t :: vs => (addressTexts (i + 1) vs).map (t :: ·)
  | i, v :: _ => .error (.notJoinable i v.kind)

/-- The field that holds the addresses. -/
def addressField : List Json → Except Fault (Text × Json)
  | [] => .error .noDownloadUrl
  | [url] => .ok ("download_url", url)
  | urls => (addressTexts 0 urls).map (fun texts => ("download_url_list", .str (Text.intercalate "\n" texts)))

/-- The word for a truth value in a form. -/
def formFlag : Option Bool → Json
  | some true => .str "true"
  | some false => .str "false"
  | none => .null

/-- The fields of a form. -/
def DownloadRequest.form (d : DownloadRequest) : Except Fault Members :=
  (addressField d.urls).map (fun addresses => Members.withoutNulls
    [("download_dir", ofPath? d.directory), ("filename", .ofString? d.filename), ("hash", .ofString? d.hash),
     ("username", .ofString? d.username), ("password", .ofString? d.password),
     ("archive_password", .ofString? d.archivePassword), ("cookies", .ofString? d.cookies), addresses,
     ("recursive", formFlag d.recursive)])

/-- What is set on a download. -/
structure DownloadUpdate where
  ioPriority : Option String := none
  status : Option String := none
  queuePosition : Option Int := none
  deriving DecidableEq, Repr

/-- The members of an update. -/
def DownloadUpdate.payload (d : DownloadUpdate) : Json := drafted
  [("io_priority", .ofString? d.ioPriority), ("status", .ofString? d.status), ("queue_pos", .ofInt? d.queuePosition)]

namespace DownloadTask

/-- The address of a download. -/
def taskPath (id : Int) : String := "downloads/" ++ Whole.text id

/-- All downloads. -/
def list : Operation := { method := "GET", path := "downloads/", reading := .records downloadTask }

/-- One download. -/
def get (id : Int) : Operation := { method := "GET", path := taskPath id, reading := .record downloadTask }

/-- Adds downloads. -/
def add (d : DownloadRequest) : Except Fault Operation :=
  d.form.map (fun form => { method := "POST", path := "downloads/add", form, reading := .task })

/-- Deletes a download and keeps its files. -/
def delete (id : Int) : Operation := { method := "DELETE", path := taskPath id, reading := .nothing }

/-- Deletes a download and its files. -/
def erase (id : Int) : Operation := { method := "DELETE", path := taskPath id ++ "/erase", reading := .nothing }

/-- Changes a download. -/
def update (id : Int) (d : DownloadUpdate) : Operation :=
  { method := "PUT", path := taskPath id, payload := d.payload, reading := .nothing }

end DownloadTask

/-! ## Uploads -/

/-- An upload that the box keeps track of. -/
def uploadTask : Layout := .ofFields "UploadTask"
  [.required "id", .count "size", .count "uploaded", .optional "status", .optional "start_date",
   .optional "last_update", .optional "upload_name", .optional "dirname"]

/-- A new upload. -/
structure UploadStart where
  directory : String
  filename : String
  size : Int
  /-- What happens to a file already there; unset, the upload fails. -/
  force : Option String := none
  deriving DecidableEq, Repr

/-- The action that starts an upload. -/
def UploadStart.action (u : UploadStart) (requestId : Int) : Members := Members.withoutNulls
  [("action", .str "upload_start"), ("request_id", .int requestId), ("size", .int u.size),
   ("dirname", .str (Path.encode u.directory)), ("filename", .str u.filename), ("force", .ofString? u.force)]

namespace UploadTask

/-- The address of an upload. -/
def taskPath (id : Int) : String := "upload/" ++ Whole.text id

/-- All uploads. -/
def list : Operation := { method := "GET", path := "upload/", reading := .records uploadTask }

/-- One upload. -/
def get (id : Int) : Operation := { method := "GET", path := taskPath id, reading := .record uploadTask }

/-- Cancels an upload that is running. -/
def cancel (id : Int) : Operation := { method := "DELETE", path := taskPath id ++ "/cancel", reading := .nothing }

/-- Deletes an upload. -/
def delete (id : Int) : Operation := { method := "DELETE", path := taskPath id, reading := .nothing }

/-- Deletes all uploads that are done. -/
def clean : Operation := { method := "DELETE", path := "upload/clean", reading := .nothing }

end UploadTask

end Freebox.Resource
