import Freebox.Resource.Operation

/-!
# `Freebox.Resource.FileSystem` — files, directories and the tasks on them

Paths are strings, see `Path.encode`: a text with a half of a surrogate pair is none.

## Contents
- `fileInfo`, `fileSystemTask`: the layouts.
- `HashRequest`, `Extraction`: what is asked for by more than paths.
- `FileSystem`: the operations.
-/

namespace Freebox.Resource

/-! ## Layouts -/

/-- A file or a directory. -/
def fileInfo : Layout := .ofFields "FileInfo"
  [.path "path", .optional "name", .optional "mimetype", .optional "type", .count "size",
   .optional "modification", .optional "index", .flag "link", .path "target", .flag "hidden",
   .count "foldercount", .count "filecount"]

/-- A task on files. -/
def fileSystemTask : Layout := .ofFields "FileSystemTask"
  [.required "id", .optional "type", .optional "state", .optional "error", .optional "created_ts",
   .optional "started_ts", .optional "done_ts", .count "duration", .count "progress", .count "eta",
   .optionalFrom "from_" "from", .optional "to", .count "nfiles", .count "nfiles_done", .count "nbytes",
   .count "nbytes_done", .count "curr_bytes", .count "curr_bytes_done", .count "rate", .paths "src",
   .path "dst"]

/-! ## Requests -/

/-- The kinds of digest that a box computes. -/
def hashTypes : List String := ["md5", "sha1", "sha256", "sha512"]

/-- A digest to compute. -/
structure HashRequest where
  src : String
  hashType : String := "sha256"
  deriving DecidableEq, Repr

/-- The members of a digest to compute; other kinds are refused. -/
def HashRequest.payload (h : HashRequest) : Except Fault Json :=
  if hashTypes.contains h.hashType then
    .ok (.obj [("src", .str (Path.encode h.src)), ("hash_type", .str h.hashType)])
  else .error (.unsupportedHash h.hashType)

/-- An archive to extract. -/
structure Extraction where
  src : String
  dst : String
  password : Option String := none
  deleteArchive : Bool := false
  overwrite : Bool := false
  deriving DecidableEq, Repr

/-- The members of an archive to extract. -/
def Extraction.payload (e : Extraction) : Json := drafted
  [("src", .str (Path.encode e.src)), ("dst", .str (Path.encode e.dst)), ("password", .ofString? e.password),
   ("delete_archive", .bool e.deleteArchive), ("overwrite", .bool e.overwrite)]

/-! ## Operations -/

namespace FileSystem

/-- The address of a task. -/
def taskPath (id : Int) : String := "fs/tasks/" ++ Whole.text id

/-- Describes a file or a directory. -/
def info (path : String) : Operation :=
  { method := "GET", path := "fs/info/" ++ Path.encode path, reading := .recordOrEmpty fileInfo }

/-- Starts removing files. -/
def remove (paths : List String) : Operation where
  method := "POST"
  path := "fs/rm/"
  payload := .obj [("files", pathArray paths)]
  reading := .record fileSystemTask

/-- All tasks. -/
def tasks : Operation := { method := "GET", path := "fs/tasks/", reading := .records fileSystemTask }

/-- One task. -/
def task (id : Int) : Operation := { method := "GET", path := taskPath id, reading := .record fileSystemTask }

/-- Pauses or resumes a task. -/
def updateTask (id : Int) (state : String) : Operation where
  method := "PUT"
  path := taskPath id
  payload := .obj [("state", .str state)]
  reading := .record fileSystemTask

/-- Deletes a task. -/
def deleteTask (id : Int) : Operation := { method := "DELETE", path := taskPath id, reading := .nothing }

/-- Makes a directory and tells its path. -/
def makeDirectory (parent name : String) : Operation where
  method := "POST"
  path := "fs/mkdir/"
  payload := .obj [("parent", .str (Path.encode parent)), ("dirname", .str name)]
  reading := .path

/-- Starts computing a digest. -/
def hash (h : HashRequest) : Except Fault Operation :=
  h.payload.map (fun payload =>
    { method := "POST", path := "fs/hash/", payload, reading := .record fileSystemTask })

/-- The digest that a task computed. -/
def hashResult (id : Int) : Operation :=
  { method := "GET", path := taskPath id ++ "/hash/", reading := .text }

/-- What files are moved or copied where, and what happens to those already there. -/
def transfer (sources : List String) (destination mode : String) : Json := .obj
  [("files", pathArray sources), ("dst", .str (Path.encode destination)), ("mode", .str mode)]

/-- The mode that replaces what is there. -/
def overwrite : String := "overwrite"

/-- Starts moving files. -/
def move (sources : List String) (destination mode : String) : Operation where
  method := "POST"
  path := "fs/mv/"
  payload := transfer sources destination mode
  reading := .record fileSystemTask

/-- Starts copying files. -/
def copy (sources : List String) (destination mode : String) : Operation where
  method := "POST"
  path := "fs/cp/"
  payload := transfer sources destination mode
  reading := .record fileSystemTask

/-- Starts extracting an archive. -/
def extract (e : Extraction) : Operation where
  method := "POST"
  path := "fs/extract/"
  payload := e.payload
  reading := .record fileSystemTask

end FileSystem

end Freebox.Resource
