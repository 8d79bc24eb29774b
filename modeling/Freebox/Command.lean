import Freebox.Authorization
import Freebox.EventStream
import Freebox.FileContent
import Freebox.Tool.Run
import Freebox.Upload

/-!
# `Freebox.Command` — everything that can be done with a client

A desk is a client on its network together with the files, uploads and streams it has opened, each known by its place
in the order of opening. A run is a list of commands carried out at a desk one after the other. What callers give as
paths is strings, see `Path.encode`.

Commands are carried out one at a time, as locks order the callers of one client. Left out are the transport that tools
are served over, logs, what requests and messages look like on the wire, and limits of memory or nesting.

## Contents
- `Desk`, `Command`, `Product`: the state, the steps, and what a step brings.
- `Command.perform`: one step. `Desk.run`: all of them.
-/

namespace Freebox

/-- A client on its network, and what it has opened. -/
structure Desk where
  state : State
  files : List FileContent := []
  uploads : List Upload := []
  streams : List EventStream := []

/-- What can be done. -/
inductive Command where
  | login
  | logout
  | close
  | setAppId (value : Option String)
  | setPrivateToken (value : Option String)
  /-- Time passes. -/
  | pass (microseconds : Int)
  | describe
  | diagnostics
  | authorize (registration : Resource.Registration) (interval : Quantity) (attempts : Int)
  | call (method : String) (path : Text) (authenticated : Bool) (parcel : Parcel)
  | renew (stale : Text)
  | operate (draft : Except Fault Operation)
  | tool (name : String) (arguments : Option Members)
  | openContent (path : String)
  | takeContent (file : Nat) (size : Option Nat)
  | releaseContent (file : Nat)
  | startUpload (start : Resource.UploadStart)
  | write (upload : Nat) (data : Bytes)
  | closeUpload (upload : Nat)
  | cancelUpload (upload : Nat)
  | uploadBlock (upload : Nat) (pieces : List Bytes) (failure : Option Failure)
  | listen (events : List Resource.EventDescription)
  | next (stream : Nat)
  | drain (stream : Nat)
  | closeStream (stream : Nat)

/-- What a command brings. -/
inductive Product where
  | nothing
  | value (v : Json)
  | answer (a : Answer)
  | permissions (r : Record)
  | envelope (e : Envelope)
  | pieces (ps : List Bytes)
  | file (f : FileContent)
  | upload (u : Upload)
  | event (r : Option Record)
  | events (rs : List Record)
  deriving DecidableEq, Repr

namespace Desk

variable {α : Type}

/-- Runs an attempt of the client. -/
def client (a : Attempt State α) : Attempt Desk α := .within (·.state) (fun state d => { d with state }) a

/-- The desk with another log. -/
def withLog (d : Desk) (log : List Effect) : Desk :=
  { d with state := { d.state with network := { d.state.network with log } } }

/-- Runs an attempt on a file. -/
def file (i : Nat) (a : Attempt FileContent α) : Attempt Desk α := fun d =>
  match d.files[i]? with
  | none => (.error (.fault .notOpened), d)
  | some f =>
    let (result, after) := a f
    (result, { d with files := d.files.set i after })

/-- Runs an attempt on an upload. -/
def upload (i : Nat) (a : Attempt (Logged Upload) α) : Attempt Desk α := fun d =>
  match d.uploads[i]? with
  | none => (.error (.fault .notOpened), d)
  | some u =>
    let (result, after) := a ⟨u, d.state.network.log⟩
    (result, { d.withLog after.log with uploads := d.uploads.set i after.value })

/-- Runs an attempt on a stream. -/
def stream (i : Nat) (a : Attempt (Logged EventStream) α) : Attempt Desk α := fun d =>
  match d.streams[i]? with
  | none => (.error (.fault .notOpened), d)
  | some s =>
    let (result, after) := a ⟨s, d.state.network.log⟩
    (result, { d.withLog after.log with streams := d.streams.set i after.value })

end Desk

/-- Carries a command out. -/
def Command.perform : Command → Attempt Desk Product
  | login => do
    let r ← Desk.client Freebox.login
    return .permissions r
  | logout => do
    Desk.client Freebox.logout
    return .nothing
  | close => do
    Desk.client Freebox.close
    return .nothing
  | setAppId value => do
    Desk.client (.update (fun s => { s with client := { s.client with appId := value } }))
    return .nothing
  | setPrivateToken value => do
    Desk.client (.update (fun s => { s with client := { s.client with privateToken := value } }))
    return .nothing
  | pass microseconds => do
    Desk.client (.update (fun s => { s with network := { s.network with now := s.network.now.plus microseconds } }))
    return .nothing
  | describe => do
    let r ← Desk.client Freebox.describe
    return .answer (.record r)
  | diagnostics => do
    let s ← Desk.client .state
    return .value (.obj (s.client.diagnostics s.network.now))
  | authorize registration interval attempts => do
    let token ← Desk.client (Freebox.authorize registration interval attempts)
    return .value token
  | call method path authenticated parcel => do
    let e ← Desk.client (Freebox.call method path authenticated parcel)
    return .envelope e
  | renew stale => do
    let token ← Desk.client (Freebox.renew stale)
    return .value (.str token)
  | operate draft => do
    let a ← Desk.client (Operation.runDraft draft)
    return .answer a
  | tool name arguments => do
    let text ← Desk.client (callTool name arguments)
    return .value (.str text)
  | openContent path => do
    let f ← Desk.client (getFile path)
    .update (fun d => { d with files := d.files ++ [f] })
    return .file f
  | takeContent i size => do
    let ps ← Desk.file i (FileContent.take size)
    return .pieces ps
  | releaseContent i => do
    Desk.file i (.update FileContent.release)
    return .nothing
  | startUpload start => do
    let u ← Desk.client (Freebox.startUpload start)
    .update (fun d => { d with uploads := d.uploads ++ [u] })
    return .upload u
  | write i data => do
    let n ← Desk.upload i (Upload.write data)
    return .value (.int n)
  | closeUpload i => do
    Desk.upload i Upload.close
    return .nothing
  | cancelUpload i => do
    Desk.upload i Upload.cancel
    return .nothing
  | uploadBlock i pieces failure => do
    Desk.upload i (Upload.block pieces failure)
    return .nothing
  | listen events => do
    let s ← Desk.client (Freebox.listen events)
    .update (fun d => { d with streams := d.streams ++ [s] })
    return .nothing
  | next i => do
    let r ← Desk.stream i EventStream.next
    return .event r
  | drain i => do
    let rs ← Desk.stream i EventStream.drain
    return .events rs
  | closeStream i => do
    Desk.stream i EventStream.close
    return .nothing

namespace Desk

/-- Carries commands out one after the other; a failed one does not keep the next from being carried out. -/
def run : List Command → Desk → List (Except Failure Product) × Desk
  | [], d => ([], d)
  | c :: cs, d =>
    let (result, after) := c.perform d
    let (results, last) := run cs after
    (result :: results, last)

end Desk

end Freebox
