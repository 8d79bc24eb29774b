import Freebox.Proofs.Command.SessionUse
import Freebox.Proofs.Resource.Path
import Freebox.Proofs.Session.Purpose

/-!
# `Freebox.Proofs.Command.Path` — paths between a client and its box

Paths are sent in payloads and in addresses, and come back in results. Whatever else an operation asks for to open its
session, its own requests tell the box the very paths that the caller gave, and the caller is told the very paths that
the box tells.

## Contents
- `Request.Conveys`: the paths in the payload of a request.
- `transfer_conveys`, `remove_sends`, `move_sends`, `copy_sends`: files that are removed, moved or copied.
- `info_sends`, `content_sends`, `info_url_inj`, `content_url_inj`: files that are described or read.
- `Operation.run_reads`, `makeDirectory_tells`: a directory that was made.
- `paths_survive`: all of it.
-/

namespace Freebox

open Resource

/-! ## Payloads -/

/-- A member of the payload of a request. -/
def Request.member? (r : Request) (name : Text) : Option Json :=
  match r.payload with
  | .obj ms => Members.get? ms name
  | _ => none

/-- A request tells which files it is about, and where they are to go if they are to go anywhere. -/
structure Request.Conveys (r : Request) (sources : List String) (destination : Option String) : Prop where
  files : ∃ vs, r.member? "files" = some (.arr vs) ∧ Path.decodeValues vs = .ok (sources.map some)
  destination : (r.member? "dst").map Path.decodeValue = destination.map fun p => .ok (some p)

/-- What is sent to have files moved or copied tells where from and where to. -/
theorem transfer_conveys {r : Request} {sources : List String} {destination mode : String}
    (payload : r.payload = FileSystem.transfer sources destination mode) : r.Conveys sources (some destination) where
  files := by
    refine ⟨sources.map fun p => .str (Path.encode p), ?_, Path.decodeValues_encode sources⟩
    unfold Request.member?
    rw [payload]
    rfl
  destination := by
    have member : r.member? "dst" = some (.str (Path.encode destination)) := by
      unfold Request.member?
      rw [payload]
      rfl
    rw [member, Option.map_some, Path.decodeValue_encode, Option.map_some]

section
variable (s : State) (sources : List String) (destination mode : String)

/-- An operation on a resource sends its own requests. -/
theorem Operation.run_sends {own : Request → Prop} (o : Operation) (s : State)
    (sort : ∀ token, own (s.client.request o.method o.path (some token) { payload := o.payload, form := o.form })) :
    s.Sends own (o.run s).2 := by
  rw [operation_state]
  exact o.authenticated.run_sends s fun token => ⟨_, rfl, sort token⟩

theorem remove_sends : s.Sends (fun r => r.Conveys sources none) ((FileSystem.remove sources).run s).2 := by
  apply Operation.run_sends
  intro token
  constructor
  case files => exact ⟨sources.map fun p => .str (Path.encode p), rfl, Path.decodeValues_encode sources⟩
  case destination => rfl

theorem move_sends :
    s.Sends (fun r => r.Conveys sources (some destination)) ((FileSystem.move sources destination mode).run s).2 := by
  apply Operation.run_sends
  intro token
  exact transfer_conveys rfl

theorem copy_sends :
    s.Sends (fun r => r.Conveys sources (some destination)) ((FileSystem.copy sources destination mode).run s).2 := by
  apply Operation.run_sends
  intro token
  exact transfer_conveys rfl

end

/-! ## Addresses -/

section
variable (s : State) (c : Client) {p q : String}

/-- A request is made at an address that ends in a path behind a front. -/
def Request.Names (r : Request) (c : Client) (front : Text) (p : String) : Prop :=
  ∃ written, r.url = c.url (front ++ written) ∧ Path.decode written = .ok p

theorem info_sends (p : String) :
    s.Sends (fun r => r.Names s.client "fs/info/" p) ((FileSystem.info p).run s).2 := by
  apply Operation.run_sends
  intro token
  exact ⟨Path.encode p, rfl, Path.decode_encode p⟩

theorem content_sends (p : String) : s.Sends (fun r => r.Names s.client "dl/" p) (getFile p s).2 := by
  refine (Authenticated.content p).run_sends s fun token => ?_
  exact ⟨s.client.fileRequest p token, rfl, Path.encode p, rfl, Path.decode_encode p⟩

/-- Behind one front, different texts are different paths. -/
theorem Text.append_right_inj {front a b : Text} : front ++ a = front ++ b ↔ a = b := by
  constructor
  · intro same
    have letters : front.letters ++ a.letters = front.letters ++ b.letters := congrArg Text.letters same
    have rest := List.append_cancel_left letters
    cases a
    cases b
    simpa using rest
  · rintro rfl
    rfl

theorem url_encode_inj (front : Text) :
    c.url (front ++ (Path.encode p : Text)) = c.url (front ++ (Path.encode q : Text)) ↔ p = q := by
  rw [c.url_inj, Text.append_right_inj, Text.ofString_inj, Path.encode_inj]

theorem info_url_inj : c.url (FileSystem.info p).path = c.url (FileSystem.info q).path ↔ p = q :=
  url_encode_inj c "fs/info/"

theorem content_url_inj (token fresh : Text) : (c.fileRequest p token).url = (c.fileRequest q fresh).url ↔ p = q :=
  url_encode_inj c "dl/"

end

/-! ## Results -/

/-- What is read from the answer to an operation is what the operation brings. -/
theorem Operation.run_reads {o : Operation} {s t : State} {e : Envelope}
    (answered : o.authenticated.run s = (.ok e, t)) : o.run s = (o.reading.read e.result, t) := by
  have called : call o.method o.path true { payload := o.payload, form := o.form } s = (.ok e, t) := answered
  unfold Operation.run
  rw [Attempt.bind_of_ok called]
  rfl

/-- A text that stands for a path is read as that path. -/
theorem Reading.path_of_value {t : Text} {p : String} (h : Path.decodeValue (.str t) = .ok (some p)) :
    Reading.path.read (.str t) = .ok (.value (.str p)) := by
  have text : Reading.pathText (.str t) = .ok (.str p) := by
    have kind : Json.expect .str (.str t) = .ok (.str t) := rfl
    unfold Reading.pathText
    rw [kind]
    dsimp only
    rw [h]
    rfl
  unfold Reading.read
  dsimp only
  rw [text]
  rfl

/-- Whoever makes a directory is told the path that the box tells. -/
theorem makeDirectory_tells {parent name p : String} {s t : State} {e : Envelope}
    (answered : (FileSystem.makeDirectory parent name).authenticated.run s = (.ok e, t))
    (told : e.result = .str (Path.encode p)) :
    (FileSystem.makeDirectory parent name).run s = (.ok (.value (.str p)), t) := by
  have path : (FileSystem.makeDirectory parent name).reading = .path := rfl
  rw [Operation.run_reads answered, path, told, Reading.path_of_value (Path.decodeValue_encode p)]

/-! ## All of it -/

/-- **Paths survive the wire.** A path that was written is read as itself, and a value that is taken for a path is the
text of it. So files to be removed, moved or copied, and where they are to go, reach the box as they were given, in
their order; files that are described or read are asked for at addresses that tell their paths, a different one for
each; a directory that was made has the path that the box wrote; and the fields of records that are read as paths hold
the paths that the box wrote. -/
theorem paths_survive :
    (∀ p : String, Path.decode (Path.encode p) = .ok p) ∧
      (∀ (v : Json) (p : String), Path.ofValue v = .ok p → v = .str p) ∧
      (∀ (s : State) (sources : List String) (destination mode : String),
        s.Sends (fun r => r.Conveys sources none) ((FileSystem.remove sources).run s).2 ∧
        s.Sends (fun r => r.Conveys sources (some destination)) ((FileSystem.move sources destination mode).run s).2 ∧
        s.Sends (fun r => r.Conveys sources (some destination)) ((FileSystem.copy sources destination mode).run s).2) ∧
      (∀ (s : State) (p : String),
        s.Sends (fun r => r.Names s.client "fs/info/" p) ((FileSystem.info p).run s).2 ∧
        s.Sends (fun r => r.Names s.client "dl/" p) (getFile p s).2) ∧
      (∀ (c : Client) (p q : String),
        (c.url (FileSystem.info p).path = c.url (FileSystem.info q).path ↔ p = q) ∧
        ∀ token fresh, (c.fileRequest p token).url = (c.fileRequest q fresh).url ↔ p = q) ∧
      (∀ (parent name p : String) (s t : State) (e : Envelope),
        (FileSystem.makeDirectory parent name).authenticated.run s = (.ok e, t) → e.result = .str (Path.encode p) →
        (FileSystem.makeDirectory parent name).run s = (.ok (.value (.str p)), t)) ∧
      (∀ p : String, let sent := Json.str (Path.encode p)
        virtualMachine.Holds "disk_path" sent (.str p) ∧ virtualMachine.Holds "cd_path" sent (.str p) ∧
        fileInfo.Holds "path" sent (.str p) ∧ fileInfo.Holds "target" sent (.str p) ∧
        fileSystemTask.Holds "dst" sent (.str p) ∧ downloadTask.Holds "download_dir" sent (.str p)) ∧
      (∀ ps : List String,
        fileSystemTask.Holds "src" (.arr (ps.map fun p => .str (Path.encode p))) (.ofStrings ps)) ∧
      ∀ (vs : List Json) (ps : List (Option String)), Path.decodeValues vs = .ok ps →
        fileSystemTask.Holds "src" (.arr vs) (.ofStrings (ps.filterMap id)) := by
  refine ⟨Path.decode_encode, fun v p taken => Path.ofValue_ok taken, ?transfers, ?addresses, ?different, ?directory,
    ?fields, ?sources, fun vs ps read => fileSystemTask_sources read⟩
  case transfers =>
    intro s sources destination mode
    exact ⟨remove_sends s sources, move_sends s sources destination mode, copy_sends s sources destination mode⟩
  case addresses => exact fun s p => ⟨info_sends s p, content_sends s p⟩
  case different => exact fun c p q => ⟨info_url_inj c, content_url_inj c⟩
  case directory => exact fun parent name p s e t answered told => makeDirectory_tells answered told
  case fields =>
    intro p
    refine ⟨Layout.holdsPath virtualMachine_apart ?_ p, Layout.holdsPath virtualMachine_apart ?_ p,
      Layout.holdsPath fileInfo_apart ?_ p, Layout.holdsPath fileInfo_apart ?_ p,
      Layout.holdsPath fileSystemTask_apart ?_ p, Layout.holdsPath downloadTask_apart ?_ p⟩ <;>
      simp [virtualMachine, fileInfo, fileSystemTask, downloadTask, Layout.ofFields]
  case sources =>
    intro ps
    have held := fileSystemTask_sources (Path.decodeValues_encode ps)
    rwa [List.filterMap_map, Function.id_comp, List.filterMap_some] at held

end Freebox
