import Freebox.Proofs.Attempt.Guarantee
import Freebox.Proofs.Json.RoundTrip
import Freebox.Resource.Dhcp
import Freebox.Resource.FileSystem
import Freebox.Resource.Login
import Freebox.Resource.PortForwarding
import Freebox.Resource.System
import Freebox.Resource.Transfer
import Freebox.Resource.VirtualMachine

/-!
# `Freebox.Proofs.Resource.Record` — records that can be written

A record is made of what the box sent and of defaults. If the result is a value that was read, so are all its fields,
and the record can be written as an object; its names are those of the layout. If a result cannot be read as a record,
that is told by a decoding error, or it is a fault.

## Contents
- `Failure.OfReading`, `Json.IsResult`: how reading a result fails, and what may be reported as a result.
- `Field.Keeps`, with a lemma for each way of reading a member.
- `Layout.Keeps`, `Layout.decode_keeps`, and the layouts of the operations.
- `Reading.Regular`, `Reading.read_result`: results of operations.
-/

namespace Freebox

open Json (SoundItems SoundMembers Labelled soundItems_iff soundMembers_iff)

/-! ## Results and failures -/

/-- A failure of reading a result: a decoding error, or a fault. -/
def Failure.OfReading : Failure → Prop
  | .box (.decoding _) _ | .fault _ => True
  | .box _ _ => False

/-- A value may be reported as a result: it can be written, and it is no object with the member `error`, nor with names
that are not strings. -/
structure Json.IsResult (v : Json) : Prop where
  sound : v.Sound
  labelled : ∀ ms, v = .obj ms → Labelled ms
  quiet : ¬ v.Has "error"

theorem Json.sound_zero : (Json.int 0).Sound := by
  show (Nat.toDigits 10 0).length ≤ 4300
  decide

/-! ## Fields -/

namespace Field

/-- Reading a member gives a value that can be written, or fails as reading does. -/
def Keeps (f : Field) : Prop :=
  ∀ v : Option Json, (∀ w, v = some w → w.Sound) → EndsIn Json.Sound Failure.OfReading (f.read v)

variable {name key : String} {v : Option Json}

/-- A member that is absent reads as null. -/
theorem sound_getD {default : Json} (h : ∀ w, v = some w → w.Sound) (given : default.Sound) :
    (v.getD default).Sound := by
  cases v with
  | none => exact given
  | some w => exact h w rfl

@[simp] theorem keeps_required : (required name).Keeps := by
  rintro (_ | v) sound
  · exact trivial
  · exact sound v rfl

@[simp] theorem keeps_withDefault {default : Json} (h : default.Sound) : (withDefault name default).Keeps :=
  fun _ sound => sound_getD sound h

@[simp] theorem keeps_optional : (optional name).Keeps := keeps_withDefault trivial

@[simp] theorem keeps_flag : (flag name).Keeps := keeps_withDefault trivial

@[simp] theorem keeps_count : (count name).Keeps := keeps_withDefault Json.sound_zero

@[simp] theorem keeps_optionalFrom : (optionalFrom name key).Keeps := fun _ sound => sound_getD sound trivial

@[simp] theorem keeps_truth : (truth name).Keeps := fun _ _ => trivial

@[simp] theorem keeps_text {otherwise : Json.Kind → DecodingError} : (text name otherwise).Keeps := by
  rintro (_ | v) sound
  · exact trivial
  · cases v <;> exact trivial

theorem pathOf_keeps (v : Json) : EndsIn Json.Sound Failure.OfReading (pathOf v) := by
  unfold pathOf
  cases Path.decodeValue v with
  | ok path => cases path <;> exact trivial
  | error e => exact trivial

@[simp] theorem keeps_path : (path name).Keeps := fun _ _ => pathOf_keeps _

/-- The items of a member can be written. -/
theorem itemsOf_keeps (sound : ∀ w, v = some w → w.Sound) : EndsIn SoundItems Failure.OfReading (itemsOf v) := by
  have whole : ((v.getD .null).orElse (.arr [])).Sound := by
    unfold Json.orElse
    split
    · exact sound_getD sound trivial
    · trivial
  unfold itemsOf
  cases h : (v.getD .null).orElse (.arr []) with
  | arr vs =>
    rw [h] at whole
    exact whole
  | str t =>
    refine soundItems_iff.mpr fun w here => ?_
    obtain ⟨l, -, rfl⟩ := List.mem_map.mp here
    trivial
  | obj ms =>
    refine soundItems_iff.mpr fun w here => ?_
    obtain ⟨m, -, rfl⟩ := List.mem_map.mp here
    trivial
  | _ => exact trivial

/-- Items that are read one by one. -/
theorem each_keeps {read : Json → Except Failure Json}
    (h : ∀ w : Json, w.Sound → EndsIn Json.Sound Failure.OfReading (read w)) {vs : List Json} (sound : SoundItems vs) :
    EndsIn SoundItems Failure.OfReading (each read vs) := by
  induction vs with
  | nil => exact trivial
  | cons w vs ih =>
    have first := h w sound.1
    have rest := ih sound.2
    rw [each]
    cases head : read w with
    | error e => exact first.failure head
    | ok x =>
      cases tail : each read vs with
      | error e => exact rest.failure tail
      | ok xs => exact ⟨first.value head, rest.value tail⟩

@[simp] theorem keeps_paths : (paths name).Keeps := by
  intro v sound
  have items := itemsOf_keeps sound
  unfold paths
  dsimp only
  cases read : itemsOf v with
  | error e => exact items.failure read
  | ok vs =>
    have decoded := each_keeps (fun w _ => pathOf_keeps w) (items.value read)
    dsimp only
    cases paths : each pathOf vs with
    | error e => exact decoded.failure paths
    | ok ps =>
      have all := soundItems_iff.mp (decoded.value paths)
      exact soundItems_iff.mpr fun w here => all w (List.mem_of_mem_filter here)

end Field

/-! ## Layouts -/

/-- The record of a layout that was made of values that can be written. -/
structure Record.Follows (r : Record) (l : Layout) : Prop where
  names : r.fields.map Prod.fst = l.fields.map fun f => (f.name : Text)
  sound : SoundMembers r.fields

/-- A layout keeps what can be written: its fields have different names, and each of them does. -/
structure Layout.Keeps (l : Layout) : Prop where
  names : (l.fields.map Field.name).Nodup
  fields : ∀ f ∈ l.fields, f.Keeps

namespace Layout

variable {l : Layout} {ms : Members}

theorem decodeFields_keeps (sound : SoundMembers ms) {fs : List Field} (keeps : ∀ f ∈ fs, f.Keeps) :
    EndsIn (fun fields => fields.map Prod.fst = fs.map (fun f => (f.name : Text)) ∧ SoundMembers fields)
      Failure.OfReading (decodeFields ms fs) := by
  induction fs with
  | nil => exact ⟨rfl, trivial⟩
  | cons f fs ih =>
    rw [List.forall_mem_cons] at keeps
    have member : ∀ w, ms.get? f.key = some w → w.Sound := fun w => Members.get?_all (soundMembers_iff.mp sound)
    have first := keeps.1 _ member
    have others := ih keeps.2
    rw [decodeFields]
    cases read : f.read (ms.get? f.key) with
    | error e => exact first.failure read
    | ok v =>
      cases decoded : decodeFields ms fs with
      | error e => exact others.failure decoded
      | ok rest =>
        obtain ⟨names, sounds⟩ := others.value decoded
        exact ⟨congrArg _ names, first.value read, sounds⟩

theorem ofMembers_keeps (keeps : l.Keeps) (sound : SoundMembers ms) :
    EndsIn (fun r => r.Follows l) Failure.OfReading (l.ofMembers ms) := by
  have fields := decodeFields_keeps sound keeps.fields
  unfold ofMembers
  cases decoded : decodeFields ms l.fields with
  | error e => exact fields.failure decoded
  | ok read => exact ⟨(fields.value decoded).1, (fields.value decoded).2⟩

/-- The names of a record are different. -/
theorem Keeps.nodup (keeps : l.Keeps) : (l.fields.map fun f => (f.name : Text)).Nodup := by
  have distinct := keeps.names.map (f := Text.ofString) fun _ _ => Text.ofString_inj.mp
  rwa [List.map_map] at distinct

end Layout

/-- A record with all its fields can be written as an object. -/
theorem Record.Follows.full {r : Record} {l : Layout} (follows : r.Follows l) (keeps : l.Keeps) : r.full.Sound :=
  ⟨by rw [follows.names]; exact keeps.nodup, follows.sound⟩

/-- So can a record without its nulls. -/
theorem Record.Follows.toJson {r : Record} {l : Layout} (follows : r.Follows l) (keeps : l.Keeps) : r.toJson.Sound := by
  have nodup := (follows.full keeps).1
  refine ⟨nodup.sublist (List.filter_sublist.map _), soundMembers_iff.mpr fun m here => ?_⟩
  exact soundMembers_iff.mp follows.sound m (List.mem_of_mem_filter here)

namespace Field

variable {name : String} {l : Layout}

theorem nestedOf_keeps (keeps : l.Keeps) {v : Json} (sound : v.Sound) :
    EndsIn Json.Sound Failure.OfReading (nestedOf l v) := by
  unfold nestedOf
  cases v with
  | obj ms =>
    have members := Layout.ofMembers_keeps keeps sound.2
    dsimp only [Layout.ofValue]
    cases read : l.ofMembers ms with
    | error e => exact members.failure read
    | ok r => exact (members.value read).full keeps
  | _ => exact trivial

@[simp] theorem keeps_nested (keeps : l.Keeps) : (nested name l).Keeps := by
  intro v sound
  unfold nested
  dsimp only
  split
  · exact nestedOf_keeps keeps (sound_getD sound trivial)
  · exact trivial

@[simp] theorem keeps_nestedList (keeps : l.Keeps) : (nestedList name l).Keeps := by
  intro v sound
  have items := itemsOf_keeps sound
  unfold nestedList
  dsimp only
  cases read : itemsOf v with
  | error e => exact items.failure read
  | ok vs =>
    have records := each_keeps (fun w => nestedOf_keeps keeps) (items.value read)
    dsimp only
    cases nested : each (nestedOf l) vs with
    | error e => exact records.failure nested
    | ok rs => exact records.value nested

end Field

/-! ## Layouts of the box -/

namespace Resource

theorem keeps_usbPorts {name : String} : (usbPortsField name).Keeps := by
  intro v _
  have ports : ∀ vs : List Json, Yields SoundItems (vs.mapM usbPort) := by
    intro vs
    induction vs with
    | nil => exact EndsIn.ok trivial
    | cons w vs ih =>
      rw [List.mapM_cons]
      have port : Yields Json.Sound (usbPort w) := by cases w <;> exact trivial
      exact port.bind fun x first => ih.bind fun xs rest => EndsIn.ok ⟨first, rest⟩
  unfold usbPortsField
  dsimp only
  cases read : usbPorts (v.getD (.str "")) with
  | error e => exact trivial
  | ok xs =>
    unfold usbPorts at read
    split at read
    · split at read
      · cases read
        exact trivial
      · cases read
    next vs _ => exact (ports vs).value read
    · cases read

theorem l2Ident_keeps : l2Ident.Keeps := ⟨by decide, by simp [l2Ident, Layout.ofFields]⟩

theorem l3Connectivity_keeps : l3Connectivity.Keeps := ⟨by decide, by simp [l3Connectivity, Layout.ofFields]⟩

theorem hostName_keeps : hostName.Keeps := ⟨by decide, by simp [hostName, Layout.ofFields]⟩

theorem host_keeps : host.Keeps :=
  ⟨by decide, by simp [host, l2Ident_keeps, l3Connectivity_keeps, hostName_keeps]⟩

theorem downloadTask_keeps : downloadTask.Keeps := ⟨by decide, by simp [downloadTask, Layout.ofFields]⟩

theorem fileSystemTask_keeps : fileSystemTask.Keeps := ⟨by decide, by simp [fileSystemTask, Layout.ofFields]⟩

theorem virtualMachine_keeps : virtualMachine.Keeps :=
  ⟨by decide, by simp [virtualMachine, Layout.ofFields, keeps_usbPorts]⟩

theorem challenge_keeps : challenge.Keeps := ⟨by decide, by simp [challenge, Layout.ofFields]⟩

theorem permissions_keeps : permissions.Keeps := ⟨by decide, by simp [permissions, Layout.ofFields]⟩

theorem permissionsOf_keeps {v : Json} (sound : v.Sound) : EndsIn Json.Sound Failure.OfReading (permissionsOf v) := by
  cases v with
  | null => exact Field.nestedOf_keeps permissions_keeps (v := .obj []) ⟨List.nodup_nil, trivial⟩
  | obj ms => exact Field.nestedOf_keeps permissions_keeps sound
  | _ => exact trivial

theorem sessionResult_keeps : sessionResult.Keeps where
  names := by decide
  fields := by
    simp only [sessionResult, Layout.ofFields, List.forall_mem_cons, Field.keeps_text, true_and]
    exact ⟨fun v sound => permissionsOf_keeps (Field.sound_getD sound trivial), by simp⟩

end Resource

/-! ## Results -/

namespace Layout

variable {l : Layout}

theorem wrap_ofReading {e : Failure} (h : e.OfReading) : (l.wrap e).OfReading := by
  cases e with
  | box e cause => exact h
  | fault f =>
    unfold wrap
    dsimp only
    split <;> trivial

/-- **A result** that can be read as a record is read as one of its layout. -/
theorem decode_keeps (keeps : l.Keeps) {v : Json} (sound : v.Sound) :
    EndsIn (fun r => r.Follows l) Failure.OfReading (l.decode v) := by
  cases v with
  | obj ms => exact (ofMembers_keeps keeps sound.2).mapError fun _ => wrap_ofReading
  | _ => exact trivial

theorem decodeItems_keeps (keeps : l.Keeps) {vs : List Json} (sound : SoundItems vs) :
    EndsIn (fun rs => ∀ r ∈ rs, r.Follows l) Failure.OfReading (l.decodeItems vs) := by
  induction vs with
  | nil => exact EndsIn.ok (by simp)
  | cons v vs ih =>
    have first := decode_keeps keeps sound.1
    have rest := ih sound.2
    rw [decodeItems]
    cases head : l.decode v with
    | error e => exact first.failure head
    | ok r =>
      cases tail : l.decodeItems vs with
      | error e => exact rest.failure tail
      | ok rs => exact List.forall_mem_cons.mpr ⟨first.value head, rest.value tail⟩

theorem decodeList_keeps (keeps : l.Keeps) {v : Json} (sound : v.Sound) :
    EndsIn (fun rs => ∀ r ∈ rs, r.Follows l) Failure.OfReading (l.decodeList v) := by
  cases v with
  | null => exact EndsIn.ok (by simp)
  | arr vs => exact decodeItems_keeps keeps sound
  | _ => exact trivial

end Layout

namespace Json.IsResult

variable {v : Json}

/-- A value that is no object is a result if it can be written. -/
theorem of_other (sound : v.Sound) (other : v.kind ≠ .obj) : v.IsResult where
  sound := sound
  labelled ms same := (other (same ▸ rfl)).elim
  quiet := by
    rintro ⟨ms, same, -⟩
    exact other (same ▸ rfl)

/-- An object is a result if its names are among different strings other than `error`. -/
theorem of_members {ms : Members} (names : List String) (among : (ms.map Prod.fst).Sublist (names.map Text.ofString))
    (nodup : names.Nodup) (quiet : "error" ∉ names) (sound : SoundMembers ms) : (Json.obj ms).IsResult where
  sound := ⟨(nodup.map fun _ _ => Text.ofString_inj.mp).sublist among, sound⟩
  labelled := by
    rintro _ ⟨⟩ k here
    obtain ⟨name, -, rfl⟩ := List.mem_map.mp (among.subset here)
    exact ⟨name, rfl⟩
  quiet := by
    rw [Json.has_obj]
    intro here
    obtain ⟨name, there, told⟩ := List.mem_map.mp (among.subset here)
    exact quiet (Text.ofString_inj.mp told ▸ there)

end Json.IsResult

/-- A layout keeps what can be written, and has no field that is called like an error. -/
structure Layout.Reports (l : Layout) : Prop extends l.Keeps where
  quiet : "error" ∉ l.fields.map Field.name

/-- The record of such a layout is a result without its nulls. -/
theorem Record.Follows.result {r : Record} {l : Layout} (follows : r.Follows l) (reports : l.Reports) :
    r.toJson.IsResult := by
  refine .of_members (l.fields.map Field.name) ?_ reports.names reports.quiet ?_
  · rw [List.map_map]
    exact (List.filter_sublist.map Prod.fst).trans (follows.names ▸ List.Sublist.refl _)
  · exact soundMembers_iff.mpr fun m here => soundMembers_iff.mp follows.sound m (List.mem_of_mem_filter here)

/-- A value that has to be of a kind is a result, unless objects are of that kind. -/
theorem Json.expect_result {v : Json} {kind : Kind} (sound : v.Sound) (other : kind ≠ .obj) :
    Yields IsResult (v.expect kind) := by
  unfold Json.expect
  split
  next same => exact EndsIn.ok (.of_other sound (same ▸ other))
  · exact trivial

namespace Resource

theorem apiVersion_reports : apiVersion.Reports where
  names := by decide
  fields := by simp [apiVersion, Layout.ofFields]
  quiet := by decide

theorem portForwardingRule_reports : portForwardingRule.Reports where
  names := by decide
  fields := by simp [portForwardingRule, Layout.ofFields, host_keeps]
  quiet := by decide

theorem staticLease_reports : staticLease.Reports where
  names := by decide
  fields := by simp [staticLease, Layout.ofFields, host_keeps]
  quiet := by decide

theorem fileInfo_reports : fileInfo.Reports where
  names := by decide
  fields := by simp [fileInfo, Layout.ofFields]
  quiet := by decide

end Resource

namespace Reading

theorem pathText_result (v : Json) : Yields Json.IsResult (pathText v) := by
  unfold pathText
  cases v.expect .str with
  | error e => exact trivial
  | ok s =>
    dsimp only
    cases Path.decodeValue s with
    | error e => exact trivial
    | ok decoded => exact EndsIn.ok (.of_other trivial (by simp [Json.kind]))

theorem taskId_result {v : Json} (sound : v.Sound) : Yields Json.IsResult (taskId v) := by
  cases v with
  | obj ms => exact Json.expect_result (Members.get_all (soundMembers_iff.mp sound.2) trivial _) (by decide)
  | _ => exact trivial

/-- The records that are read keep what can be written. One that is read by itself has no field called like an error;
a list of them may have one. -/
def Regular : Reading → Prop
  | .record l | .recordOrEmpty l => l.Reports
  | .records l => l.Keeps
  | _ => True

/-- **What an operation reads** in a result is reported by a value that can be written and is no object with an error.
-/
theorem read_result {reading : Reading} (regular : reading.Regular) {result : Json} (sound : result.Sound) :
    EndsIn (fun answer => answer.toJson.IsResult) Failure.OfReading (reading.read result) := by
  cases reading with
  | nothing => exact EndsIn.ok (.of_other trivial (by simp [Answer.toJson, Json.kind]))
  | record l => exact (Layout.decode_keeps regular.toKeeps sound).map fun r follows => follows.result regular
  | recordOrEmpty l =>
    have record : EndsIn (fun r => r.Follows l) Failure.OfReading
        (if result = .null then l.ofMembers [] else l.decode result) := by
      split
      · exact Layout.ofMembers_keeps regular.toKeeps trivial
      · exact Layout.decode_keeps regular.toKeeps sound
    exact record.map fun r follows => follows.result regular
  | records l =>
    -- an array is no object, so its records may have fields that are called like an error
    refine (Layout.decodeList_keeps regular sound).map fun rs follow => ?_
    refine .of_other (soundItems_iff.mpr fun v here => ?_) (by simp [Answer.toJson, Json.kind])
    obtain ⟨r, there, rfl⟩ := List.mem_map.mp here
    exact (follow r there).toJson regular
  | text => exact ((Json.expect_result sound (by decide)).mapError fun _ _ => trivial).map fun _ => id
  | path => exact ((pathText_result result).mapError fun _ _ => trivial).map fun _ => id
  | task => exact ((taskId_result sound).mapError fun _ _ => trivial).map fun _ => id

end Reading

end Freebox
