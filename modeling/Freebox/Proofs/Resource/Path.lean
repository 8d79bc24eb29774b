import Freebox.Proofs.Resource.Revision
import Freebox.Proofs.Text.Base64
import Freebox.Proofs.Text.Utf8
import Freebox.Resource.FileSystem
import Freebox.Resource.Transfer
import Freebox.Resource.VirtualMachine

/-!
# `Freebox.Proofs.Resource.Path` — paths that are written and read

A path goes over the wire as the base64 of its octets. Reading that gives the same path again, by itself, in a list, and
as the value of a field of a record.

## Contents
- `Path.decode_encode`, `Path.encode_inj`: one path. `Path.ofValue_ok`: what is taken for one.
- `Path.decodeValues_encode`: a list of paths.
- `Field.path_read`, `Field.paths_read`: members that hold paths.
- `Apart` for the layouts that have paths.
- `Layout.holdsPath`, `Resource.fileSystemTask_sources`: the fields that hold paths.
-/

namespace Freebox

/-! ## Paths and lists of paths -/

namespace Path

/-- **What was written is read.** The base64 of the octets of a path stands for that path. -/
theorem decode_encode (p : String) : decode (encode p) = .ok p := by
  have letters : ((encode p : String) : Text).lossy = Base64.encode (Utf8.encode p.toList) := by
    rw [Text.lossy_ofString, encode, String.toList_ofList]
  unfold decode
  rw [letters, Base64.decode_encode]
  dsimp only
  rw [Utf8.decode_encode]
  dsimp only
  rw [String.ofList_toList]

theorem decodeValue_encode (p : String) : decodeValue (.str (encode p)) = .ok (some p) := by
  unfold decodeValue
  dsimp only
  rw [decode_encode]

/-- Different paths are written differently. -/
theorem encode_inj {p q : String} : encode p = encode q ↔ p = q := by
  constructor
  · intro same
    have read : decode (encode p) = decode (encode q) := by rw [same]
    rw [decode_encode, decode_encode] at read
    exact Except.ok.inj read
  · rintro rfl
    rfl

/-- Letters that have octets are characters. -/
theorem characters_of_encodeFrom {ls : List Letter} {i : Nat} {octets : Bytes}
    (h : Utf8.encodeFrom i ls = .ok octets) : ∃ cs : List Char, ls = cs.map .char := by
  induction ls generalizing i octets with
  | nil => exact ⟨[], rfl⟩
  | cons l ls ih =>
    cases l with
    | half n => cases h
    | char c =>
      unfold Utf8.encodeFrom at h
      cases others : Utf8.encodeFrom (i + 1) ls with
      | error e =>
        rw [others] at h
        cases h
      | ok rest =>
        obtain ⟨cs, rfl⟩ := ih others
        exact ⟨c :: cs, rfl⟩

/-- What is taken for a path is the text of that path: one that holds halves of surrogate pairs is refused. -/
theorem ofValue_ok {v : Json} {p : String} (h : ofValue v = .ok p) : v = .str p := by
  cases v with
  | str t =>
    unfold ofValue at h
    dsimp only at h
    cases octets : Utf8.encodeText t with
    | error e =>
      rw [octets] at h
      cases h
    | ok bs =>
      rw [octets] at h
      obtain rfl : String.ofList t.lossy = p := Except.ok.inj h
      obtain ⟨cs, letters⟩ := characters_of_encodeFrom octets
      have same : t = Text.ofList cs := congrArg Text.mk letters
      rw [same, Text.lossy_ofList, Text.ofString, String.toList_ofList]
  | _ => cases h

/-- The paths of a list of values; the first failure counts. -/
def decodeValues (vs : List Json) : Except DecodingError (List (Option String)) := vs.mapM decodeValue

theorem decodeValues_cons {v : Json} {vs : List Json} {ps : List (Option String)} :
    decodeValues (v :: vs) = .ok ps ↔
      ∃ p rest, decodeValue v = .ok p ∧ decodeValues vs = .ok rest ∧ ps = p :: rest := by
  unfold decodeValues
  rw [List.mapM_cons]
  constructor
  · intro h
    cases first : decodeValue v with
    | error e =>
      rw [first] at h
      cases h
    | ok p =>
      cases others : vs.mapM decodeValue with
      | error e =>
        rw [first, others] at h
        cases h
      | ok rest =>
        rw [first, others] at h
        cases h
        exact ⟨p, rest, rfl, rfl, rfl⟩
  · rintro ⟨p, rest, first, others, rfl⟩
    rw [first, others]
    rfl

/-- A list of paths is read as it was written, in its order. -/
theorem decodeValues_encode (ps : List String) :
    decodeValues (ps.map fun p => .str (encode p)) = .ok (ps.map some) := by
  induction ps with
  | nil => rfl
  | cons p ps ih => exact decodeValues_cons.mpr ⟨some p, ps.map some, decodeValue_encode p, ih, rfl⟩

end Path

/-! ## Members that hold paths -/

namespace Field

/-- A path of a value, or null. -/
theorem pathOf_of_ok {v : Json} {p : Option String} (h : Path.decodeValue v = .ok p) :
    pathOf v = .ok (Json.ofString? p) := by
  unfold pathOf
  rw [h]

theorem path_read (name p : String) : (path name).read (some (.str (Path.encode p))) = .ok (.str p) := by
  have read := pathOf_of_ok (Path.decodeValue_encode p)
  unfold path
  dsimp only [Option.getD_some]
  rw [read]
  rfl

/-- Values that stand for paths are read as these paths, one after the other. -/
theorem each_pathOf {vs : List Json} {ps : List (Option String)} (h : Path.decodeValues vs = .ok ps) :
    each pathOf vs = .ok (ps.map Json.ofString?) := by
  induction vs generalizing ps with
  | nil =>
    cases h
    rfl
  | cons v vs ih =>
    obtain ⟨p, rest, first, others, rfl⟩ := Path.decodeValues_cons.mp h
    unfold each
    rw [pathOf_of_ok first, ih others]
    rfl

/-- What is left of paths without those that are absent. -/
theorem filter_ofString? (ps : List (Option String)) :
    (ps.map Json.ofString?).filter (· != .null) = (ps.filterMap id).map fun p : String => .str p := by
  induction ps with
  | nil => rfl
  | cons p ps ih => cases p <;> simp [Json.ofString?, ih]

theorem itemsOf_arr (vs : List Json) : itemsOf (some (.arr vs)) = .ok vs := by
  cases vs with
  | nil => rfl
  | cons v vs => rfl

theorem paths_read (name : String) {vs : List Json} {ps : List (Option String)} (h : Path.decodeValues vs = .ok ps) :
    (paths name).read (some (.arr vs)) = .ok (.ofStrings (ps.filterMap id)) := by
  unfold paths
  dsimp only
  rw [itemsOf_arr]
  dsimp only
  rw [each_pathOf h]
  dsimp only
  rw [filter_ofString?]
  rfl

end Field

/-! ## Fields that hold paths -/

/-- A field that is read as a path holds the path that was written. -/
theorem Layout.holdsPath {l : Layout} (apart : l.Apart) {name : String} (here : Field.path name ∈ l.fields)
    (p : String) : l.Holds name (.str (Path.encode p)) (.str p) :=
  holds_of_read apart here rfl (Field.path_read name p)

namespace Resource

theorem virtualMachine_apart : virtualMachine.Apart := ⟨by decide, by decide⟩

theorem fileInfo_apart : fileInfo.Apart := ⟨by decide, by decide⟩

theorem fileSystemTask_apart : fileSystemTask.Apart := ⟨by decide, by decide⟩

theorem downloadTask_apart : downloadTask.Apart := ⟨by decide, by decide⟩

/-- The sources of a task are the paths of its items, without those that are absent. -/
theorem fileSystemTask_sources {vs : List Json} {ps : List (Option String)} (h : Path.decodeValues vs = .ok ps) :
    fileSystemTask.Holds "src" (.arr vs) (.ofStrings (ps.filterMap id)) := by
  have here : Field.paths "src" ∈ fileSystemTask.fields := by simp [fileSystemTask, Layout.ofFields]
  exact Layout.holds_of_read fileSystemTask_apart here rfl (Field.paths_read "src" h)

end Resource

end Freebox
