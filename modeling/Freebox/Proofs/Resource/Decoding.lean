import Freebox.Proofs.Envelope.Reading
import Freebox.Resource.Dhcp
import Freebox.Resource.Event
import Freebox.Resource.FileSystem
import Freebox.Resource.Login
import Freebox.Resource.PortForwarding
import Freebox.Resource.System
import Freebox.Resource.Transfer
import Freebox.Resource.VirtualMachine
import Mathlib.Data.List.Forall2

/-!
# `Freebox.Proofs.Resource.Decoding` — results that cannot be read are told

Whatever the box sends where a record is expected, decoding gives the record or tells by a decoding error why there is
none. Each way of reading a member fails by a decoding error, or by a fault that decoding makes one of. The one way that
does not is an integer: infinity is beyond all integers, and its fault is none of a value that does not fit. Only grants
have such a field. A list is decoded item by item, so what holds of an item is carried over to the first one that fails.

## Contents
- `Failure.IsDecoding`, `Failure.Decodable`: decoding errors, and what decoding makes one of.
- `Field.Tame`, with a lemma for each way of reading a member; `Layout.Tame`, `Layout.Tame.decode`.
- `Layout.decodeItems_ok_iff`, `Layout.decodeItems_error_iff`: lists are decoded item by item.
- `Json.Endless`, `grant_told_iff`: grants whose number to ask for is infinite.
- `responses`, `response_told_iff`, `responses_decode`: every layout that the client decodes.
-/

namespace Freebox

/-! ## Failures -/

/-- A failure that is a decoding error. -/
def Failure.IsDecoding (e : Failure) : Prop := ∃ why, e = .ofDecoding why

/-- A failure that decoding an object tells by a decoding error: one already, or a value that does not fit. -/
inductive Failure.Decodable : Failure → Prop where
  | told (why : DecodingError) : Decodable (.ofDecoding why)
  | misfit {f : Fault} (h : f.isMismatch = true) : Decodable (.fault f)

theorem failsIn_iff {ε α : Type} {bad : ε → Prop} {x : Except ε α} : FailsIn bad x ↔ ∀ e, x = .error e → bad e := by
  constructor
  · intro h e told
    exact h.failure told
  · intro h
    cases x with
    | ok v => exact .ok v
    | error e => exact .error (h e rfl)

/-! ## Fields -/

namespace Field

/-- However a member is, reading it fails by what decoding makes a decoding error of. -/
def Tame (f : Field) : Prop := ∀ v : Option Json, FailsIn Failure.Decodable (f.read v)

variable {name key : String} {l : Layout}

@[simp] theorem tame_required : (required name).Tame := by
  rintro (_ | v)
  · exact .error (.misfit rfl)
  · exact .ok v

@[simp] theorem tame_renamed : (renamed name key).Tame := by
  rintro (_ | v)
  · exact .error (.misfit rfl)
  · exact .ok v

@[simp] theorem tame_withDefault {default : Json} : (withDefault name default).Tame := fun _ => .ok _

@[simp] theorem tame_optional : (optional name).Tame := tame_withDefault

@[simp] theorem tame_flag : (flag name).Tame := tame_withDefault

@[simp] theorem tame_count : (count name).Tame := tame_withDefault

@[simp] theorem tame_optionalFrom : (optionalFrom name key).Tame := fun _ => .ok _

@[simp] theorem tame_truth : (truth name).Tame := fun _ => .ok _

@[simp] theorem tame_text {otherwise : Json.Kind → DecodingError} : (text name otherwise).Tame := by
  rintro (_ | v)
  · exact .error (.misfit rfl)
  · cases v with
    | str t => exact .ok _
    | _ => exact .error (.told _)

theorem pathOf_tame (v : Json) : FailsIn Failure.Decodable (pathOf v) := by
  unfold pathOf
  cases Path.decodeValue v with
  | ok path => exact .ok _
  | error e => exact .error (.told e)

@[simp] theorem tame_path : (path name).Tame := fun _ => pathOf_tame _

/-- What has no items is no array, and does not fit. -/
theorem itemsOf_tame (v : Option Json) : FailsIn Failure.Decodable (itemsOf v) := by
  unfold itemsOf
  cases (v.getD .null).orElse (.arr []) with
  | arr vs => exact .ok vs
  | str t => exact .ok _
  | obj ms => exact .ok _
  | _ => exact .error (.misfit rfl)

@[simp] theorem tame_items : (items name).Tame := by
  intro v
  unfold items
  dsimp only
  cases read : itemsOf v with
  | ok vs => exact .ok _
  | error e => exact .error ((itemsOf_tame v).failure read)

theorem each_tame {read : Json → Except Failure Json} (h : ∀ w, FailsIn Failure.Decodable (read w)) (vs : List Json) :
    FailsIn Failure.Decodable (each read vs) := by
  induction vs with
  | nil => exact .ok []
  | cons w vs ih =>
    rw [each]
    cases head : read w with
    | error e => exact .error ((h w).failure head)
    | ok x =>
      cases tail : each read vs with
      | error e => exact .error (ih.failure tail)
      | ok xs => exact .ok _

@[simp] theorem tame_paths : (paths name).Tame := by
  intro v
  unfold paths
  dsimp only
  cases read : itemsOf v with
  | error e => exact .error ((itemsOf_tame v).failure read)
  | ok vs =>
    dsimp only
    cases decoded : each pathOf vs with
    | error e => exact .error ((each_tame pathOf_tame vs).failure decoded)
    | ok ps => exact .ok _

/-- The items of a nested list are read one by one, whatever reads them. -/
theorem tame_nestedList (nested : ∀ v, FailsIn Failure.Decodable (nestedOf l v)) : (nestedList name l).Tame := by
  intro v
  unfold nestedList
  dsimp only
  cases read : itemsOf v with
  | error e => exact .error ((itemsOf_tame v).failure read)
  | ok vs =>
    dsimp only
    cases records : each (nestedOf l) vs with
    | error e => exact .error ((each_tame nested vs).failure records)
    | ok rs => exact .ok _

theorem tame_nested (nested : ∀ v, FailsIn Failure.Decodable (nestedOf l v)) : (Field.nested name l).Tame := by
  intro v
  show FailsIn _ (if (v.getD .null).isTrue then nestedOf l (v.getD .null) else .ok .null)
  by_cases there : (v.getD .null).isTrue = true
  · rw [if_pos there]
    exact nested _
  · rw [if_neg there]
    exact .ok _

end Field

/-! ## Layouts -/

/-- A layout fails by what decoding makes a decoding error of: so do its fields, and a value that is no object does not
fit. -/
structure Layout.Tame (l : Layout) : Prop where
  misfit : ∀ kind, (l.misfit kind).isMismatch = true
  fields : ∀ f ∈ l.fields, f.Tame

namespace Layout

variable {l : Layout}

theorem decodeFields_fails {ms : Members} {fs : List Field}
    (reads : ∀ f ∈ fs, FailsIn Failure.Decodable (f.read (ms.get? f.key))) :
    FailsIn Failure.Decodable (decodeFields ms fs) := by
  induction fs with
  | nil => exact .ok []
  | cons f fs ih =>
    rw [List.forall_mem_cons] at reads
    rw [decodeFields]
    cases read : f.read (ms.get? f.key) with
    | error e => exact .error (reads.1.failure read)
    | ok v =>
      cases decoded : decodeFields ms fs with
      | error e => exact .error ((ih reads.2).failure decoded)
      | ok rest => exact .ok _

theorem ofMembers_fails {ms : Members} (fields : FailsIn Failure.Decodable (decodeFields ms l.fields)) :
    FailsIn Failure.Decodable (l.ofMembers ms) := by
  unfold ofMembers
  cases decoded : decodeFields ms l.fields with
  | error e => exact .error (fields.failure decoded)
  | ok read => exact .ok _

theorem Tame.ofMembers (tame : l.Tame) (ms : Members) : FailsIn Failure.Decodable (l.ofMembers ms) :=
  ofMembers_fails (decodeFields_fails fun f here => tame.fields f here _)

theorem Tame.nestedOf (tame : l.Tame) (v : Json) : FailsIn Failure.Decodable (Field.nestedOf l v) := by
  have record : FailsIn Failure.Decodable (l.ofValue v) := by
    cases v with
    | obj ms => exact tame.ofMembers ms
    | _ => exact .error (.misfit (tame.misfit _))
  unfold Field.nestedOf
  cases read : l.ofValue v with
  | ok r => exact .ok _
  | error e => exact .error (record.failure read)

@[simp] theorem misfitMember_mismatch (kind : Json.Kind) : (misfitMember kind).isMismatch = true := by
  cases kind <;> rfl

/-- Layouts whose members are taken one by one only need their fields to be tame. -/
theorem tame_ofFields {name : String} {fields : List Field} (tame : ∀ f ∈ fields, f.Tame) :
    (ofFields name fields).Tame := ⟨misfitMember_mismatch, tame⟩

/-- Decoding an object makes a decoding error of what can be made one. -/
theorem wrap_decodable {e : Failure} (h : e.Decodable) : (l.wrap e).IsDecoding := by
  cases h with
  | told why => exact ⟨why, rfl⟩
  | @misfit f mismatch => exact ⟨.mismatch l.name f, if_pos mismatch⟩

/-- **A tame layout** is decoded from any value, or the decoding error tells why not. -/
theorem Tame.decode (tame : l.Tame) (v : Json) : FailsIn Failure.IsDecoding (l.decode v) := by
  cases v with
  | obj ms => exact (tame.ofMembers ms).mapError fun _ => wrap_decodable
  | _ => exact .error ⟨_, rfl⟩

/-! ## Lists -/

/-- A list is decoded if each of its items is, to their records in order. -/
theorem decodeItems_ok_iff {vs : List Json} {rs : List Record} :
    l.decodeItems vs = .ok rs ↔ List.Forall₂ (fun v r => l.decode v = .ok r) vs rs := by
  induction vs generalizing rs with
  | nil => cases rs <;> simp [decodeItems]
  | cons v vs ih =>
    rw [decodeItems, List.forall₂_cons_left_iff]
    cases head : l.decode v with
    | error e => simp
    | ok r =>
      simp only [← ih]
      cases l.decodeItems vs with
      | error e => simp
      | ok rest => simp [eq_comm]

/-- A list fails as its first item does that fails. -/
theorem decodeItems_error_iff {vs : List Json} {e : Failure} :
    l.decodeItems vs = .error e ↔ ∃ before v after,
      vs = before ++ v :: after ∧ (∀ u ∈ before, ∃ r, l.decode u = .ok r) ∧ l.decode v = .error e := by
  constructor
  · intro failed
    induction vs with
    | nil => cases failed
    | cons v vs ih =>
      rw [decodeItems] at failed
      cases head : l.decode v with
      | error first =>
        rw [head] at failed
        cases failed
        exact ⟨[], v, vs, rfl, by simp, head⟩
      | ok r =>
        cases tail : l.decodeItems vs with
        | ok rs => simp [head, tail] at failed
        | error later =>
          simp only [head, tail, Except.error.injEq] at failed
          subst failed
          obtain ⟨before, w, after, rfl, read, error⟩ := ih tail
          exact ⟨v :: before, w, after, rfl, List.forall_mem_cons.mpr ⟨⟨r, head⟩, read⟩, error⟩
  · rintro ⟨before, v, after, rfl, read, failed⟩
    induction before with
    | nil => simp [decodeItems, failed]
    | cons u before ih =>
      rw [List.forall_mem_cons] at read
      obtain ⟨r, head⟩ := read.1
      simp [decodeItems, head, ih read.2]

/-- So a list is decoded exactly if all of its items are. -/
theorem decodeItems_ok {vs : List Json} :
    (∃ rs, l.decodeItems vs = .ok rs) ↔ ∀ v ∈ vs, ∃ r, l.decode v = .ok r := by
  constructor
  · rintro ⟨rs, decoded⟩
    replace decoded := decodeItems_ok_iff.mp decoded
    induction decoded with
    | nil => simp
    | cons first _ ih => exact List.forall_mem_cons.mpr ⟨⟨_, first⟩, ih⟩
  · intro all
    cases decoded : l.decodeItems vs with
    | ok rs => exact ⟨rs, rfl⟩
    | error e =>
      obtain ⟨before, v, after, rfl, -, failed⟩ := decodeItems_error_iff.mp decoded
      obtain ⟨r, read⟩ := all v (by simp)
      rw [read] at failed
      cases failed

end Layout

/-! ## Layouts of the box -/

namespace Resource

theorem tame_usbPorts {name : String} : (usbPortsField name).Tame := by
  intro v
  unfold usbPortsField
  dsimp only
  cases usbPorts (v.getD (.str "")) with
  | ok ports => exact .ok _
  | error e => exact .error (.told e)

theorem l2Ident_tame : l2Ident.Tame := Layout.tame_ofFields (by simp)

theorem l3Connectivity_tame : l3Connectivity.Tame := Layout.tame_ofFields (by simp)

theorem hostName_tame : hostName.Tame := Layout.tame_ofFields (by simp)

/-- A host is asked for a member with a default first, so a value that is no object fails in another way. -/
theorem host_tame : host.Tame where
  misfit _ := rfl
  fields := by
    simp [host, Field.tame_nested l2Ident_tame.nestedOf, Field.tame_nestedList l3Connectivity_tame.nestedOf,
      Field.tame_nestedList hostName_tame.nestedOf]

theorem permissions_tame : permissions.Tame := Layout.tame_ofFields (by simp)

/-- Permissions are an object or absent; anything else is told by itself. -/
theorem permissionsOf_tame (v : Json) : FailsIn Failure.Decodable (permissionsOf v) := by
  cases v with
  | null => exact permissions_tame.nestedOf (.obj [])
  | obj ms => exact permissions_tame.nestedOf (.obj ms)
  | _ => exact .error (.told _)

theorem sessionResult_tame : sessionResult.Tame := by
  apply Layout.tame_ofFields
  simp only [List.forall_mem_cons, Field.tame_text, true_and]
  exact ⟨fun v => permissionsOf_tame _, by simp⟩

end Resource

/-! ## Grants -/

/-- A registration whose number to ask for is infinite. -/
def Json.Endless (v : Json) : Prop :=
  ∃ ms : Members, v = .obj ms ∧ (∃ token, Members.get? ms "app_token" = some token) ∧
    ∃ negative, Members.get? ms "track_id" = some (.real (.infinite negative))

/-- A value that is no integer does not fit, unless it is infinite. -/
theorem Json.toInteger_mismatch {v : Json} (finite : ∀ negative, v ≠ .real (.infinite negative)) :
    FailsIn (fun f : Fault => f.isMismatch = true) v.toInteger := by
  cases v with
  | int n => exact .ok n
  | bool b => exact .ok _
  | real x =>
    cases x with
    | finite negative m e => exact .ok _
    | nan => exact .error rfl
    | infinite negative => exact (finite negative rfl).elim
  | str t =>
    show FailsIn _ ((Whole.read t).mapError Fault.notInteger)
    exact EndsIn.any.mapError fun _ _ => rfl
  | _ => exact .error rfl

theorem Field.integer_fails {name : String} {v : Option Json}
    (finite : ∀ negative, v ≠ some (.real (.infinite negative))) :
    FailsIn Failure.Decodable ((integer name).read v) := by
  cases v with
  | none => exact .error (.misfit rfl)
  | some w =>
    have reads := Json.toInteger_mismatch (v := w) fun negative same => finite negative (congrArg some same)
    unfold integer
    dsimp only
    cases read : w.toInteger with
    | ok n => exact .ok _
    | error f => exact .error (.misfit (reads.failure read))

namespace Resource

/-- An infinite number to ask for ends in a fault. -/
theorem grant_endless {v : Json} (endless : v.Endless) : grant.decode v = .error (.fault .infinityToInteger) := by
  obtain ⟨ms, rfl, ⟨token, named⟩, negative, tracked⟩ := endless
  have fields : Layout.decodeFields ms grant.fields = .error (.fault .infinityToInteger) := by
    simp [grant, Layout.ofFields, Layout.decodeFields, Field.required, Field.integer, named, tracked, Json.toInteger]
  simp [Layout.decode, Layout.ofMembers, fields, Except.mapError, Layout.wrap, Fault.isMismatch, Fault.cls]

/-- **A registration** is read or told by a decoding error, exactly if its number to ask for is not infinite. -/
theorem grant_told_iff (v : Json) : FailsIn Failure.IsDecoding (grant.decode v) ↔ ¬ v.Endless := by
  constructor
  · intro told endless
    obtain ⟨why, same⟩ := told.failure (grant_endless endless)
    cases same
  · intro finite
    cases v with
    | obj ms =>
      suffices fields : FailsIn Failure.Decodable (Layout.decodeFields ms grant.fields) from
        (Layout.ofMembers_fails fields).mapError fun _ => Layout.wrap_decodable
      cases named : Members.get? ms "app_token" with
      | none =>
        -- the number is not looked at without a token
        have first : Layout.decodeFields ms grant.fields = .error (.fault (.missingMember "app_token")) := by
          simp [grant, Layout.ofFields, Layout.decodeFields, Field.required, named]
        rw [first]
        exact .error (.misfit rfl)
      | some token =>
        apply Layout.decodeFields_fails
        simp only [grant, Layout.ofFields, List.forall_mem_cons]
        refine ⟨Field.tame_required _, Field.integer_fails fun negative tracked => ?_, by simp⟩
        exact finite ⟨ms, rfl, ⟨token, named⟩, negative, tracked⟩
    | _ => exact .error ⟨_, rfl⟩

/-! ## Responses -/

/-- The layouts that results, and what is nested in them, are decoded by. -/
def responses : List Layout :=
  [apiVersion, l2Ident, l3Connectivity, hostName, host, lanInterface, portForwardingRule, staticLease,
   virtualMachinesInfo, distribution, virtualMachine, diskInfo, diskTask, fileInfo, fileSystemTask, downloadTask,
   uploadTask, event, challenge, permissions, sessionResult, grant, grantState]

/-- Registrations are the only responses that are not tame. -/
theorem responses_tame {l : Layout} (known : l ∈ responses) : l = grant ∨ l.Tame := by
  revert l
  simp only [responses, List.forall_mem_cons]
  refine ⟨.inr ?_, .inr l2Ident_tame, .inr l3Connectivity_tame, .inr hostName_tame, .inr host_tame, .inr ?_, .inr ?_,
    .inr ?_, .inr ?_, .inr ?_, .inr ?_, .inr ?_, .inr ?_, .inr ?_, .inr ?_, .inr ?_, .inr ?_, .inr ?_, .inr ?_,
    .inr permissions_tame, .inr sessionResult_tame, .inl trivial, .inr ?_, by simp⟩
  all_goals
    apply Layout.tame_ofFields
    simp [Field.tame_nested host_tame.nestedOf, tame_usbPorts]

/-- A value overruns a layout: it is a registration whose number to ask for is infinite. -/
def Overruns (l : Layout) (v : Json) : Prop := l = grant ∧ v.Endless

/-- **A response** is decoded or told by a decoding error, unless the value overruns its layout. -/
theorem response_told_iff {l : Layout} (known : l ∈ responses) (v : Json) :
    FailsIn Failure.IsDecoding (l.decode v) ↔ ¬ Overruns l v := by
  rcases responses_tame known with rfl | tame
  · simp [grant_told_iff, Overruns]
  · constructor
    · rintro told ⟨rfl, endless⟩
      exact (grant_told_iff v).mp told endless
    · intro _
      exact tame.decode v

/-- A list of responses is, unless a value overruns its layout before any other item fails. -/
theorem responses_told_iff {l : Layout} (known : l ∈ responses) (vs : List Json) :
    FailsIn Failure.IsDecoding (l.decodeItems vs) ↔ ¬ ∃ before v after,
      vs = before ++ v :: after ∧ (∀ u ∈ before, ∃ r, l.decode u = .ok r) ∧ Overruns l v := by
  rw [failsIn_iff]
  constructor
  · rintro told ⟨before, v, after, rfl, read, rfl, endless⟩
    have failed := grant_endless endless
    have overall := Layout.decodeItems_error_iff.mpr ⟨before, v, after, rfl, read, failed⟩
    obtain ⟨why, same⟩ := told _ overall
    cases same
  · intro none e failed
    obtain ⟨before, v, after, rfl, read, first⟩ := Layout.decodeItems_error_iff.mp failed
    have fits : ¬ Overruns l v := fun overruns => none ⟨before, v, after, rfl, read, overruns⟩
    exact ((response_told_iff known v).mpr fits).failure first

/-- **Decoding a result** gives its record or its records, or tells by a decoding error why there are none. It does
for every response and every value, except that a registration whose number to ask for is infinite ends in a fault,
alone or as the first item of an array that is not read. An array is decoded exactly if each of its items is, to their
records in order, and fails as the first item does that fails. -/
theorem responses_decode {l : Layout} (known : l ∈ responses) :
    (∀ v, FailsIn Failure.IsDecoding (l.decode v) ↔ ¬ Overruns l v) ∧
    (∀ v, FailsIn Failure.IsDecoding (l.decodeList v) ↔ ¬ ∃ before w after, v = .arr (before ++ w :: after) ∧
      (∀ u ∈ before, ∃ r, l.decode u = .ok r) ∧ Overruns l w) ∧
    (∀ v, Overruns l v → l.decode v = .error (.fault .infinityToInteger)) ∧
    ∀ vs, (∀ rs, l.decodeList (.arr vs) = .ok rs ↔ List.Forall₂ (fun v r => l.decode v = .ok r) vs rs) ∧
      ((∃ rs, l.decodeList (.arr vs) = .ok rs) ↔ ∀ v ∈ vs, ∃ r, l.decode v = .ok r) ∧
      ∀ e, l.decodeList (.arr vs) = .error e ↔ ∃ before v after, vs = before ++ v :: after ∧
        (∀ u ∈ before, ∃ r, l.decode u = .ok r) ∧ l.decode v = .error e := by
  refine ⟨response_told_iff known, fun v => ?_, ?_, fun vs => ?_⟩
  · cases v with
    | arr vs =>
      show FailsIn _ (l.decodeItems vs) ↔ _
      rw [responses_told_iff known]
      simp only [Json.arr.injEq]
    | null => exact iff_of_true (.ok []) (by simp)
    | _ => exact iff_of_true (.error ⟨_, rfl⟩) (by simp)
  · rintro v ⟨rfl, endless⟩
    exact grant_endless endless
  · exact ⟨fun rs => Layout.decodeItems_ok_iff, Layout.decodeItems_ok, fun e => Layout.decodeItems_error_iff⟩

/-- A list of leases with an item that is no object fails by the decoding error of that item. -/
theorem leases_decode : staticLease ∈ responses ∧
    staticLease.decodeList (.arr [.obj [("id", .str "a")], .int 3, .obj []]) =
      .error (.ofDecoding (.objectKind "DHCPStaticLeaseInfo" .int)) := by
  have known : staticLease ∈ responses := by simp [responses]
  refine ⟨known, ((responses_decode known).2.2.2 _).2.2 _ |>.mpr ?_⟩
  refine ⟨[.obj [("id", .str "a")]], .int 3, [.obj []], rfl, ?_, rfl⟩
  rintro u here
  obtain rfl := List.mem_singleton.mp here
  exact ⟨_, rfl⟩

/-- **An infinite number to ask for**, which the box may write, is told by no decoding error. -/
theorem endless_grant_fault :
    ∃ v, Json.read (.text "\x7b\"app_token\": \"k\", \"track_id\": Infinity\x7d") = .ok v ∧
      grant ∈ responses ∧ grant.decode v = .error (.fault .infinityToInteger) ∧
      grant.decodeList (.arr [v]) = .error (.fault .infinityToInteger) ∧
      ¬ (Failure.fault .infinityToInteger).IsDecoding := by
  refine ⟨.obj [("app_token", .str "k"), ("track_id", .real (.infinite false))], ?_, ?_, ?_, ?_, ?_⟩
  · exact Attempt.ok_of_toOption (by decide +kernel)
  · simp [responses]
  · rfl
  · rfl
  · rintro ⟨why, same⟩
    cases same

end Resource

end Freebox
