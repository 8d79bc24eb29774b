import Freebox.Proofs.Resource.Nesting
import Freebox.Resource.Login

/-!
# `Freebox.Proofs.Resource.Unread` — what decoding does not look at

A record is decoded by looking up the members that its layout reads. What else is in an object, and in which order its
members are, does not matter, neither for the record nor for the failure if there is none. The same goes for the objects
nested in it, as these are decoded in the same way. Only whether a nested object is empty matters, since an empty one
counts as absent.

## Contents
- `Layout.Reads`: the members that a layout reads.
- `Layout.Alike`: objects that differ in members that are not read, or in the order of members, at any depth.
- `Layout.Agree`: objects that are read alike, field by field; `Alike.agree`: objects that differ so are.
- `granted_permissions`: the permissions granted are those with a true value.
- `alike_decode`: objects that differ so are decoded alike.
-/

namespace Freebox

open Resource

namespace Members

/-- Members with different names are found whatever their order. -/
theorem get?_perm {ms ms' : Members} (distinct : (ms.map Prod.fst).Nodup) (perm : ms.Perm ms') (key : Text) :
    ms.get? key = ms'.get? key := by
  have distinct' : (ms'.map Prod.fst).Nodup := (perm.map Prod.fst).nodup_iff.mp distinct
  cases found : ms.get? key with
  | some v => exact (get?_mem distinct' (perm.mem_iff.mp (mem_of_get? found))).symm
  | none =>
    cases found' : ms'.get? key with
    | none => rfl
    | some w =>
      have here := get?_mem distinct (perm.mem_iff.mpr (mem_of_get? found'))
      rw [found] at here
      cases here

end Members

namespace Layout

/-! ## Objects that differ in what is not read -/

/-- A layout reads a member. -/
def Reads (l : Layout) (key : Text) : Prop := ∃ f ∈ l.fields, (f.key : Text) = key

instance (l : Layout) (key : Text) : Decidable (l.Reads key) := by unfold Reads; infer_instance

/-- Objects that differ in members that a layout does not read, in the order of their members, or in the same way in
an object that is nested in them. -/
inductive Alike : Layout → Members → Members → Prop where
  | refl (l : Layout) (ms : Members) : Alike l ms ms
  | symm {l : Layout} {ms ms' : Members} : Alike l ms ms' → Alike l ms' ms
  | trans {l : Layout} {ms ms' ms'' : Members} : Alike l ms ms' → Alike l ms' ms'' → Alike l ms ms''
  /-- A member that is not read is set. -/
  | unread {l : Layout} (ms : Members) (key : Text) (v : Json) : ¬ l.Reads key → Alike l ms (ms.set key v)
  /-- The members are in another order. -/
  | permuted {l : Layout} {ms ms' : Members} : (ms.map Prod.fst).Nodup → ms.Perm ms' → Alike l ms ms'
  /-- A nested object is replaced; neither of the two is empty. -/
  | inside {l m : Layout} {key : String} {ms inner inner' : Members} : l.Nests key m →
      ms.get? key = some (.obj inner) → inner ≠ [] → inner' ≠ [] → Alike m inner inner' →
      Alike l ms (ms.set key (.obj inner'))
  /-- The permissions of a session are replaced. -/
  | permissions {ms inner inner' : Members} :
      ms.get? "permissions" = some (.obj inner) → Alike permissions inner inner' →
      Alike sessionResult ms (ms.set "permissions" (.obj inner'))
  /-- An item of a list of objects is replaced. -/
  | item {l m : Layout} {key : String} {ms inner inner' : Members} {before after : List Json} : l.Lists key m →
      ms.get? key = some (.arr (before ++ .obj inner :: after)) → Alike m inner inner' →
      Alike l ms (ms.set key (.arr (before ++ .obj inner' :: after)))

/-! ## Objects that are read alike -/

/-- Every field of a layout reads the same from two objects. -/
def Agree (l : Layout) (ms ms' : Members) : Prop := ∀ f ∈ l.fields, f.read (ms.get? f.key) = f.read (ms'.get? f.key)

variable {l m : Layout} {ms ms' : Members}

theorem decodeFields_congr {fs : List Field} (same : ∀ f ∈ fs, f.read (ms.get? f.key) = f.read (ms'.get? f.key)) :
    decodeFields ms fs = decodeFields ms' fs := by
  induction fs with
  | nil => rfl
  | cons f fs ih =>
    rw [List.forall_mem_cons] at same
    rw [decodeFields, decodeFields, same.1, ih same.2]

theorem Agree.ofMembers (agree : l.Agree ms ms') : l.ofMembers ms = l.ofMembers ms' := by
  unfold Layout.ofMembers
  rw [decodeFields_congr agree]

/-- Objects that are read alike are decoded alike, alone and nested. -/
theorem Agree.decode (agree : l.Agree ms ms') : l.decode (.obj ms) = l.decode (.obj ms') :=
  congrArg (Except.mapError l.wrap) agree.ofMembers

theorem Agree.nestedOf (agree : l.Agree ms ms') : Field.nestedOf l (.obj ms) = Field.nestedOf l (.obj ms') := by
  unfold Field.nestedOf
  dsimp only [Layout.ofValue]
  rw [agree.ofMembers]

/-- A member that no field reads can be set. -/
theorem agree_unread {key : Text} (unread : ¬ l.Reads key) (v : Json) : l.Agree ms (ms.set key v) := by
  intro f here
  have other : (f.key : Text) ≠ key := fun same => unread ⟨f, here, same⟩
  rw [Members.get?_set_of_ne ms v other]

/-- The member of one field can be replaced by one that the field reads alike. -/
theorem agree_set (apart : l.Apart) {f : Field} (here : f ∈ l.fields) {v : Json}
    (same : f.read (ms.get? f.key) = f.read (some v)) : l.Agree ms (ms.set f.key v) := by
  intro g there
  by_cases this : g = f
  · subst this
    rw [Members.get?_set_self, same]
  · have other : (g.key : Text) ≠ f.key := fun key => this (apart.eq_of_key there here key)
    rw [Members.get?_set_of_ne ms v other]

end Layout

namespace Field

variable {m : Layout} {inner inner' : Members} {before after : List Json}

/-- An object that is not empty counts as true, so it is decoded as a record. -/
theorem nested_obj (name : String) (some : inner ≠ []) :
    (Field.nested name m).read (.some (.obj inner)) = nestedOf m (.obj inner) := by
  cases inner with
  | nil => exact absurd rfl some
  | cons => rfl

theorem each_congr {read : Json → Except Failure Json} {v w : Json} (same : read v = read w) :
    each read (before ++ v :: after) = each read (before ++ w :: after) := by
  induction before with
  | nil => rw [List.nil_append, List.nil_append, each, each, same]
  | cons u before ih => rw [List.cons_append, List.cons_append, each, each, ih]

theorem nestedList_congr (name : String) (agree : m.Agree inner inner') :
    (nestedList name m).read (some (.arr (before ++ .obj inner :: after))) =
      (nestedList name m).read (some (.arr (before ++ .obj inner' :: after))) := by
  unfold nestedList
  dsimp only
  rw [itemsOf_arr, itemsOf_arr]
  dsimp only
  rw [each_congr agree.nestedOf]

end Field

namespace Resource

theorem sessionResult_apart : sessionResult.Apart := ⟨by decide, by decide⟩

end Resource

namespace Layout

variable {l : Layout} {ms ms' : Members}

/-- **Objects that differ in what is not read** are read alike: by induction on where they differ. -/
theorem Alike.agree (alike : l.Alike ms ms') : l.Agree ms ms' := by
  induction alike with
  | refl => exact fun f _ => rfl
  | symm _ ih => exact fun f here => (ih f here).symm
  | trans _ _ ih ih' => exact fun f here => (ih f here).trans (ih' f here)
  | unread ms key v unread => exact agree_unread unread v
  | permuted distinct perm =>
    intro f _
    rw [Members.get?_perm distinct perm]
  | @inside l m key ms inner inner' nests there filled filled' _ ih =>
    obtain ⟨apart, here⟩ := nests.field
    refine agree_set (f := .nested key m) apart here ?_
    show (Field.nested key m).read (ms.get? key) = _
    rw [there, Field.nested_obj key filled, Field.nested_obj key filled', ih.nestedOf]
  | @permissions ms inner inner' there _ ih =>
    let field : Field := ⟨"permissions", "permissions", fun v => permissionsOf (v.getD .null)⟩
    refine agree_set (f := field) sessionResult_apart (by simp [sessionResult, ofFields, field]) ?_
    show field.read (ms.get? "permissions") = _
    rw [there]
    exact ih.nestedOf
  | @item l m key ms inner inner' before after lists there _ ih =>
    obtain ⟨apart, here⟩ := lists.field
    refine agree_set (f := .nestedList key m) apart here ?_
    show (Field.nestedList key m).read (ms.get? key) = _
    rw [there]
    exact Field.nestedList_congr key ih

end Layout

/-! ## Permissions -/

namespace Resource

theorem decodeFields_truths (ms : Members) (names : List String) :
    Layout.decodeFields ms (names.map Field.truth) =
      .ok (names.map fun name : String => ((name : Text), .bool (ms.get name).isTrue)) := by
  induction names with
  | nil => rfl
  | cons name names ih =>
    have read : (Field.truth name).read (ms.get? name) = .ok (.bool (ms.get name).isTrue) := by
      unfold Members.get
      cases ms.get? name <;> rfl
    exact Layout.decodeFields_cons.mpr ⟨_, _, read, ih, rfl⟩

/-- **The permissions granted** are those that an object has a true value for, in the order of the permissions there
are, whatever else is in the object. -/
theorem granted_permissions (ms : Members) :
    ∃ r, permissions.decode (.obj ms) = .ok r ∧
      granted r = (permissionNames.filter fun name : String => (ms.get name).isTrue).map Text.ofString := by
  refine ⟨⟨permissionNames.map fun name : String => ((name : Text), .bool (ms.get name).isTrue)⟩, ?_, ?_⟩
  · show (permissions.ofMembers ms).mapError permissions.wrap = _
    unfold Layout.ofMembers
    dsimp only [permissions, Layout.ofFields]
    rw [decodeFields_truths]
    rfl
  · unfold granted
    rw [List.filter_map, List.map_map]
    rfl

end Resource

/-- **Decoding looks at nothing else.** Objects that differ in members that are not read, or in the order of members,
alone or nested, are decoded alike: to the same record, or with the same failure. So the permissions granted are the
known ones that an object has a true value for. -/
theorem alike_decode :
    (∀ (l : Layout) (ms ms' : Members), l.Alike ms ms' → l.decode (.obj ms) = l.decode (.obj ms')) ∧
    ∀ ms : Members, ∃ r, permissions.decode (.obj ms) = .ok r ∧
      granted r = (permissionNames.filter fun name : String => (ms.get name).isTrue).map Text.ofString :=
  ⟨fun _ _ _ alike => alike.agree.decode, granted_permissions⟩

/-- A rule of a host, and the same rule with a member more inside and outside and in another order. -/
theorem extended_rule_decode :
    portForwardingRule.decode (.obj [("id", .int 1), ("host", .obj [("id", .str "x"), ("active", .bool true)])]) =
      portForwardingRule.decode (.obj [("host", .obj [("new", .null), ("active", .bool true), ("id", .str "x")]),
        ("new", .int 2), ("id", .int 1)]) := by
  have inside : host.Alike [("id", .str "x"), ("active", .bool true)]
      [("new", .null), ("active", .bool true), ("id", .str "x")] :=
    .trans (.unread _ "new" .null (by decide)) (.permuted (by decide) (by decide))
  have nested : portForwardingRule.Alike [("id", .int 1), ("host", .obj [("id", .str "x"), ("active", .bool true)])]
      [("id", .int 1), ("host", .obj [("new", .null), ("active", .bool true), ("id", .str "x")])] :=
    .inside .ruleHost rfl (by decide) (by decide) inside
  refine alike_decode.1 _ _ _ (.trans nested ?_)
  exact .trans (.unread _ "new" (.int 2) (by decide)) (.permuted (by decide) (by decide))

end Freebox
