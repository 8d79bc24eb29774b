import Freebox.Proofs.Resource.Draft

/-!
# `Freebox.Proofs.Resource.Nesting` — records inside records

Rules and leases hold a host, and a host holds its address on the link, addresses and names. What is nested is decoded
like a record of its own, but it is not shown like one: a record is shown without the fields that are unset, and the
records inside it are shown with all their fields, the unset ones as nulls. So a nested record is shown as it would be
alone exactly if none of its fields is unset.

## Contents
- `Layout.Nests`, `Layout.Lists`: the fields that hold one record of another layout, or several.
- `Field.nested_read`, `Field.nestedList_read`: what such a field was read from.
- `Record.shows?`, `Record.Complete`: what a record shows, and records without unset fields.
- `nested_shown`: how nested records are shown. `unset_field_shown`: a host that is shown in two ways.
-/

namespace Freebox

open Resource

/-! ## Fields that hold records -/

/-- A field of a layout holds a record of another one. -/
inductive Layout.Nests : Layout → String → Layout → Prop where
  | ruleHost : Nests portForwardingRule "host" host
  | leaseHost : Nests staticLease "host" host
  | link : Nests host "l2ident" l2Ident

/-- A field of a layout holds a list of records of another one. -/
inductive Layout.Lists : Layout → String → Layout → Prop where
  | addresses : Lists host "l3connectivities" l3Connectivity
  | names : Lists host "names" hostName

namespace Resource

theorem host_apart : host.Apart := ⟨by decide, by decide⟩

end Resource

namespace Layout

variable {l m : Layout} {key : String}

/-- Such a field reads one nested record, and no other field has its name or reads its member. -/
theorem Nests.field (nests : l.Nests key m) : l.Apart ∧ Field.nested key m ∈ l.fields := by
  cases nests with
  | ruleHost => exact ⟨portForwardingRule_apart, by simp [portForwardingRule, ofFields]⟩
  | leaseHost => exact ⟨staticLease_apart, by simp [staticLease, ofFields]⟩
  | link => exact ⟨host_apart, by simp [host]⟩

theorem Lists.field (lists : l.Lists key m) : l.Apart ∧ Field.nestedList key m ∈ l.fields := by
  cases lists with
  | addresses => exact ⟨host_apart, by simp [host]⟩
  | names => exact ⟨host_apart, by simp [host]⟩

end Layout

namespace Field

variable {name : String} {l : Layout} {v : Option Json} {w : Json}

/-- A nested record is decoded from an object. -/
theorem nestedOf_ok {v : Json} (read : nestedOf l v = .ok w) :
    ∃ inner n, v = .obj inner ∧ l.decode (.obj inner) = .ok n ∧ w = n.full := by
  unfold nestedOf at read
  cases v with
  | obj inner =>
    dsimp only [Layout.ofValue] at read
    cases members : l.ofMembers inner with
    | error e =>
      rw [members] at read
      cases read
    | ok n =>
      rw [members] at read
      have decoded : l.decode (.obj inner) = .ok n := by
        show (l.ofMembers inner).mapError l.wrap = _
        rw [members]
        rfl
      exact ⟨inner, n, rfl, decoded, (Except.ok.inj read).symm⟩
  | _ => cases read

/-- A field that holds a record is unset if its member does not count as true. Else the member was an object that is
decoded to the record. -/
theorem nested_read (read : (Field.nested name l).read v = .ok w) :
    ((v.getD .null).isTrue = false ∧ w = .null) ∨
      ∃ inner n, v = some (.obj inner) ∧ l.decode (.obj inner) = .ok n ∧ w = n.full := by
  change (if (v.getD .null).isTrue then nestedOf l (v.getD .null) else .ok .null) = _ at read
  by_cases there : (v.getD .null).isTrue = true
  · rw [if_pos there] at read
    obtain ⟨inner, n, object, decoded, full⟩ := nestedOf_ok read
    cases v with
    | none => cases object
    | some u => exact Or.inr ⟨inner, n, congrArg some object, decoded, full⟩
  · rw [if_neg there] at read
    exact Or.inl ⟨eq_false_of_ne_true there, (Except.ok.inj read).symm⟩

/-- Items are read one by one. -/
theorem each_ok_iff {read : Json → Except Failure Json} {vs ws : List Json} :
    each read vs = .ok ws ↔ List.Forall₂ (fun v w => read v = .ok w) vs ws := by
  induction vs generalizing ws with
  | nil => cases ws <;> simp [each]
  | cons v vs ih =>
    rw [each, List.forall₂_cons_left_iff]
    cases head : read v with
    | error e => simp
    | ok w =>
      simp only [← ih]
      cases each read vs with
      | error e => simp
      | ok rest => simp [eq_comm]

/-- Nested records are decoded item by item. -/
theorem each_nested {vs ws : List Json} (read : each (nestedOf l) vs = .ok ws) :
    ∃ ns, List.Forall₂ (fun u n => l.decode u = .ok n) vs ns ∧ ws = ns.map Record.full := by
  have pairs := each_ok_iff.mp read
  clear read
  induction pairs with
  | nil => exact ⟨[], .nil, rfl⟩
  | cons first _ ih =>
    obtain ⟨inner, n, rfl, decoded, rfl⟩ := nestedOf_ok first
    obtain ⟨ns, others, rfl⟩ := ih
    exact ⟨n :: ns, .cons decoded others, rfl⟩

/-- A field that holds records was read from objects that are decoded to them, in order. -/
theorem nestedList_read (read : (Field.nestedList name l).read v = .ok w) :
    ∃ vs ns, itemsOf v = .ok vs ∧ List.Forall₂ (fun u n => l.decode u = .ok n) vs ns ∧
      w = .arr (ns.map Record.full) := by
  unfold nestedList at read
  dsimp only at read
  cases items : itemsOf v with
  | error e =>
    rw [items] at read
    cases read
  | ok vs =>
    rw [items] at read
    dsimp only at read
    cases nested : each (nestedOf l) vs with
    | error e =>
      rw [nested] at read
      cases read
    | ok ws =>
      rw [nested] at read
      obtain rfl : Json.arr ws = w := Except.ok.inj read
      obtain ⟨ns, decoded, rfl⟩ := each_nested nested
      exact ⟨vs, ns, rfl, decoded, rfl⟩

end Field

/-! ## What records show -/

namespace Record

/-- The value that a record shows for a field, if it shows one. -/
def shows? (r : Record) (name : String) : Option Json :=
  match r.toJson with
  | .obj shown => Members.get? shown name
  | _ => none

/-- No field of a record is unset. -/
def Complete (r : Record) : Prop := ∀ m ∈ r.fields, m.2 ≠ .null

instance (r : Record) : Decidable r.Complete := by unfold Complete; infer_instance

/-- A record is shown with all its fields exactly if none is unset. -/
theorem full_eq_toJson_iff (r : Record) : r.full = r.toJson ↔ r.Complete := by
  unfold full toJson Members.withoutNulls Complete
  rw [Json.obj.injEq, eq_comm, List.filter_eq_self]
  simp

theorem map_full_eq_iff (rs : List Record) : rs.map full = rs.map toJson ↔ ∀ r ∈ rs, r.Complete := by
  simp [List.map_inj_left, full_eq_toJson_iff]

end Record

namespace Layout

variable {l m : Layout} {ms : Members} {r : Record} {key : String}

/-- **A field of a decoded record** is shown with its value, unless it is unset. -/
theorem decode_shows (apart : l.Apart) (h : l.decode (.obj ms) = .ok r) {f : Field} (here : f ∈ l.fields) :
    r.shows? f.name = if r.get f.name = .null then none else some (r.get f.name) :=
  Members.get?_withoutNulls (decode_nodup apart h) (Members.mem_of_get? (decode_found apart h here).2)

/-- A record in a field is shown with all its own fields; a field without one is not shown. -/
theorem Nests.shown (nests : l.Nests key m) (h : l.decode (.obj ms) = .ok r) :
    ((ms.get key).isTrue = false ∧ r.shows? key = none) ∨
      ∃ inner n, ms.get? key = some (.obj inner) ∧ m.decode (.obj inner) = .ok n ∧ r.shows? key = some n.full := by
  obtain ⟨apart, here⟩ := nests.field
  have shown : r.shows? key = if r.get key = .null then none else some (r.get key) := decode_shows apart h here
  have read : (Field.nested key m).read (ms.get? key) = .ok (r.get key) := decode_get apart h here
  rcases Field.nested_read read with ⟨absent, unset⟩ | ⟨inner, n, object, decoded, value⟩
  · rw [if_pos unset] at shown
    exact Or.inl ⟨absent, shown⟩
  · rw [value, if_neg (by simp [Record.full])] at shown
    exact Or.inr ⟨inner, n, object, decoded, shown⟩

/-- Records in a field are shown in order, each with all its own fields. -/
theorem Lists.shown (lists : l.Lists key m) (h : l.decode (.obj ms) = .ok r) :
    ∃ vs ns, Field.itemsOf (ms.get? key) = .ok vs ∧ List.Forall₂ (fun v n => m.decode v = .ok n) vs ns ∧
      r.shows? key = some (.arr (ns.map Record.full)) := by
  obtain ⟨apart, here⟩ := lists.field
  have shown : r.shows? key = if r.get key = .null then none else some (r.get key) := decode_shows apart h here
  have read : (Field.nestedList key m).read (ms.get? key) = .ok (r.get key) := decode_get apart h here
  obtain ⟨vs, ns, items, decoded, value⟩ := Field.nestedList_read read
  rw [value, if_neg (by simp)] at shown
  exact ⟨vs, ns, items, decoded, shown⟩

end Layout

/-- **How nested records are shown.** A rule, a lease or a host that was decoded shows what is nested in it with all
fields, the unset ones as nulls, and shows no field for a record that is not there. So a record is shown inside another
one as it is alone exactly if none of its fields is unset, and a list of records exactly if that is so for each. -/
theorem nested_shown {l : Layout} {ms : Members} {r : Record} (read : l.decode (.obj ms) = .ok r) :
    (∀ key m, l.Nests key m →
      ((ms.get key).isTrue = false ∧ r.shows? key = none) ∨
        ∃ inner n, ms.get? key = some (.obj inner) ∧ m.decode (.obj inner) = .ok n ∧ r.shows? key = some n.full ∧
          (r.shows? key = some n.toJson ↔ n.Complete)) ∧
    ∀ key m, l.Lists key m →
      ∃ vs ns, Field.itemsOf (ms.get? key) = .ok vs ∧ List.Forall₂ (fun v n => m.decode v = .ok n) vs ns ∧
        r.shows? key = some (.arr (ns.map Record.full)) ∧
        (r.shows? key = some (.arr (ns.map Record.toJson)) ↔ ∀ n ∈ ns, n.Complete) := by
  constructor
  · intro key m nests
    rcases nests.shown read with unset | ⟨inner, n, object, decoded, shown⟩
    · exact Or.inl unset
    · refine Or.inr ⟨inner, n, object, decoded, shown, ?_⟩
      rw [shown, Option.some_inj]
      exact n.full_eq_toJson_iff
  · intro key m lists
    obtain ⟨vs, ns, items, decoded, shown⟩ := lists.shown read
    refine ⟨vs, ns, items, decoded, shown, ?_⟩
    rw [shown, Option.some_inj, Json.arr.injEq]
    exact Record.map_full_eq_iff ns

/-- A host with an address whose two fields are set, and with a name that lacks its source. -/
theorem named_host_shown :
    ∃ r link name, host.decode (.obj [("id", .str "x"), ("l2ident", .obj [("id", .str "m"), ("type", .str "mac")]),
        ("names", .arr [.obj [("name", .str "nas")]])]) = .ok r ∧
      l2Ident.decode (.obj [("id", .str "m"), ("type", .str "mac")]) = .ok link ∧
      hostName.decode (.obj [("name", .str "nas")]) = .ok name ∧
      r.shows? "l2ident" = some link.toJson ∧ r.shows? "names" ≠ some (.arr [name.toJson]) := by
  obtain ⟨r, read⟩ : ∃ r, host.decode (.obj [("id", .str "x"), ("l2ident", .obj [("id", .str "m"),
      ("type", .str "mac")]), ("names", .arr [.obj [("name", .str "nas")]])]) = .ok r := ⟨_, rfl⟩
  obtain ⟨nests, lists⟩ := nested_shown read
  refine ⟨r, _, _, read, rfl, rfl, ?_, ?_⟩
  · rcases nests _ _ Layout.Nests.link with ⟨unset, -⟩ | ⟨inner, n, object, decoded, -, alone⟩
    · exact absurd unset (by decide)
    · cases object
      cases decoded
      exact alone.mpr (by decide)
  · obtain ⟨vs, ns, items, decoded, -, alone⟩ := lists _ _ Layout.Lists.names
    cases items
    obtain _ | ⟨first, _ | _⟩ := decoded
    cases first
    exact fun same => absurd (alone.mp same) (by decide)

/-- **A host with unset fields** is shown without them alone, and with nulls for them inside a rule or a lease. -/
theorem unset_field_shown :
    ∃ rule lease alone,
      portForwardingRule.decode (.obj [("id", .int 1), ("host", .obj [("id", .str "x")])]) = .ok rule ∧
      staticLease.decode (.obj [("id", .str "l"), ("host", .obj [("id", .str "x")])]) = .ok lease ∧
      host.decode (.obj [("id", .str "x")]) = .ok alone ∧
      alone.shows? "primary_name" = none ∧
      rule.shows? "host" ≠ some alone.toJson ∧ lease.shows? "host" ≠ some alone.toJson ∧
      ∀ r ∈ [rule, lease], ∃ shown, r.shows? "host" = some (.obj shown) ∧
        Members.get? shown "primary_name" = some .null := by
  refine ⟨_, _, _, rfl, rfl, rfl, rfl, by decide, by decide, ?_⟩
  intro r here
  simp only [List.mem_cons, List.not_mem_nil, or_false] at here
  rcases here with rfl | rfl
  · exact ⟨_, rfl, rfl⟩
  · exact ⟨_, rfl, rfl⟩

end Freebox
