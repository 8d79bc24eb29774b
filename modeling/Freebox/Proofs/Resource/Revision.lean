import Freebox.Proofs.Attempt.Guarantee
import Freebox.Proofs.Envelope.Reading
import Freebox.Resource.Operation
import Mathlib.Data.List.Nodup

/-!
# `Freebox.Proofs.Resource.Revision` — records of objects that were changed

Fields look their members up by name. So if an object is laid over another one, each field is read from the upper
object if it is there, and as before otherwise, and the record differs in those fields alone. Whether an object can be
read as a record does not depend on members that can be read.

## Contents
- `Members.Overlays`, `Members.overlay`: an object laid over another one.
- `Record.revised`: a record with some fields replaced.
- `Layout.Apart`: layouts whose fields and whose members have different names.
- `Layout.decode_get`, `Layout.decode_revised`: one field of a record, and a record of an object that was changed.
- `Setting`, `Setting.On`, `Setting.On.changes`: what is set on some fields.
- `Layout.Revises`, `Layout.revises_of_settings`: payloads that change records.
- `Layout.Holds`: the value of one field, by that of its member.
-/

namespace Freebox

/-! ## Objects laid over objects -/

namespace Members

/-- An object looks like one that is laid over another one. -/
def Overlays (upper lower whole : Members) : Prop := ∀ key, whole.get? key = (upper.get? key).or (lower.get? key)

/-- An object with its members replaced by those of another one. -/
def overlay (lower upper : Members) : Members := upper.foldl (fun ms m => ms.set m.1 m.2) lower

theorem get?_foldl_set {upper : Members} {key : Text} (absent : key ∉ upper.map Prod.fst) (lower : Members) :
    (lower.overlay upper).get? key = lower.get? key := by
  induction upper generalizing lower with
  | nil => rfl
  | cons m upper ih =>
    rw [List.map_cons, List.mem_cons, not_or] at absent
    have rest := ih absent.2 (lower.set m.1 m.2)
    exact rest.trans (get?_set_of_ne lower m.2 absent.1)

/-- Members with different names replace those of the same names, and no others. -/
theorem overlay_overlays {upper : Members} (distinct : (upper.map Prod.fst).Nodup) (lower : Members) :
    Overlays upper lower (lower.overlay upper) := by
  intro key
  induction upper generalizing lower with
  | nil => rfl
  | cons m upper ih =>
    obtain ⟨name, v⟩ := m
    rw [List.map_cons, List.nodup_cons] at distinct
    show ((lower.set name v).overlay upper).get? key = _
    by_cases here : name = key
    · -- the names behind are others, so what is set first stays
      subst here
      rw [get?_foldl_set distinct.1, get?_set_self]
      simp [get?]
    · rw [ih distinct.2, get?_set_of_ne lower v (Ne.symm here)]
      simp [get?, here]

theorem get?_none {ms : Members} {key : Text} (absent : key ∉ ms.map Prod.fst) : ms.get? key = none := by
  induction ms with
  | nil => rfl
  | cons m ms ih =>
    rw [List.map_cons, List.mem_cons, not_or] at absent
    have other : m.1 ≠ key := fun same => absent.1 same.symm
    simp only [get?, other, if_false]
    exact ih absent.2

theorem get?_mem {ms : Members} (distinct : (ms.map Prod.fst).Nodup) {key : Text} {v : Json} (here : (key, v) ∈ ms) :
    ms.get? key = some v := by
  induction ms with
  | nil => cases here
  | cons m ms ih =>
    obtain ⟨name, w⟩ := m
    rw [List.map_cons, List.nodup_cons] at distinct
    rcases List.mem_cons.mp here with same | later
    · cases same
      simp [get?]
    · have other : name ≠ key := by
        rintro rfl
        exact distinct.1 (List.mem_map.mpr ⟨_, later, rfl⟩)
      simp only [get?, other, if_false]
      exact ih distinct.2 later

theorem mem_of_get? {ms : Members} {key : Text} {v : Json} (found : ms.get? key = some v) : (key, v) ∈ ms := by
  induction ms with
  | nil => cases found
  | cons m ms ih =>
    by_cases here : m.1 = key
    · simp only [get?, here, if_true, Option.some.injEq] at found
      exact List.mem_cons.mpr (Or.inl (Prod.ext here.symm found.symm))
    · simp only [get?, here, if_false] at found
      exact List.mem_cons_of_mem m (ih found)

end Members

/-! ## Records with some fields replaced -/

/-- A record in which the fields that are named by changes have their values, and all others their own. -/
def Record.revised (r : Record) (changes : Members) : Record :=
  ⟨r.fields.map fun m => (m.1, (changes.get? m.1).getD m.2)⟩

/-! ## Records of objects that were changed -/

/-- The fields of a layout have different names and are read from different members. -/
structure Layout.Apart (l : Layout) : Prop where
  names : (l.fields.map Field.name).Nodup
  keys : (l.fields.map Field.key).Nodup

namespace Layout

variable {l : Layout} {ms ms' : Members} {r : Record}

/-- A field of a layout is known by its name, and by its key. -/
theorem Apart.eq_of_name (apart : l.Apart) {f g : Field} (hf : f ∈ l.fields) (hg : g ∈ l.fields)
    (same : (f.name : Text) = g.name) : f = g :=
  List.inj_on_of_nodup_map apart.names hf hg (Text.ofString_inj.mp same)

theorem Apart.eq_of_key (apart : l.Apart) {f g : Field} (hf : f ∈ l.fields) (hg : g ∈ l.fields)
    (same : (f.key : Text) = g.key) : f = g :=
  List.inj_on_of_nodup_map apart.keys hf hg (Text.ofString_inj.mp same)

/-- Every field was read, and is found by its name. -/
theorem decodeFields_get {fs : List Field} (distinct : (fs.map Field.name).Nodup) {fields : Members}
    (h : decodeFields ms fs = .ok fields) {f : Field} (here : f ∈ fs) :
    ∃ v, f.read (ms.get? f.key) = .ok v ∧ fields.get? f.name = some v := by
  induction fs generalizing fields with
  | nil => cases here
  | cons g fs ih =>
    obtain ⟨v, rest, read, decoded, rfl⟩ := decodeFields_cons.mp h
    rw [List.map_cons, List.nodup_cons] at distinct
    rcases List.mem_cons.mp here with rfl | later
    · exact ⟨v, read, by simp [Members.get?]⟩
    · obtain ⟨w, found, there⟩ := ih distinct.2 decoded later
      have other : (g.name : Text) ≠ f.name := by
        intro same
        exact distinct.1 (List.mem_map.mpr ⟨f, later, (Text.ofString_inj.mp same).symm⟩)
      exact ⟨w, found, by simpa [Members.get?, other] using there⟩

/-- A record has the fields of its layout, in order. -/
theorem decodeFields_names {fs : List Field} {fields : Members} (h : decodeFields ms fs = .ok fields) :
    fields.map Prod.fst = fs.map fun f => (f.name : Text) := by
  induction fs generalizing fields with
  | nil =>
    cases h
    rfl
  | cons f fs ih =>
    obtain ⟨v, rest, -, decoded, rfl⟩ := decodeFields_cons.mp h
    rw [List.map_cons, List.map_cons, ih decoded]

/-- The fields of a record have different names. -/
theorem decode_nodup (apart : l.Apart) (h : l.decode (.obj ms) = .ok r) : (r.fields.map Prod.fst).Nodup := by
  obtain ⟨whole, same, fields⟩ := decode_ok h
  have names := apart.names.map (f := Text.ofString) fun _ _ => Text.ofString_inj.mp
  rw [List.map_map] at names
  rw [decodeFields_names fields]
  exact names

/-- A field of a record was read from its member, and is found by its name. -/
theorem decode_found (apart : l.Apart) (h : l.decode (.obj ms) = .ok r) {f : Field} (here : f ∈ l.fields) :
    f.read (ms.get? f.key) = .ok (r.get f.name) ∧ r.fields.get? f.name = some (r.get f.name) := by
  obtain ⟨whole, same, fields⟩ := decode_ok h
  cases same
  obtain ⟨v, read, found⟩ := decodeFields_get apart.names fields here
  have value : r.get f.name = v := by
    unfold Record.get Members.get
    rw [found, Option.getD_some]
  rw [value]
  exact ⟨read, found⟩

/-- **One field** of a record has the value that was read from its member. -/
theorem decode_get (apart : l.Apart) (h : l.decode (.obj ms) = .ok r) {f : Field} (here : f ∈ l.fields) :
    f.read (ms.get? f.key) = .ok (r.get f.name) := (decode_found apart h here).1

/-- What a change of an object does to a field: nothing, or the field is read from the new member. -/
def Changes (ms ms' changes : Members) (f : Field) : Prop :=
  (ms'.get? f.key = ms.get? f.key ∧ changes.get? f.name = none) ∨
    ∃ w, f.read (ms'.get? f.key) = .ok w ∧ changes.get? f.name = some w

theorem decodeFields_revised {changes : Members} {fs : List Field} (each : ∀ f ∈ fs, Changes ms ms' changes f)
    {fields : Members} (h : decodeFields ms fs = .ok fields) :
    decodeFields ms' fs = .ok (fields.map fun m => (m.1, (changes.get? m.1).getD m.2)) := by
  induction fs generalizing fields with
  | nil =>
    cases h
    rfl
  | cons f fs ih =>
    obtain ⟨v, rest, read, decoded, rfl⟩ := decodeFields_cons.mp h
    rw [List.forall_mem_cons] at each
    have others := ih each.2 decoded
    rcases each.1 with ⟨unchanged, unnamed⟩ | ⟨w, changed, named⟩
    · refine decodeFields_cons.mpr ⟨v, _, ?_, others, ?_⟩
      · rw [unchanged]
        exact read
      · simp [unnamed]
    · refine decodeFields_cons.mpr ⟨w, _, changed, others, ?_⟩
      simp [named]

/-- **A record of an object that was changed** is the record as it was, with the changes made to its fields. -/
theorem decode_revised {changes : Members} (each : ∀ f ∈ l.fields, Changes ms ms' changes f)
    (h : l.decode (.obj ms) = .ok r) : l.decode (.obj ms') = .ok (r.revised changes) := by
  obtain ⟨whole, same, fields⟩ := decode_ok h
  cases same
  have decoded := decodeFields_revised each fields
  show (l.ofMembers ms').mapError l.wrap = _
  unfold ofMembers
  rw [decoded]
  rfl

end Layout

/-! ## Settings -/

/-- What is set on a field: the value that is sent for it, and the value that it is to have. Null is unset. -/
structure Setting where
  field : Field
  sent : Json
  meant : Json

namespace Setting

/-- A setting is unset, or what is sent for its field is read as what the field is to have. -/
def Fits (s : Setting) : Prop :=
  (s.sent = .null ∧ s.meant = .null) ∨ (s.sent ≠ .null ∧ s.meant ≠ .null ∧ s.field.read (some s.sent) = .ok s.meant)

/-- The members that are sent for settings. -/
def sentMembers (ss : List Setting) : Members := Members.withoutNulls (ss.map fun s => ((s.field.key : Text), s.sent))

/-- The values that fields are to have. -/
def meantMembers (ss : List Setting) : Members :=
  Members.withoutNulls (ss.map fun s => ((s.field.name : Text), s.meant))

end Setting

namespace Members

/-- Names stay different without nulls. -/
theorem withoutNulls_nodup {ms : Members} (distinct : (ms.map Prod.fst).Nodup) :
    (ms.withoutNulls.map Prod.fst).Nodup := distinct.sublist (List.filter_sublist.map Prod.fst)

/-- A member that is not null is still there without nulls, and one that is null is not. -/
theorem get?_withoutNulls {ms : Members} (distinct : (ms.map Prod.fst).Nodup) {key : Text} {v : Json}
    (here : (key, v) ∈ ms) : ms.withoutNulls.get? key = if v = .null then none else some v := by
  by_cases unset : v = .null
  · rw [if_pos unset]
    apply get?_none
    intro there
    obtain ⟨⟨name, w⟩, kept, same⟩ := List.mem_map.mp there
    obtain ⟨member, set⟩ := List.mem_filter.mp kept
    obtain rfl : name = key := same
    -- there is one member of this name, so what was kept is the null itself
    have value : some w = some v := (get?_mem distinct member).symm.trans (get?_mem distinct here)
    cases value
    simp [unset] at set
  · rw [if_neg unset]
    exact get?_mem (withoutNulls_nodup distinct) (List.mem_filter.mpr ⟨here, by simpa using unset⟩)

end Members

namespace Setting

variable {l : Layout} {ss : List Setting}

/-- Settings are on some of the fields of a layout, each on one of its own. -/
structure On (l : Layout) (ss : List Setting) : Prop where
  fields : ∀ s ∈ ss, s.field ∈ l.fields
  keys : (ss.map fun s => s.field.key).Nodup
  fits : ∀ s ∈ ss, s.Fits

theorem On.sent_nodup (on : On l ss) :
    ((ss.map fun s => ((s.field.key : Text), s.sent)).map Prod.fst).Nodup := by
  have distinct := on.keys.map (f := Text.ofString) fun _ _ => Text.ofString_inj.mp
  rwa [List.map_map] at distinct ⊢

/-- Different members are those of different fields, and these have different names. -/
theorem On.meant_nodup (on : On l ss) (apart : l.Apart) :
    ((ss.map fun s => ((s.field.name : Text), s.meant)).map Prod.fst).Nodup := by
  have fields : (ss.map Setting.field).Nodup := by
    have keys := on.keys
    have parted : (ss.map fun s => s.field.key) = (ss.map Setting.field).map Field.key := by rw [List.map_map]; rfl
    rw [parted] at keys
    exact keys.of_map
  have names : ((ss.map Setting.field).map fun f => (f.name : Text)).Nodup := by
    refine fields.map_on ?_
    intro f hf g hg same
    obtain ⟨s, hs, rfl⟩ := List.mem_map.mp hf
    obtain ⟨t, ht, rfl⟩ := List.mem_map.mp hg
    exact apart.eq_of_name (on.fields s hs) (on.fields t ht) same
  rwa [List.map_map] at names ⊢

/-- What settings do to a field of their layout. -/
theorem On.changes (on : On l ss) (apart : l.Apart) {ms ms' : Members}
    (laid : Members.Overlays (sentMembers ss) ms ms') {f : Field} (here : f ∈ l.fields) :
    Layout.Changes ms ms' (meantMembers ss) f := by
  unfold Layout.Changes
  rw [laid f.key]
  by_cases set : ∃ s ∈ ss, s.field = f
  · obtain ⟨s, hs, rfl⟩ := set
    have sent : (sentMembers ss).get? s.field.key = if s.sent = .null then none else some s.sent :=
      Members.get?_withoutNulls on.sent_nodup (List.mem_map.mpr ⟨s, hs, rfl⟩)
    have meant : (meantMembers ss).get? s.field.name = if s.meant = .null then none else some s.meant :=
      Members.get?_withoutNulls (on.meant_nodup apart) (List.mem_map.mpr ⟨s, hs, rfl⟩)
    rcases on.fits s hs with ⟨unsent, unmeant⟩ | ⟨is_sent, is_meant, read⟩
    · rw [if_pos unsent] at sent
      rw [if_pos unmeant] at meant
      exact Or.inl ⟨by rw [sent, Option.none_or], meant⟩
    · rw [if_neg is_sent] at sent
      rw [if_neg is_meant] at meant
      exact Or.inr ⟨s.meant, by rw [sent, Option.some_or, read], meant⟩
  · -- neither the key nor the name of the field is that of a setting
    have unsent : (sentMembers ss).get? f.key = none := by
      apply Members.get?_none
      intro there
      obtain ⟨m, kept, same⟩ := List.mem_map.mp there
      obtain ⟨s, hs, rfl⟩ := List.mem_map.mp (List.mem_of_mem_filter kept)
      exact set ⟨s, hs, apart.eq_of_key (on.fields s hs) here same⟩
    have unmeant : (meantMembers ss).get? f.name = none := by
      apply Members.get?_none
      intro there
      obtain ⟨m, kept, same⟩ := List.mem_map.mp there
      obtain ⟨s, hs, rfl⟩ := List.mem_map.mp (List.mem_of_mem_filter kept)
      exact set ⟨s, hs, apart.eq_of_name (on.fields s hs) here same⟩
    exact Or.inl ⟨by rw [unsent, Option.none_or], unmeant⟩

/-- What is sent and what is meant are settings of the same names. -/
theorem On.names (on : On l ss) (own : ∀ f ∈ l.fields, f.key = f.name) :
    (sentMembers ss).map Prod.fst = (meantMembers ss).map Prod.fst := by
  have fields := on.fields
  have fits := on.fits
  clear on
  unfold sentMembers meantMembers Members.withoutNulls
  induction ss with
  | nil => rfl
  | cons s ss ih =>
    rw [List.forall_mem_cons] at fields fits
    have rest := ih fields.2 fits.2
    rcases fits.1 with ⟨unsent, unmeant⟩ | ⟨is_sent, is_meant, -⟩
    · simpa [unsent, unmeant] using rest
    · simpa [is_sent, is_meant, own s.field fields.1] using rest

end Setting

/-! ## Payloads that change records -/

/-- A payload changes the records of a layout: it has a member for each change and no others, and an object whose
members it replaces is read as the record that it was read as before, with the changes made to its fields. -/
structure Layout.Revises (l : Layout) (payload changes : Members) : Prop where
  names : payload.map Prod.fst = changes.map Prod.fst
  known : ∀ name ∈ changes.map Prod.fst, ∃ f ∈ l.fields, (f.name : Text) = name
  decodes : ∀ (ms : Members) (r : Record),
    l.decode (.obj ms) = .ok r → l.decode (.obj (ms.overlay payload)) = .ok (r.revised changes)

/-- **Settings** on the fields of a layout change its records. -/
theorem Layout.revises_of_settings {l : Layout} {ss : List Setting} (apart : l.Apart)
    (own : ∀ f ∈ l.fields, f.key = f.name) (on : Setting.On l ss) :
    l.Revises (Setting.sentMembers ss) (Setting.meantMembers ss) where
  names := on.names own
  known := by
    intro name there
    obtain ⟨m, kept, rfl⟩ := List.mem_map.mp there
    obtain ⟨s, hs, rfl⟩ := List.mem_map.mp (List.mem_of_mem_filter kept)
    exact ⟨s.field, on.fields s hs, rfl⟩
  decodes := by
    intro ms r h
    have laid := Members.overlay_overlays (Members.withoutNulls_nodup on.sent_nodup) ms
    exact decode_revised (fun f here => on.changes apart laid here) h

/-! ## Values of one field -/

/-- A field holds a value wherever its member is another one: that is what the record has there, and the member keeps no
object from being read that can be read with a null in its place. -/
def Layout.Holds (l : Layout) (name : String) (sent meant : Json) : Prop :=
  ∀ ms : Members, ms.get? name = some sent →
    (∀ r, l.decode (.obj ms) = .ok r → r.get name = meant) ∧
      ∀ r, l.decode (.obj (ms.set name .null)) = .ok r → l.decode (.obj ms) = .ok (r.revised [((name : Text), meant)])

theorem Layout.holds_of_read {l : Layout} {f : Field} {sent meant : Json} (apart : l.Apart) (here : f ∈ l.fields)
    (own : f.key = f.name) (read : f.read (some sent) = .ok meant) : l.Holds f.name sent meant := by
  intro ms member
  rw [← own] at member
  constructor
  · intro r h
    have value := decode_get apart h here
    rw [member, read] at value
    exact (Except.ok.inj value).symm
  · intro r h
    refine decode_revised (fun g there => ?_) h
    by_cases same : g = f
    · subst same
      exact Or.inr ⟨meant, by rw [member, read], by simp [Members.get?]⟩
    · -- another field has another key and another name
      have key : (g.key : Text) ≠ f.name := by
        rw [← own]
        exact fun k => same (apart.eq_of_key there here k)
      have name : (f.name : Text) ≠ g.name := fun n => same (apart.eq_of_name here there n).symm
      exact Or.inl ⟨(Members.get?_set_of_ne ms _ key).symm, by simp [Members.get?, name]⟩

end Freebox
