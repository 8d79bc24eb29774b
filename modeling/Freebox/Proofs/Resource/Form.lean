import Freebox.Proofs.Resource.Path
import Freebox.Proofs.Text.Split

/-!
# `Freebox.Proofs.Resource.Form` — what a form tells about a request for downloads

The fields of a form are found by their names, and each tells one part of the request: a path by its base64, a truth
value by a word, everything else by itself. Only the addresses are not told one by one: several are the lines of one
text, so one of several that has a line break looks like two of them.

## Contents
- `joined`, `linesOf`, `addressName`, `addressField_str`: the field that holds the addresses.
- `joined_inj`, `Separable`, `separable_iff`: which addresses have the same lines, and which are found again by them.
- `DownloadRequest.textFields`, `DownloadRequest.told`, `DownloadRequest.form_str`: the fields of a form.
  `DownloadRequest.told_get?`, `DownloadRequest.told_addresses`: what is in them.
- `DownloadRequest.Tells`, `DownloadRequest.told_tells`, `DownloadRequest.Tells.alike`: what they tell beside the
  addresses.
- `addresses?`, `addresses?_told`, `DownloadRequest.told_same`, `told_twice`: what is read from a form, and which
  requests have the same.
- `downloads_told`: all of it.
-/

namespace Freebox.Resource

/-! ## The field of the addresses -/

section
variable {ts us : List Text}

theorem addressTexts_str (i : Nat) (ts : List Text) : addressTexts i (ts.map .str) = .ok ts := by
  induction ts generalizing i with
  | nil => rfl
  | cons t ts ih =>
    show (addressTexts (i + 1) (ts.map .str)).map (t :: ·) = _
    rw [ih]
    rfl

/-- Addresses as the lines of one text. -/
def joined (ts : List Text) : Text := Text.intercalate "\n" ts

/-- The lines of addresses. -/
def linesOf (ts : List Text) : List Text := ts.flatMap (Text.split '\n')

/-- The name of the field that holds addresses. -/
def addressName (ts : List Text) : Text := if ts.length = 1 then "download_url" else "download_url_list"

/-- Addresses are held by one field. One address is the only line of itself, so it is told by itself. -/
theorem addressField_str (some_url : ts ≠ []) : addressField (ts.map .str) = .ok (addressName ts, .str (joined ts)) := by
  match ts, some_url with
  | [t], _ => rfl
  | t :: u :: ts, _ =>
    show (addressTexts 0 ((t :: u :: ts).map .str)).map _ = _
    rw [addressTexts_str]
    rfl

theorem split_joined (some_url : ts ≠ []) : (joined ts).split '\n' = linesOf ts := by
  induction ts with
  | nil => exact absurd rfl some_url
  | cons t ts ih =>
    cases ts with
    | nil => exact (List.append_nil _).symm
    | cons u ts =>
      -- the line break between the addresses takes them apart, and others stay in their own address
      have behind := ih (List.cons_ne_nil u ts)
      show (t ++ Text.singleton (.char '\n') ++ joined (u :: ts)).split '\n' = _
      rw [Text.split_append, behind]
      rfl

theorem joined_linesOf (some_url : ts ≠ []) : joined (linesOf ts) = joined ts := by
  rw [← split_joined some_url]
  exact Text.intercalate_split '\n' (joined ts)

/-- Addresses are joined to the same text exactly if they have the same lines. -/
theorem joined_inj (some_url : ts ≠ []) (others : us ≠ []) : joined us = joined ts ↔ linesOf us = linesOf ts := by
  constructor
  · intro same
    rw [← split_joined others, ← split_joined some_url, same]
  · intro same
    rw [← joined_linesOf others, ← joined_linesOf some_url, same]

theorem addressName_inj : addressName us = addressName ts ↔ (us.length = 1 ↔ ts.length = 1) := by
  have apart : ("download_url" : Text) ≠ "download_url_list" := by decide
  unfold addressName
  by_cases one : us.length = 1 <;> by_cases other_one : ts.length = 1 <;> simp [one, other_one, apart, apart.symm]

/-- There is one address, or none of several has a line break. -/
def Separable (ts : List Text) : Prop := ts.length = 1 ∨ ∀ t ∈ ts, Letter.char '\n' ∉ t.letters

/-- The lines of several addresses are these addresses exactly if none of them has a line break. -/
theorem separable_iff (some_url : ts ≠ []) : Separable ts ↔ (ts.length ≠ 1 → linesOf ts = ts) := by
  have found : linesOf ts = ts ↔ ∀ t ∈ ts, Letter.char '\n' ∉ t.letters := by
    rw [← split_joined some_url]
    exact Text.split_intercalate some_url
  unfold Separable
  rw [found, Decidable.or_iff_not_imp_left]

/-- Addresses that are found again are the same if they have the same lines, one or several. -/
theorem Separable.eq_of_lines (separable : Separable ts) (others : Separable us) (some_url : ts ≠ [])
    (some_other : us ≠ []) (count : us.length = 1 ↔ ts.length = 1) (same : linesOf us = linesOf ts) : us = ts := by
  by_cases one : ts.length = 1
  · obtain ⟨t, rfl⟩ := List.length_eq_one_iff.mp one
    obtain ⟨u, rfl⟩ := List.length_eq_one_iff.mp (count.mpr one)
    have url : u = t := (joined_inj some_url some_other).mpr same
    rw [url]
  · have found := (separable_iff some_url).mp separable one
    have found_there := (separable_iff some_other).mp others fun other_one => one (count.mp other_one)
    rw [← found_there, same, found]

/-- Every address has some line. -/
theorem length_le_linesOf (ts : List Text) : ts.length ≤ (linesOf ts).length := by
  induction ts with
  | nil => exact Nat.le_refl 0
  | cons t ts ih =>
    have some_line : 0 < (t.split '\n').length := List.length_pos_iff.mpr (Text.split_ne_nil '\n' t)
    show ts.length + 1 ≤ (t.split '\n' ++ linesOf ts).length
    rw [List.length_append]
    omega

/-- The lines of several addresses are several addresses without line breaks. -/
theorem linesOf_several (several : 2 ≤ ts.length) : 2 ≤ (linesOf ts).length ∧ Separable (linesOf ts) := by
  refine ⟨Nat.le_trans several (length_le_linesOf ts), Or.inr fun line here => ?_⟩
  obtain ⟨t, -, there⟩ := List.mem_flatMap.mp here
  exact Text.not_mem_of_mem_split there

end

/-! ## The fields of a form -/

namespace DownloadRequest

/-- The fields that are told by their own text. -/
def textFields : List (Text × (DownloadRequest → Option String)) :=
  [("filename", filename), ("hash", hash), ("username", username), ("password", password),
   ("archive_password", archivePassword), ("cookies", cookies)]

/-- The fields of a form, the unset ones as nulls. -/
def fields (d : DownloadRequest) (addresses : Text × Json) : Members :=
  ("download_dir", ofPath? d.directory)
    :: (textFields.map (fun f => (f.1, .ofString? (f.2 d))) ++ [addresses, ("recursive", formFlag d.recursive)])

/-- The form of a request with such addresses. -/
def told (d : DownloadRequest) (ts : List Text) : Members :=
  (d.fields (addressName ts, .str (joined ts))).withoutNulls

variable {d e : DownloadRequest} {ts us : List Text} {key : Text}

theorem form_str (urls : d.urls = ts.map .str) (some_url : ts ≠ []) : d.form = .ok (d.told ts) := by
  unfold form
  rw [urls, addressField_str some_url]
  rfl

/-- The names of the fields. -/
def names (ts : List Text) : List Text :=
  ["download_dir", "filename", "hash", "username", "password", "archive_password", "cookies", addressName ts,
   "recursive"]

theorem names_nodup (ts : List Text) : (names ts).Nodup := by
  unfold names addressName
  split <;> decide

/-- A field is found by its name if it is set. -/
theorem told_get? {v : Json} (here : (key, v) ∈ d.fields (addressName ts, .str (joined ts))) :
    (d.told ts).get? key = if v = .null then none else some v := by
  have distinct : ((d.fields (addressName ts, .str (joined ts))).map Prod.fst).Nodup := names_nodup ts
  exact Members.get?_withoutNulls distinct here

theorem told_absent (absent : key ∉ names ts) : (d.told ts).get? key = none :=
  Members.get?_none fun there => absent ((List.filter_sublist.map Prod.fst).mem there)

/-- One address is told by one field, several are told by another one. -/
theorem told_addresses (d : DownloadRequest) (ts : List Text) :
    (d.told ts).get? "download_url" = (if ts.length = 1 then some (.str (joined ts)) else none) ∧
      (d.told ts).get? "download_url_list" = (if ts.length = 1 then none else some (.str (joined ts))) := by
  have member : (addressName ts, .str (joined ts)) ∈ d.fields (addressName ts, .str (joined ts)) := by simp [fields]
  have here : (d.told ts).get? (addressName ts) = some (.str (joined ts)) := told_get? member
  -- of the two names one is that of the field, and the other is not there
  have absent := @told_absent d ts
  unfold names addressName at absent
  unfold addressName at here
  by_cases one : ts.length = 1 <;> simp only [one, if_true, if_false] at here absent ⊢
  · exact ⟨here, absent (by decide)⟩
  · exact ⟨absent (by decide), here⟩

/-! ## What a form tells -/

/-- A form tells everything of a request but its addresses, and nothing is told of what is unset. -/
structure Tells (d : DownloadRequest) (form : Members) : Prop where
  directory : (form.get? "download_dir").map Path.decodeValue = d.directory.map fun p => .ok (some p)
  texts : ∀ f ∈ textFields, form.get? f.1 = (f.2 d).map fun t : String => .str t
  recursive : form.get? "recursive" = d.recursive.map fun b => .str (if b then "true" else "false" : String)

/-- Requests that differ at most in their addresses. -/
def Alike (d e : DownloadRequest) : Prop := { d with urls := e.urls } = e

theorem told_tells (d : DownloadRequest) (ts : List Text) : d.Tells (d.told ts) where
  directory := by
    have here : (("download_dir" : Text), ofPath? d.directory) ∈ d.fields (addressName ts, .str (joined ts)) := by
      simp [fields]
    rw [told_get? here]
    cases d.directory with
    | none => simp [ofPath?]
    | some p => simp [ofPath?, Path.decodeValue_encode]
  texts := by
    intro f field
    have here : (f.1, Json.ofString? (f.2 d)) ∈ d.fields (addressName ts, .str (joined ts)) := by
      refine List.mem_cons_of_mem _ (List.mem_append_left _ ?_)
      exact List.mem_map.mpr ⟨f, field, rfl⟩
    rw [told_get? here]
    cases f.2 d <;> simp [Json.ofString?]
  recursive := by
    have here : (("recursive" : Text), formFlag d.recursive) ∈ d.fields (addressName ts, .str (joined ts)) := by
      simp [fields]
    rw [told_get? here]
    rcases d.recursive with _ | _ | _ <;> simp [formFlag]

/-- Forms that are read alike tell the same. -/
theorem Tells.alike {f g : Members} (first : d.Tells f) (second : e.Tells g) (same : ∀ key, f.get? key = g.get? key) :
    d.Alike e := by
  have directory : d.directory = e.directory := by
    have told := first.directory.symm.trans ((congrArg (Option.map Path.decodeValue) (same _)).trans second.directory)
    exact Option.map_injective (fun p q same => by simpa using same) told
  have texts : ∀ f ∈ textFields, f.2 d = f.2 e := by
    intro f field
    have told := (first.texts f field).symm.trans ((same _).trans (second.texts f field))
    exact Option.map_injective (fun s t same => by simpa using same) told
  have recursive : d.recursive = e.recursive := by
    have told := first.recursive.symm.trans ((same _).trans second.recursive)
    exact Option.map_injective (fun b c same => by cases b <;> cases c <;> simp_all) told
  -- the fields are all there are beside the addresses
  cases d
  cases e
  simp_all [textFields, Alike]

/-! ## What is read from a form -/

/-- Forms are the same exactly if the requests differ at most in their addresses, and these have the same lines. -/
theorem told_same (some_url : ts ≠ []) (others : us ≠ []) :
    (∀ key, (e.told us).get? key = (d.told ts).get? key) ↔
      e.Alike d ∧ (us.length = 1 ↔ ts.length = 1) ∧ linesOf us = linesOf ts := by
  constructor
  · intro same
    obtain ⟨url, list⟩ := told_addresses d ts
    obtain ⟨other_url, other_list⟩ := told_addresses e us
    have urls := other_url.symm.trans ((same _).trans url)
    have lists := other_list.symm.trans ((same _).trans list)
    refine ⟨(told_tells e us).alike (told_tells d ts) same, ?_⟩
    -- which of the two fields is there tells whether there is one address, and that field tells the text
    rw [← joined_inj some_url others]
    by_cases one : ts.length = 1 <;> by_cases other_one : us.length = 1 <;> simp_all
  · rintro ⟨alike, count, lines⟩ key
    have fields : e.told us = d.told ts := by
      rw [← alike]
      unfold told
      rw [addressName_inj.mpr count, (joined_inj some_url others).mpr lines]
      rfl
    rw [fields]

end DownloadRequest

/-- The addresses that are read from a form: the one, or the lines of the several. -/
def addresses? (form : Members) : Option (List Text) :=
  match form.get? "download_url", form.get? "download_url_list" with
  | some (.str url), none => some [url]
  | none, some (.str lines) => some (lines.split '\n')
  | _, _ => none

open DownloadRequest

variable {d : DownloadRequest} {ts : List Text}

theorem addresses?_told (some_url : ts ≠ []) : addresses? (d.told ts) = some ts ↔ Separable ts := by
  obtain ⟨url, list⟩ := told_addresses d ts
  unfold addresses?
  rw [url, list, separable_iff some_url]
  by_cases one : ts.length = 1
  · obtain ⟨t, rfl⟩ := List.length_eq_one_iff.mp one
    simp [joined, Text.intercalate]
  · simp [one, split_joined some_url]

/-- Several addresses that are not found again have the form of other addresses, which are. -/
theorem told_twice (urls : d.urls = ts.map .str) (some_url : ts ≠ []) (broken : ¬ Separable ts) :
    ∃ e us, e ≠ d ∧ e.urls = us.map .str ∧ us ≠ [] ∧ Separable us ∧ e.form = .ok (d.told ts) := by
  have several : 2 ≤ ts.length := by
    have some_length : 0 < ts.length := List.length_pos_iff.mpr some_url
    have not_one : ts.length ≠ 1 := fun one => broken (Or.inl one)
    omega
  obtain ⟨some_lines, separable⟩ := linesOf_several several
  have lines_there : linesOf ts ≠ [] := List.length_pos_iff.mp (by omega)
  refine ⟨{ d with urls := (linesOf ts).map .str }, linesOf ts, ?other, rfl, lines_there, separable, ?form⟩
  case other =>
    intro same
    have urls_same : (linesOf ts).map Json.str = ts.map .str := (congrArg DownloadRequest.urls same).trans urls
    have lines : linesOf ts = ts := List.map_injective_iff.mpr (fun s t same => by simpa using same) urls_same
    rw [lines] at separable
    exact broken separable
  case form =>
    rw [form_str rfl lines_there]
    unfold told
    have count : (linesOf ts).length = 1 ↔ ts.length = 1 := by omega
    rw [joined_linesOf some_url, addressName_inj.mpr count]
    rfl

/-! ## All of it -/

/-- **A form tells a request for downloads** that has some address. Everything but the addresses is told by a field of
its own, and nothing is told of what is unset. One address is told by itself, several are told by another field, as
lines. They are read as they were given exactly if there is one, or none of them has a line break; between such
requests, different ones have different forms. In general two requests have the same form exactly if they differ at
most in several addresses that have the same lines, and for each request whose addresses are not read as they were
given there is another one of the same form. -/
theorem downloads_told (urls : d.urls = ts.map .str) (some_url : ts ≠ []) :
    ∃ form, d.form = .ok form ∧ d.Tells form ∧ (∀ key, form.get? key ≠ none → key ∈ names ts) ∧
      (form.get? "download_url" ≠ none ↔ ts.length = 1) ∧ (form.get? "download_url_list" ≠ none ↔ ts.length ≠ 1) ∧
      (addresses? form = some ts ↔ Separable ts) ∧
      (∀ e us other, e.urls = us.map .str → us ≠ [] → e.form = .ok other →
        ((∀ key, other.get? key = form.get? key) ↔
          e.Alike d ∧ (us.length = 1 ↔ ts.length = 1) ∧ linesOf us = linesOf ts) ∧
        (Separable ts → Separable us → (∀ key, other.get? key = form.get? key) → e = d)) ∧
      (¬ Separable ts → ∃ e us, e ≠ d ∧ e.urls = us.map .str ∧ us ≠ [] ∧ Separable us ∧ e.form = .ok form) := by
  obtain ⟨url, list⟩ := told_addresses d ts
  refine ⟨d.told ts, form_str urls some_url, told_tells d ts, ?names, ?one, ?several, addresses?_told some_url, ?same,
    told_twice urls some_url⟩
  case names =>
    intro key there
    by_contra absent
    exact there (told_absent absent)
  case one => simp [url]
  case several => simp [list]
  case same =>
    intro e us other other_urls some_other formed
    rw [form_str other_urls some_other] at formed
    obtain rfl := Except.ok.inj formed
    refine ⟨told_same some_url some_other, fun separable others same => ?_⟩
    obtain ⟨alike, count, lines⟩ := (told_same some_url some_other).mp same
    obtain rfl := separable.eq_of_lines others some_url some_other count lines
    rw [← alike, urls, ← other_urls]

/-- Two addresses are told by the form of a request. -/
theorem downloads_told_two :
    let ts : List Text := ["http://a/1", "http://a/2"]
    let d : DownloadRequest := { urls := ts.map .str, directory := some "/Freebox", recursive := some true }
    (d.urls = ts.map .str ∧ ts ≠ []) ∧ ∃ form, d.form = .ok form ∧ d.Tells form ∧ addresses? form = some ts := by
  intro ts d
  have urls : d.urls = ts.map .str := rfl
  have some_url : ts ≠ [] := by decide
  obtain ⟨form, formed, tells, -, -, -, found, -⟩ := downloads_told urls some_url
  exact ⟨⟨urls, some_url⟩, form, formed, tells, found.mpr (Or.inr (by decide))⟩

/-- **Two addresses look like three**: the first of them has a line break. -/
theorem broken_address_confused :
    let d : DownloadRequest := { urls := [.str "http://a/1\nhttp://b/2", .str "http://c/3"] }
    let e : DownloadRequest := { urls := [.str "http://a/1", .str "http://b/2", .str "http://c/3"] }
    d ≠ e ∧ d.form = e.form ∧
      d.form.map addresses? = .ok (some ["http://a/1", "http://b/2", "http://c/3"]) := by
  decide +kernel

end Freebox.Resource
