import Freebox.Json.Reader
import Freebox.Proofs.Text.Split
import Freebox.Text.Utf8

/-!
# `Freebox.Proofs.Network.Segment` — the segments of an address

The path of an address ends at a question mark or a number sign, and solidi part it into segments. A segment names a
text if its letters stand for the octets of that text, where two hexadecimal digits behind a percent sign tell an octet.
A text that is put into an address as it is, is a segment that names it exactly if none of this gets in its way.

## Contents
- `Text.path`, `Text.segments`, `Text.Uncut`: what is read as the path of an address, and its segments.
- `Text.segments_behind`, `Text.segments_cut`: the segments of an address that goes on.
- `Text.resolve`, `Text.octets`, `Text.hasEscape`: what letters stand for. `Text.resolve_shorter`: escapes are shorter.
- `Text.Names`, `Text.Plain`: segments that name texts, and texts that name themselves.
- `Text.Under`, `Text.under_iff`: texts as segments of addresses.
-/

namespace Freebox.Text

/-! ## Segments -/

/-- The letters that end the path of an address. -/
def endsPath (l : Letter) : Bool := l == .char '?' || l == .char '#'

/-- The path of an address. -/
def path (t : Text) : Text := ⟨t.letters.takeWhile (!endsPath ·)⟩

/-- The segments of the path of an address. -/
def segments (t : Text) : List Text := t.path.split '/'

/-- No letter ends the path. -/
def Uncut (t : Text) : Prop := ∀ l ∈ t.letters, endsPath l = false

instance (t : Text) : Decidable t.Uncut := by unfold Uncut; infer_instance

section
variable {s t : Text}

theorem path_append (uncut : s.Uncut) (t : Text) : (s ++ t).path = s ++ t.path := by
  have passed : ∀ l ∈ s.letters, (!endsPath l) = true := fun l here => by rw [uncut l here]; rfl
  exact congrArg mk (List.takeWhile_append_of_pos passed)

theorem path_eq_self : t.path = t ↔ t.Uncut := by
  constructor
  · intro whole l here
    have letters : t.letters.takeWhile (!endsPath ·) = t.letters := congrArg letters whole
    rw [← letters] at here
    simpa using List.all_eq_true.mp List.all_takeWhile l here
  · intro uncut
    have nothing : t ++ (⟨[]⟩ : Text) = t := congrArg mk (List.append_nil t.letters)
    have passed := path_append uncut ⟨[]⟩
    rwa [nothing, show path ⟨[]⟩ = ⟨[]⟩ from rfl, nothing] at passed

/-- What is behind the end of the path does not matter. -/
theorem path_cut (cut : ¬ s.Uncut) (t : Text) : (s ++ t).path = s.path := by
  have short : (s.letters.takeWhile (!endsPath ·)).length ≠ s.letters.length := by
    intro whole
    have same := (List.takeWhile_prefix (!endsPath ·)).eq_of_length whole
    exact cut (path_eq_self.mp (congrArg mk same))
  have letters : (s ++ t).letters = s.letters ++ t.letters := rfl
  unfold path
  rw [letters, List.takeWhile_append, if_neg short]

/-- Behind a solidus the segments go on. -/
theorem segments_behind (uncut : s.Uncut) (t : Text) :
    (s ++ singleton (.char '/') ++ t).segments = s.segments ++ t.segments := by
  have solidus : (s ++ singleton (.char '/')).Uncut := by
    intro l here
    rcases List.mem_append.mp here with before | last
    · exact uncut l before
    · obtain rfl := List.mem_singleton.mp last
      rfl
  unfold segments
  rw [path_append solidus, split_append, path_eq_self.mpr uncut]

theorem segments_cut (cut : ¬ s.Uncut) (t : Text) : (s ++ t).segments = s.segments := by
  unfold segments
  rw [path_cut cut]

end

/-! ## What letters stand for -/

/-- The octets of letters. -/
def octets (ls : List Letter) : Bytes := ls.flatMap fun l => Utf8.encodeNat l.code

/-- The octets that letters stand for in an address. Two hexadecimal digits behind a percent sign tell an octet. -/
def resolve : List Letter → Bytes
  | .char '%' :: a :: b :: ls =>
    match Json.hexValue? a, Json.hexValue? b with
    | some h, some l => UInt8.ofNat (16 * h + l) :: resolve ls
    | _, _ => Utf8.encodeNat (Letter.char '%').code ++ resolve (a :: b :: ls)
  | l :: ls => Utf8.encodeNat l.code ++ resolve ls
  | [] => []

/-- Somewhere two hexadecimal digits are behind a percent sign. -/
def hasEscape : List Letter → Bool
  | .char '%' :: a :: b :: ls => (Json.hexValue? a).isSome && (Json.hexValue? b).isSome || hasEscape (a :: b :: ls)
  | _ :: ls => hasEscape ls
  | [] => false

theorem encodeNat_length_pos (n : Nat) : 0 < (Utf8.encodeNat n).length := by
  unfold Utf8.encodeNat
  split
  · exact Nat.one_pos
  · split
    · exact Nat.two_pos
    · split <;> exact Nat.succ_pos _

theorem octets_cons (l : Letter) (ls : List Letter) : octets (l :: ls) = Utf8.encodeNat l.code ++ octets ls := rfl

theorem octets_append (ks ls : List Letter) : octets (ks ++ ls) = octets ks ++ octets ls := List.flatMap_append

theorem length_le_octets (ls : List Letter) : ls.length ≤ (octets ls).length := by
  induction ls with
  | nil => exact Nat.le_refl 0
  | cons l ls ih =>
    have some_octet := encodeNat_length_pos l.code
    rw [octets_cons, List.length_append, List.length_cons]
    omega

/-- Octets in front of both do not matter. -/
theorem fewer_behind {escaped : Bool} {short full : Bytes} (front : Bytes)
    (h : if escaped then short.length < full.length else short = full) :
    if escaped then (front ++ short).length < (front ++ full).length else front ++ short = front ++ full := by
  cases escaped with
  | false => exact congrArg (front ++ ·) h
  | true =>
    rw [if_pos rfl] at h ⊢
    rw [List.length_append, List.length_append]
    exact Nat.add_lt_add_left h front.length

/-- Letters with escapes stand for fewer octets than their own, all others for their own. -/
theorem resolve_octets (ls : List Letter) :
    if hasEscape ls then (resolve ls).length < (octets ls).length else resolve ls = octets ls := by
  induction ls using resolve.induct with
  | case1 a b ls h l low high ih =>
    -- three letters have at least as many octets, and one is told
    have escaped : hasEscape (.char '%' :: a :: b :: ls) = true := by simp [hasEscape, high, low]
    have told : resolve (.char '%' :: a :: b :: ls) = UInt8.ofNat (16 * h + l) :: resolve ls := by
      simp [resolve, high, low]
    have at_most : (resolve ls).length ≤ (octets ls).length := by
      split at ih
      · exact Nat.le_of_lt ih
      · exact Nat.le_of_eq (congrArg List.length ih)
    have percent := encodeNat_length_pos (Letter.char '%').code
    have first := encodeNat_length_pos a.code
    rw [if_pos escaped, told]
    simp only [octets_cons, List.length_append, List.length_cons]
    omega
  | case2 a b ls no_digits ih =>
    have unescaped : hasEscape (.char '%' :: a :: b :: ls) = hasEscape (a :: b :: ls) := by
      cases high : Json.hexValue? a with
      | none => simp [hasEscape, high]
      | some h =>
        cases low : Json.hexValue? b with
        | none => simp [hasEscape, high, low]
        | some l => exact (no_digits h l high low).elim
    have told : resolve (.char '%' :: a :: b :: ls)
        = Utf8.encodeNat (Letter.char '%').code ++ resolve (a :: b :: ls) := by
      rw [resolve]
      split
      · next h l high low => exact (no_digits h l high low).elim
      · rfl
    rw [unescaped, told, octets_cons]
    exact fewer_behind _ ih
  | case3 l ls plain ih =>
    rw [octets_cons, resolve, hasEscape]
    · exact fewer_behind _ ih
    · exact plain
    · exact plain
  | case4 => rfl

/-! ## Texts as segments -/

/-- A segment names a text. -/
def Names (segment given : Text) : Prop := resolve segment.letters = octets given.letters

/-- A text is a segment that names itself. -/
structure Plain (t : Text) : Prop where
  some_letter : t ≠ ""
  not_here : t ≠ "."
  not_above : t ≠ ".."
  undivided : .char '/' ∉ t.letters
  uncut : t.Uncut
  unescaped : hasEscape t.letters = false

/-- A text that starts by a segment that names it, is that segment, and has no escape. -/
theorem Names.eq_of_start {segment given : Text} (names : segment.Names given)
    (front : segment.letters <+: given.letters) : segment = given ∧ hasEscape given.letters = false := by
  obtain ⟨rest, letters⟩ := front
  have told : resolve segment.letters = octets segment.letters ++ octets rest := by
    rw [← octets_append, letters]
    exact names
  -- what is told has at least the octets of the segment, so there is no escape in it, and nothing behind it
  have read := resolve_octets segment.letters
  rw [told, List.length_append] at read
  split at read
  · omega
  · next unescaped =>
    have none_left : rest = [] := by
      have empty : octets rest = [] := by simpa using read
      have at_most := length_le_octets rest
      rw [empty] at at_most
      exact List.length_eq_zero_iff.mp (Nat.le_zero.mp at_most)
    subst none_left
    rw [List.append_nil] at letters
    rw [← letters]
    exact ⟨congrArg mk letters, by simpa using unescaped⟩

theorem Plain.names {t : Text} (plain : t.Plain) : t.Names t := by
  have read := resolve_octets t.letters
  rw [plain.unescaped] at read
  exact read

/-- An address has the segments of a base and of a front, one more that names a text, and some behind that. -/
def Under (base front given : Text) (behind : List Text) (url : Text) : Prop :=
  ∃ x : Text, url.segments = base.segments ++ front.segments ++ [x] ++ behind ∧ x ≠ "" ∧ x ≠ "." ∧ x ≠ ".." ∧
    x.Names given

theorem append_empty (t : Text) : t ++ ("" : String) = t := congrArg mk (List.append_nil t.letters)

/-- Addresses end behind a segment, or have a solidus there. -/
inductive Ending : Text → List Text → Prop
  | here : Ending "" []
  | solidus : Ending "/" [""]

section
variable {base front given ending rest x : Text} {behind : List Text}

theorem Ending.split_eq_iff (last : Ending ending behind) :
    rest.split '/' = x :: behind ↔ rest = x ++ ending ∧ .char '/' ∉ x.letters := by
  rw [Text.split_eq_iff (List.cons_ne_nil x behind)]
  cases last with
  | here =>
    rw [append_empty]
    show rest = x ∧ _ ↔ _
    simp
  | solidus =>
    have together : intercalate (String.singleton '/') [x, ""] = x ++ "/" := append_empty (x ++ "/")
    have none_there : Letter.char '/' ∉ ("" : Text).letters := by decide
    rw [together]
    simp [none_there]

theorem Ending.uncut (last : Ending ending behind) : ending.Uncut := by
  cases last <;> decide

/-- The front of a text that goes on alike is at its start. -/
theorem starts_of_append (h : (x ++ ending).letters <+: (given ++ ending).letters) :
    x.letters <+: given.letters := by
  have shorter : x.letters.length ≤ given.letters.length := by
    have lengths := h.length_le
    have first : (x ++ ending).letters.length = x.letters.length + ending.letters.length := List.length_append
    have second : (given ++ ending).letters.length = given.letters.length + ending.letters.length :=
      List.length_append
    omega
  exact List.prefix_of_prefix_length_le ((List.prefix_append _ _).trans h) (List.prefix_append _ _) shorter

/-- What is left of the path is a segment that names a text exactly if this text is one that names itself. -/
theorem rest_iff (last : Ending ending behind) :
    (∃ x : Text, (given ++ ending).segments = x :: behind ∧ x ≠ "" ∧ x ≠ "." ∧ x ≠ ".." ∧ x.Names given) ↔
      given.Plain := by
  constructor
  · rintro ⟨x, segments, some_letter, not_here, not_above, names⟩
    obtain ⟨path, undivided⟩ := last.split_eq_iff.mp segments
    -- the path is the start of what is written, so the segment is the start of the text
    have front : (x ++ ending).letters <+: (given ++ ending).letters := by
      rw [← path]
      exact List.takeWhile_prefix _
    obtain ⟨rfl, unescaped⟩ := names.eq_of_start (starts_of_append front)
    have uncut := path_eq_self.mp path
    exact ⟨some_letter, not_here, not_above, undivided, fun l here => uncut l (List.mem_append_left _ here), unescaped⟩
  · intro plain
    have uncut : (given ++ ending).Uncut := by
      intro l here
      exact (List.mem_append.mp here).elim (plain.uncut l) (last.uncut l)
    have path := path_eq_self.mpr uncut
    have segments : (given ++ ending).segments = given :: behind := last.split_eq_iff.mpr ⟨path, plain.undivided⟩
    exact ⟨given, segments, plain.some_letter, plain.not_here, plain.not_above, plain.names⟩

/-- **A text put into an address as it is** is a segment that names it exactly if it names itself, and nothing in front
of it ends the path. -/
theorem under_iff (uncut : front.Uncut) (last : Ending ending behind) :
    Under base front given behind (base ++ "/" ++ (front ++ "/" ++ (given ++ ending))) ↔ given.Plain ∧ base.Uncut := by
  by_cases passed : base.Uncut
  · have segments : (base ++ "/" ++ (front ++ "/" ++ (given ++ ending))).segments
        = base.segments ++ (front.segments ++ (given ++ ending).segments) := by
      rw [← segments_behind uncut, ← segments_behind passed]
      rfl
    have same (x : Text) : base.segments ++ (front.segments ++ (given ++ ending).segments)
        = base.segments ++ front.segments ++ [x] ++ behind ↔ (given ++ ending).segments = x :: behind := by
      simp
    unfold Under
    rw [segments]
    simp only [same, rest_iff last, passed, and_true]
  · -- nothing behind the base is read, so its segments are all there are
    have segments : (base ++ "/" ++ (front ++ "/" ++ (given ++ ending))).segments = base.segments := by
      have together : base ++ "/" ++ (front ++ "/" ++ (given ++ ending))
          = base ++ ("/" ++ (front ++ "/" ++ (given ++ ending))) := congrArg mk (List.append_assoc _ _ _)
      rw [together, segments_cut passed]
    constructor
    · rintro ⟨x, more, -⟩
      rw [segments] at more
      have lengths := congrArg List.length more
      simp only [List.length_append, List.length_cons] at lengths
      omega
    · exact fun h => absurd h.2 passed

end

end Freebox.Text
