import Freebox.Json.Encoding
import Freebox.Proofs.Attempt.Guarantee
import Freebox.Proofs.Json.Number
import Mathlib.Tactic.SplitIfs

/-!
# `Freebox.Proofs.Json.Sound` — the values that reading makes

No integer that was read has more digits than are converted, every double is in its one form, and the names of every
object are different.

## Contents
- `Json.Sound`, `Json.soundItems_iff`, `Json.soundMembers_iff`: such values.
- `Members.set_names`, `Json.ofPairs_names`, `Json.ofPairs_of_nodup`: members by their names.
- `Json.number_sound`, `Json.value_sound`, `Json.read_sound`: reading makes such values.
-/

namespace Freebox

namespace Json

mutual

/-- A value is one that reading makes: its integers have no more digits than are converted, its doubles are in their
one form, and the names of each object are different. -/
def Sound : Json → Prop
  | int n => (Nat.toDigits 10 n.natAbs).length ≤ Whole.maxDigits
  | real x => x.Canonical
  | arr vs => SoundItems vs
  | obj ms => (ms.map Prod.fst).Nodup ∧ SoundMembers ms
  | _ => True

/-- The items of an array are such values. -/
def SoundItems : List Json → Prop
  | [] => True
  | v :: vs => v.Sound ∧ SoundItems vs

/-- The members of an object are such values. -/
def SoundMembers : Members → Prop
  | [] => True
  | (_, v) :: ms => v.Sound ∧ SoundMembers ms

end

theorem soundItems_iff {vs : List Json} : SoundItems vs ↔ ∀ v ∈ vs, v.Sound := by
  induction vs with
  | nil => simp [SoundItems]
  | cons v vs ih => simp [SoundItems, ih]

theorem soundMembers_iff {ms : Members} : SoundMembers ms ↔ ∀ m ∈ ms, m.2.Sound := by
  induction ms with
  | nil => simp [SoundMembers]
  | cons m ms ih => simp [SoundMembers, ih]

end Json

/-! ## Members -/

namespace Members

/-- Setting a member again keeps the names; a new name comes at the end. -/
theorem set_names (ms : Members) (key : Text) (v : Json) :
    (set ms key v).map Prod.fst = if key ∈ ms.map Prod.fst then ms.map Prod.fst else ms.map Prod.fst ++ [key] := by
  induction ms with
  | nil => rfl
  | cons m ms ih =>
    obtain ⟨k, w⟩ := m
    by_cases h : k = key
    · simp [set, h]
    · have other : key ≠ k := fun same => h same.symm
      simp only [set, h, if_false, List.map_cons, ih, List.mem_cons, other, false_or]
      split <;> rfl

/-- A new name comes at the end. -/
theorem set_of_not_mem {ms : Members} {key : Text} (h : key ∉ ms.map Prod.fst) (v : Json) :
    set ms key v = ms ++ [(key, v)] := by
  induction ms with
  | nil => rfl
  | cons m ms ih =>
    obtain ⟨k, w⟩ := m
    rw [List.map_cons, List.mem_cons, not_or] at h
    have other : k ≠ key := fun same => h.1 same.symm
    simp [set, other, ih h.2]

/-- Whatever holds of all members and of a value holds when the value is set. -/
theorem set_all {P : Json → Prop} {ms : Members} {v : Json} (h : ∀ m ∈ ms, P m.2) (key : Text) (hv : P v) :
    ∀ m ∈ set ms key v, P m.2 := by
  induction ms with
  | nil => simpa [set] using hv
  | cons m ms ih =>
    obtain ⟨k, w⟩ := m
    rw [List.forall_mem_cons] at h
    unfold set
    split <;> rw [List.forall_mem_cons]
    · exact ⟨hv, h.2⟩
    · exact ⟨h.1, ih h.2⟩

/-- Whatever holds of all members holds of the one that is looked up. -/
theorem get?_all {P : Json → Prop} {ms : Members} {key : Text} {v : Json} (h : ∀ m ∈ ms, P m.2)
    (found : ms.get? key = some v) : P v := by
  induction ms with
  | nil => cases found
  | cons m ms ih =>
    obtain ⟨k, w⟩ := m
    rw [List.forall_mem_cons] at h
    unfold get? at found
    split at found
    · rw [← Option.some.inj found]
      exact h.1
    · exact ih h.2 found

/-- The same of the value of a member, if it holds of null. -/
theorem get_all {P : Json → Prop} {ms : Members} (h : ∀ m ∈ ms, P m.2) (absent : P .null) (key : Text) :
    P (ms.get key) := by
  unfold get
  cases found : ms.get? key with
  | none => exact absent
  | some v => exact get?_all h found

end Members

namespace Json

/-- The names of an object that was given member by member are different. -/
theorem ofPairs_nodup (pairs : Members) : ((ofPairs pairs).map Prod.fst).Nodup := by
  have all (ms : Members) (h : (ms.map Prod.fst).Nodup) :
      ((pairs.foldl (fun ms m => Members.set ms m.1 m.2) ms).map Prod.fst).Nodup := by
    induction pairs generalizing ms with
    | nil => exact h
    | cons m pairs ih =>
      refine ih _ ?_
      rw [Members.set_names]
      split
      · exact h
      next new =>
        refine List.nodup_append.mpr ⟨h, List.nodup_singleton _, fun name there other same => ?_⟩
        rw [List.mem_singleton.mp same]
        exact fun equal => new (equal ▸ there)
  exact all [] List.nodup_nil

theorem ofPairs_all {P : Json → Prop} {pairs : Members} (h : ∀ m ∈ pairs, P m.2) : ∀ m ∈ ofPairs pairs, P m.2 := by
  have all (ms : Members) (start : ∀ m ∈ ms, P m.2) :
      ∀ m ∈ pairs.foldl (fun ms m => Members.set ms m.1 m.2) ms, P m.2 := by
    induction pairs generalizing ms with
    | nil => exact start
    | cons m pairs ih =>
      rw [List.forall_mem_cons] at h
      exact ih h.2 _ (Members.set_all start m.1 h.1)
  exact all [] (by simp)

/-- Members of different names are an object as they are. -/
theorem ofPairs_of_nodup {pairs : Members} (h : (pairs.map Prod.fst).Nodup) : ofPairs pairs = pairs := by
  have all : ∀ pairs ms : Members, ((ms ++ pairs).map Prod.fst).Nodup →
      pairs.foldl (fun ms m => Members.set ms m.1 m.2) ms = ms ++ pairs := by
    intro pairs
    induction pairs with
    | nil => exact fun ms _ => (List.append_nil ms).symm
    | cons m pairs ih =>
      intro ms h
      have new : m.1 ∉ ms.map Prod.fst := by
        rw [List.map_append, List.map_cons, List.nodup_append] at h
        exact fun there => h.2.2 m.1 there m.1 List.mem_cons_self rfl
      rw [List.foldl_cons]
      show pairs.foldl _ (Members.set ms m.1 m.2) = _
      rw [Members.set_of_not_mem new, ih _ (by simpa using h), List.append_assoc]
      rfl
  exact all pairs [] h

/-! ## Numbers -/

/-- Digits are below the power of ten of their number. -/
theorem digitsValue_lt {ds : List Letter} (digits : ∀ d ∈ ds, isDigit d = true) : digitsValue ds < 10 ^ ds.length := by
  have all : ∀ (ds : List Letter) (n : Nat), (∀ d ∈ ds, isDigit d = true) →
      (ds.map (fun d => d.code - 48)).foldl (fun n d => n * 10 + d) n < (n + 1) * 10 ^ ds.length := by
    intro ds
    induction ds with
    | nil => intro n _; simp
    | cons d ds ih =>
      intro n digits
      rw [List.forall_mem_cons] at digits
      have nine : d.code - 48 ≤ 9 := by
        have digit := digits.1
        simp only [isDigit, Bool.and_eq_true, decide_eq_true_eq] at digit
        omega
      calc ((d :: ds).map (fun d => d.code - 48)).foldl (fun n d => n * 10 + d) n
          < (n * 10 + (d.code - 48) + 1) * 10 ^ ds.length := ih _ digits.2
        _ ≤ ((n + 1) * 10) * 10 ^ ds.length := Nat.mul_le_mul_right _ (by omega)
        _ = (n + 1) * 10 ^ (d :: ds).length := by rw [List.length_cons, Nat.pow_succ]; ring
  simpa [digitsValue, Whole.ofDigits] using all ds 0 digits

theorem wholePart?_spec {s ds rest : List Letter} (h : wholePart? s = some (ds, rest)) :
    ds ≠ [] ∧ ∀ d ∈ ds, isDigit d = true := by
  rw [wholePart?.eq_def] at h
  split at h
  · obtain ⟨rfl, rfl⟩ := Prod.mk.inj (Option.some.inj h)
    exact ⟨by simp, by decide⟩
  · split at h
    next digit =>
      rw [List.span_eq_takeWhile_dropWhile] at h
      obtain ⟨rfl, rfl⟩ := Prod.mk.inj (Option.some.inj h)
      exact ⟨by simp [digit], fun d here => List.all_eq_true.mp List.all_takeWhile d here⟩
    · cases h
  · cases h

/-- An integer of as many digits as were read has no more of them. -/
theorem sound_int {ds : List Letter} (nonempty : ds ≠ []) (digits : ∀ d ∈ ds, isDigit d = true)
    (few : ds.length ≤ Whole.maxDigits) (negative : Bool) :
    (int (Binary64.signed negative (digitsValue ds))).Sound := by
  have same : (Binary64.signed negative (digitsValue ds)).natAbs = digitsValue ds := by
    unfold Binary64.signed
    split <;> simp
  show (Nat.toDigits 10 _).length ≤ _
  rw [same]
  refine le_trans ?_ few
  exact (Nat.length_toDigits_le_iff (by decide) (List.length_pos_iff.mpr nonempty)).mpr (digitsValue_lt digits)

/-- A number that was read is in order. -/
theorem number_sound (s : List Letter) : Yields (fun p => p.1.Sound) (number s) := by
  unfold number
  cases whole : wholePart? (minus s).2 with
  | none => simpa only [whole] using EndsIn.error trivial
  | some found =>
    obtain ⟨ds, rest⟩ := found
    obtain ⟨nonempty, digits⟩ := wholePart?_spec whole
    simp only [whole]
    cases exponent? (fraction rest).2 with
    | some found => exact .ok (Binary64.ofDecimal_canonical _ _)
    | none =>
      dsimp only
      split_ifs with plain many
      · exact .error trivial
      · exact .ok (sound_int nonempty digits (not_lt.mp many) _)
      · exact .ok (Binary64.ofDecimal_canonical _ _)

/-! ## Values -/

mutual

/-- **A value that was read** is in order. -/
theorem value_sound : ∀ (n : Nat) (s : List Letter), Yields (fun p => p.1.Sound) (value n s)
  | 0, s => .error trivial
  | n + 1, s => by
    rw [value.eq_def]
    dsimp only
    split
    · exact EndsIn.any.map fun _ _ => trivial
    · split
      · exact .ok ⟨List.nodup_nil, trivial⟩
      · refine (members_sound n _).map fun p sound => ⟨ofPairs_nodup p.1, ?_⟩
        exact soundMembers_iff.mpr (ofPairs_all (soundMembers_iff.mp sound))
    · split
      · exact .ok trivial
      · exact (items_sound n _).map fun p sound => sound
    · exact .ok trivial
    · exact .ok trivial
    · exact .ok trivial
    · exact .ok trivial
    · exact .ok trivial
    · exact .ok trivial
    · exact number_sound s

/-- The items that were read. -/
theorem items_sound : ∀ (n : Nat) (s : List Letter), Yields (fun p => SoundItems p.1) (items n s)
  | 0, s => .error trivial
  | n + 1, s => by
    rw [items]
    have first := value_sound n s
    cases read : value n s with
    | error stop => exact .error trivial
    | ok p =>
      have sound := first.value read
      dsimp only
      split
      · exact .ok ⟨sound, trivial⟩
      · exact (items_sound n _).map fun q rest => ⟨sound, rest⟩
      · exact .error trivial

/-- The members that were read. -/
theorem members_sound : ∀ (n : Nat) (s : List Letter), Yields (fun p => SoundMembers p.1) (members n s)
  | 0, s => .error trivial
  | n + 1, s => by
    rw [members.eq_def]
    dsimp only
    split
    · split
      · exact .error trivial
      · split
        next name afterName afterColon colon =>
          have first := value_sound n (skip afterColon)
          cases read : value n (skip afterColon) with
          | error stop => exact .error trivial
          | ok p =>
            have sound := first.value read
            dsimp only
            split
            · exact .ok ⟨sound, trivial⟩
            · exact (members_sound n _).map fun q rest => ⟨sound, rest⟩
            · exact .error trivial
        · exact .error trivial
    · exact .error trivial

end

theorem document_sound (s : List Letter) : Yields Sound (document s) := by
  unfold document
  have first := value_sound (depthBound s) (skip s)
  cases read : value (depthBound s) (skip s) with
  | error stop => exact .error trivial
  | ok p =>
    dsimp only
    split
    · exact .ok (first.value read)
    · exact .error trivial

/-- **Whatever was read**, from a text or from octets, is in order. -/
theorem read_sound (received : Raw) : Yields Sound (Json.read received) := by
  unfold Json.read
  cases received with
  | text t =>
    dsimp only
    split
    · exact .error trivial
    · exact (document_sound _).mapError fun _ _ => trivial
  | octets bs =>
    dsimp only
    split
    · exact .error trivial
    · exact (document_sound _).mapError fun _ _ => trivial

end Json

end Freebox
