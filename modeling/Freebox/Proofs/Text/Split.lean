import Freebox.Text.Basic

/-!
# `Freebox.Proofs.Text.Split` — texts that are taken apart at a character

A text is taken apart at the places of a character, and put together again by that character. Pieces that were put
together are found again exactly if the character is in none of them.

## Contents
- `Text.split`: the pieces of a text. `Text.split_append`, `Text.not_mem_of_mem_split`: how they come about, and what
  they do not hold.
- `Text.intercalate_split`, `Text.split_intercalate`: taken apart and put together, one way and the other.
  `Text.split_eq_iff`: both at once.
-/

namespace Freebox

/-- The pieces of a list do not hold what it is taken apart at. -/
theorem not_mem_of_mem_splitOn {α : Type} [BEq α] [LawfulBEq α] {a : α} {xs piece : List α}
    (here : piece ∈ xs.splitOn a) : a ∉ piece := by
  induction xs generalizing piece with
  | nil => simp_all
  | cons x xs ih =>
    rw [List.splitOn_cons_eq_if_modifyHead] at here
    split at here
    · rcases List.mem_cons.mp here with rfl | later
      · exact List.not_mem_nil
      · exact ih later
    · next other =>
      -- the first letter belongs to the first of the pieces behind it
      obtain ⟨first, others, pieces⟩ := List.exists_cons_of_ne_nil (List.splitOn_ne_nil a xs)
      rw [pieces] at here ih
      rcases List.mem_cons.mp here with rfl | later
      · have first_without : a ∉ first := ih List.mem_cons_self
        have apart : a ≠ x := by
          rintro rfl
          exact other (beq_self_eq_true a)
        simp [apart, first_without]
      · exact ih (List.mem_cons_of_mem _ later)

namespace Text

variable {c : Char} {s t : Text}

/-- The pieces of a text between the places of a character. -/
def split (c : Char) (t : Text) : List Text := (t.letters.splitOn (.char c)).map mk

theorem map_letters_split (c : Char) (t : Text) : (t.split c).map letters = t.letters.splitOn (.char c) := by
  unfold split
  rw [List.map_map]
  exact List.map_id _

theorem map_letters_inj {ss ts : List Text} : ss.map letters = ts.map letters ↔ ss = ts :=
  List.map_inj_right fun s t same => by cases s; cases t; exact congrArg mk same

theorem split_ne_nil (c : Char) (t : Text) : t.split c ≠ [] := by
  unfold split
  simp [List.splitOn_ne_nil]

/-- The places of the character between two texts, and those in each of them. -/
theorem split_append (c : Char) (s t : Text) : (s ++ singleton (.char c) ++ t).split c = s.split c ++ t.split c := by
  have letters : (s ++ singleton (.char c) ++ t).letters = s.letters ++ .char c :: t.letters :=
    List.append_assoc s.letters [.char c] t.letters
  unfold split
  rw [letters, List.splitOn_append_cons_self, List.map_append]

theorem not_mem_of_mem_split (here : s ∈ t.split c) : .char c ∉ s.letters := by
  obtain ⟨piece, there, rfl⟩ := List.mem_map.mp here
  exact not_mem_of_mem_splitOn there

theorem letters_intercalate (c : Char) (ts : List Text) :
    (intercalate (String.singleton c) ts).letters = [.char c].intercalate (ts.map letters) := by
  induction ts with
  | nil => rfl
  | cons t ts ih =>
    cases ts with
    | nil => exact (List.append_nil t.letters).symm
    | cons u ts =>
      -- a string of one character is that letter between the first text and the others
      have together : (intercalate (String.singleton c) (t :: u :: ts)).letters
          = t.letters ++ [.char c] ++ (intercalate (String.singleton c) (u :: ts)).letters := by
        show t.letters ++ (String.singleton c).toList.map Letter.char ++ _ = _
        rw [String.toList_singleton]
        rfl
      rw [together, ih]
      simp [List.intercalate]

/-- **What was taken apart** can be put together. -/
theorem intercalate_split (c : Char) (t : Text) : intercalate (String.singleton c) (t.split c) = t := by
  have letters : (intercalate (String.singleton c) (t.split c)).letters = t.letters := by
    rw [letters_intercalate, map_letters_split, List.intercalate_splitOn]
  exact congrArg mk letters

/-- **What was put together** is found again exactly if no piece holds the character. -/
theorem split_intercalate {ts : List Text} (some_piece : ts ≠ []) :
    (intercalate (String.singleton c) ts).split c = ts ↔ ∀ t ∈ ts, .char c ∉ t.letters := by
  constructor
  · intro found t here
    rw [← found] at here
    exact not_mem_of_mem_split here
  · intro absent
    have pieces : ∀ piece ∈ ts.map letters, Letter.char c ∉ piece := List.forall_mem_map.mpr absent
    have some_list : ts.map letters ≠ [] := by simpa using some_piece
    rw [← map_letters_inj, map_letters_split, letters_intercalate, List.splitOn_intercalate _ pieces some_list]

/-- The pieces of a text are those that it is put together from and that do not hold the character. -/
theorem split_eq_iff {ts : List Text} (some_piece : ts ≠ []) :
    t.split c = ts ↔ t = intercalate (String.singleton c) ts ∧ ∀ t ∈ ts, .char c ∉ t.letters := by
  constructor
  · rintro rfl
    exact ⟨(intercalate_split c t).symm, fun _ => not_mem_of_mem_split⟩
  · rintro ⟨rfl, absent⟩
    exact (split_intercalate some_piece).mpr absent

end Text

end Freebox
