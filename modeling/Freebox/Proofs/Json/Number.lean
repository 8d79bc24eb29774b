import Freebox.Json.Reader
import Freebox.Json.Writer
import Freebox.Proofs.Number.Shortest
import Mathlib.Data.List.TakeWhile

/-!
# `Freebox.Proofs.Json.Number` — numbers read back

A number that was written is read back as it is, if what follows does not go on with it. An integer may have as many
digits as are converted. A double comes back by the digits that it is written by, in either form: with the point at
its place, or behind the first digit and a power of ten.

## Contents
- `Json.Ends`: what follows does not go on with a number.
- `Json.number_integer`, `Json.number_decimal`, `Json.number_scientific`: the three forms of a number.
- `Json.number_write`: integers. `Json.number_realText`: doubles.
-/

namespace Freebox

/-- An integer is its sign before its magnitude. -/
theorem Binary64.signed_natAbs (n : Int) : signed (decide (n < 0)) n.natAbs = n := by
  unfold signed
  by_cases h : n < 0
  · rw [if_pos (decide_eq_true h)]
    omega
  · rw [if_neg (by simpa using h)]
    omega

namespace Json

open Shortest (Numeral)
open Binary64 (Rounds)

/-! ## Digits -/

theorem isDigit_char (c : Char) : isDigit (.char c) = c.isDigit := by
  rw [Bool.eq_iff_iff, Char.isDigit_iff_toNat, isDigit, Bool.and_eq_true, decide_eq_true_eq, decide_eq_true_eq]
  rfl

theorem digitsValue_map (ds : List Char) : digitsValue (ds.map .char) = Nat.ofDigitChars 10 ds 0 := by
  rw [digitsValue, Whole.ofDigits, Nat.ofDigitChars_eq_foldl, List.map_map, List.foldl_map]
  congr 1
  funext n c
  simp [Letter.code, Nat.mul_comm]

/-- What follows is no digit. -/
def EndsDigits (rest : List Letter) : Prop := ∀ l ∈ rest.head?, isDigit l = false

theorem EndsDigits.cons {l : Letter} (h : isDigit l = false) (rest : List Letter) : EndsDigits (l :: rest) := by
  intro m here
  rwa [← Option.some.inj here]

/-- What follows does not go on with a number. -/
def Ends (rest : List Letter) : Prop :=
  ∀ l ∈ rest.head?, isDigit l = false ∧ l ≠ .char '.' ∧ l ≠ .char 'e' ∧ l ≠ .char 'E'

theorem Ends.digits {rest : List Letter} (h : Ends rest) : EndsDigits rest := fun l here => (h l here).1

section
variable {ds : List Char} {rest : List Letter}

theorem span_digits (digits : ∀ c ∈ ds, c.isDigit = true) (ends : EndsDigits rest) :
    (ds.map Letter.char ++ rest).span isDigit = (ds.map .char, rest) := by
  have all : ∀ l ∈ ds.map Letter.char, isDigit l = true := by
    intro l here
    obtain ⟨c, inside, rfl⟩ := List.mem_map.mp here
    rw [isDigit_char]
    exact digits c inside
  rw [List.span_eq_takeWhile_dropWhile, List.takeWhile_append_of_pos all, List.dropWhile_append_of_pos all]
  cases rest with
  | nil => simp
  | cons l rest => simp [ends l rfl]

/-! ## Parts of a number -/

/-- The digits before a point: a nought alone, or digits that start with another one. -/
def IsWhole (ds : List Char) : Prop := ds = ['0'] ∨ Numeral ds

theorem wholePart?_digits (whole : IsWhole ds) (ends : EndsDigits rest) :
    wholePart? (ds.map .char ++ rest) = some (ds.map .char, rest) := by
  rcases whole with rfl | ⟨nonempty, digits, leading⟩
  · rfl
  · obtain ⟨c, cs, rfl⟩ := List.exists_cons_of_ne_nil nonempty
    have other : c ≠ '0' := fun h => leading (by rw [h]; rfl)
    have split := span_digits digits ends
    rw [List.map_cons, List.cons_append] at split ⊢
    have digit : isDigit (.char c) = true := by
      rw [isDigit_char]
      exact digits c List.mem_cons_self
    rw [wholePart?.eq_def]
    simp [-List.span_eq_takeWhile_dropWhile, other, digit, split]

theorem IsWhole.start (whole : IsWhole ds) : ∃ c cs, ds = c :: cs ∧ c.isDigit = true := by
  rcases whole with rfl | ⟨nonempty, digits, -⟩
  · exact ⟨_, _, rfl, rfl⟩
  · obtain ⟨c, cs, rfl⟩ := List.exists_cons_of_ne_nil nonempty
    exact ⟨c, cs, rfl, digits c List.mem_cons_self⟩

theorem fraction_digits (nonempty : ds ≠ []) (digits : ∀ c ∈ ds, c.isDigit = true) (ends : EndsDigits rest) :
    fraction (.char '.' :: (ds.map .char ++ rest)) = (ds.map .char, rest) := by
  obtain ⟨c, cs, rfl⟩ := List.exists_cons_of_ne_nil nonempty
  have split := span_digits digits ends
  have digit : isDigit (.char c) = true := by
    rw [isDigit_char]
    exact digits c List.mem_cons_self
  rw [List.map_cons, List.cons_append] at split ⊢
  simp [-List.span_eq_takeWhile_dropWhile, fraction, digit, split]

theorem fraction_none (h : ∀ l ∈ rest.head?, l ≠ .char '.') : fraction rest = ([], rest) := by
  rw [fraction.eq_def]
  split
  · exact absurd rfl (h _ rfl)
  · rfl

/-- An exponent may follow at once. -/
theorem fraction_exponent (rest : List Letter) : fraction (.char 'e' :: rest) = ([], .char 'e' :: rest) := by
  refine fraction_none fun l here => ?_
  rw [← Option.some.inj here]
  decide

theorem exponent?_none (h : ∀ l ∈ rest.head?, l ≠ .char 'e' ∧ l ≠ .char 'E') : exponent? rest = none := by
  cases rest with
  | nil => rfl
  | cons l rest =>
    have other := h l rfl
    simp [exponent?, other]

/-- An exponent as it is written: with a sign, and at least two digits. -/
theorem exponent?_written (power : Int) (ends : EndsDigits rest) :
    exponent? (.char 'e' :: .char (if power < 0 then '-' else '+') ::
      ((Binary64.exponentDigits power.natAbs).map .char ++ rest)) = some (power, rest) := by
  have shape : ∃ c cs, Binary64.exponentDigits power.natAbs = c :: cs ∧
      (∀ d ∈ c :: cs, d.isDigit = true) ∧ Nat.ofDigitChars 10 (c :: cs) 0 = power.natAbs := by
    have digits (n : Nat) : ∀ d ∈ Nat.toDigits 10 n, d.isDigit = true := fun d =>
      Nat.isDigit_of_mem_toDigits (by decide) (by decide)
    unfold Binary64.exponentDigits
    split
    · refine ⟨_, _, rfl, ?_, ?_⟩
      · rw [List.forall_mem_cons]
        exact ⟨by decide, digits _⟩
      · rw [Nat.ofDigitChars_cons]
        exact Nat.ofDigitChars_ten_toDigits
    · obtain ⟨c, cs, start⟩ := List.exists_cons_of_ne_nil (Nat.toDigits_ne_nil (n := power.natAbs) (b := 10))
      refine ⟨c, cs, start, ?_, ?_⟩
      · rw [← start]
        exact digits _
      · rw [← start]
        exact Nat.ofDigitChars_ten_toDigits
  obtain ⟨c, cs, start, digits, value⟩ := shape
  have split := span_digits digits ends
  have signed : exponentSign (.char (if power < 0 then '-' else '+') :: ((c :: cs).map .char ++ rest)) =
      (decide (power < 0), (c :: cs).map .char ++ rest) := by
    by_cases h : power < 0 <;> simp [h, exponentSign]
  rw [start, exponent?, if_pos (Or.inl rfl), signed]
  dsimp only
  rw [split]
  dsimp only
  rw [if_neg (by simp), digitsValue_map, value]
  rw [Binary64.signed_natAbs]

end

/-! ## Numbers -/

section
variable {s rest : List Letter} {negative : Bool} {whole part : List Char}

/-- An integer. -/
theorem number_integer (signed : minus s = (negative, whole.map .char ++ rest)) (isWhole : IsWhole whole)
    (few : whole.length ≤ Whole.maxDigits) (ends : Ends rest) :
    number s = .ok (.int (Binary64.signed negative (Nat.ofDigitChars 10 whole 0)), rest) := by
  have plain : fraction rest = ([], rest) := fraction_none fun l here => (ends l here).2.1
  have bare : exponent? rest = none := exponent?_none fun l here => (ends l here).2.2
  unfold number
  rw [signed]
  simp only [wholePart?_digits isWhole ends.digits, plain, bare, List.length_map, digitsValue_map]
  rw [if_pos List.isEmpty_nil, if_neg (not_lt.mpr few)]

/-- A number with a point. -/
theorem number_decimal (signed : minus s = (negative, (whole ++ '.' :: part).map .char ++ rest))
    (isWhole : IsWhole whole) (nonempty : part ≠ []) (digits : ∀ c ∈ part, c.isDigit = true) (ends : Ends rest) :
    number s =
      .ok (.real (Binary64.ofDecimal negative (Nat.ofDigitChars 10 (whole ++ part) 0) (-part.length)), rest) := by
  have point : EndsDigits (.char '.' :: (part.map .char ++ rest)) := .cons rfl _
  have bare : exponent? rest = none := exponent?_none fun l here => (ends l here).2.2
  unfold number
  rw [signed, List.map_append, List.map_cons, List.append_assoc, List.cons_append]
  simp only [wholePart?_digits isWhole point, fraction_digits nonempty digits ends.digits, bare]
  rw [if_neg (by simpa using nonempty), ← List.map_append, digitsValue_map, List.length_map]

/-- A number with an exponent, and with a point or without. -/
theorem number_scientific {power : Int}
    (signed : minus s = (negative, (whole ++ (if part.isEmpty then [] else '.' :: part) ++
      'e' :: (if power < 0 then '-' else '+') :: Binary64.exponentDigits power.natAbs).map .char ++ rest))
    (isWhole : IsWhole whole) (digits : ∀ c ∈ part, c.isDigit = true) (ends : Ends rest) :
    number s =
      .ok (.real (Binary64.ofDecimal negative (Nat.ofDigitChars 10 (whole ++ part) 0) (power - part.length)),
        rest) := by
  have letter : EndsDigits (.char 'e' :: .char (if power < 0 then '-' else '+') ::
      ((Binary64.exponentDigits power.natAbs).map .char ++ rest)) := .cons rfl _
  have written := exponent?_written power ends.digits
  unfold number
  rw [signed]
  cases part with
  | nil =>
    simp only [List.isEmpty_nil, if_true, List.append_nil, List.map_append, List.map_cons, List.append_assoc,
      List.cons_append, wholePart?_digits isWhole letter, fraction_exponent, written, digitsValue_map, List.length_nil]
  | cons c cs =>
    have point : EndsDigits (.char '.' :: ((c :: cs).map .char ++ .char 'e' ::
        .char (if power < 0 then '-' else '+') :: ((Binary64.exponentDigits power.natAbs).map .char ++ rest))) :=
      .cons rfl _
    have digits_read := fraction_digits (List.cons_ne_nil c cs) digits letter
    have whole_read := wholePart?_digits isWhole point
    simp only [List.map_cons, List.cons_append] at digits_read whole_read
    simp only [List.isEmpty_cons, Bool.false_eq_true, if_false, List.map_append, List.map_cons, List.append_assoc,
      List.cons_append, whole_read, digits_read, written]
    rw [← List.map_cons, ← List.map_append, digitsValue_map, List.length_map]

end

/-! ## Integers and doubles -/

section
variable {rest : List Letter} {ds : List Char} {point : Int}

/-- A text that starts with a digit has the sign that is put before it. -/
theorem minus_signed {text : List Char} (start : ∃ c cs, text = c :: cs ∧ c.isDigit = true) (negative : Bool)
    (rest : List Letter) :
    minus ((if negative then '-' :: text else text).map .char ++ rest) = (negative, text.map .char ++ rest) := by
  cases negative with
  | true => rfl
  | false =>
    obtain ⟨c, cs, rfl, digit⟩ := start
    have other : c ≠ '-' := by
      rintro rfl
      exact absurd digit (by decide)
    rw [if_neg Bool.false_ne_true, List.map_cons, List.cons_append, minus.eq_def]
    simp [other]

theorem isWhole_toDigits (n : Nat) : IsWhole (Nat.toDigits 10 n) := by
  rcases Nat.eq_zero_or_pos n with rfl | positive
  · exact Or.inl rfl
  · exact Or.inr (Shortest.numeral_toDigits positive)

/-- **An integer that was written** is read back. -/
theorem number_write (n : Int) (few : (Nat.toDigits 10 n.natAbs).length ≤ Whole.maxDigits) (ends : Ends rest) :
    number ((Whole.write n).map .char ++ rest) = .ok (.int n, rest) := by
  have whole := isWhole_toDigits n.natAbs
  have signed := minus_signed whole.start (decide (n < 0)) rest
  simp only [decide_eq_true_eq] at signed
  rw [Whole.write, number_integer signed whole few ends, Nat.ofDigitChars_ten_toDigits, Binary64.signed_natAbs]

/-- Noughts do not count before digits, and count as tens behind them. -/
theorem ofDigitChars_noughts (ds : List Char) (n : Nat) :
    Nat.ofDigitChars 10 ('0' :: List.replicate n '0' ++ ds) 0 = Nat.ofDigitChars 10 ds 0 ∧
      Nat.ofDigitChars 10 (ds ++ List.replicate n '0') 0 = 10 ^ n * Nat.ofDigitChars 10 ds 0 := by
  constructor
  · rw [← List.replicate_succ, Nat.ofDigitChars_append, Nat.ofDigitChars_replicate_zero, Nat.mul_zero]
  · rw [Nat.ofDigitChars_append, Nat.ofDigitChars_replicate_zero]

/-- A text has a point between digits, and is of the value of some digits with the point at a place of their own. -/
structure Pointed (text whole part ds : List Char) (point : Int) : Prop where
  spelled : text = whole ++ '.' :: part
  isWhole : IsWhole whole
  nonempty : part ≠ []
  digits : ∀ c ∈ part, c.isDigit = true
  value : (Nat.ofDigitChars 10 (whole ++ part) 0 : ℚ) * 10 ^ (-part.length : Int) =
    Nat.ofDigitChars 10 ds 0 * 10 ^ (point - ds.length)

/-- All digits are behind the point. -/
theorem pointed_before (numeral : Numeral ds) (small : point ≤ 0) :
    Pointed (Binary64.positional ds point) ['0'] (List.replicate (-point).toNat '0' ++ ds) ds point where
  spelled := by
    unfold Binary64.positional
    rw [if_pos small]
    rfl
  isWhole := Or.inl rfl
  nonempty := by simp [numeral.nonempty]
  digits c here := by
    rcases List.mem_append.mp here with nought | here
    · rw [List.eq_of_mem_replicate nought]
      rfl
    · exact numeral.digits c here
  value := by
    rw [List.singleton_append, ← List.cons_append, (ofDigitChars_noughts ds _).1, List.length_append,
      List.length_replicate]
    congr 2
    push_cast
    omega

/-- The point is between two digits. -/
theorem pointed_inside (numeral : Numeral ds) {k : Nat} (some_digit : 0 < k) (inside : k < ds.length) :
    Pointed (Binary64.positional ds k) (ds.take k) (ds.drop k) ds k where
  spelled := by
    have some_part : ds.drop k ≠ [] := by simpa using inside
    unfold Binary64.positional
    rw [if_neg (by omega), Int.toNat_natCast]
    simp [some_part, Nat.sub_eq_zero_of_le inside.le]
  isWhole := by
    refine Or.inr ⟨?_, fun c here => numeral.digits c (List.mem_of_mem_take here), ?_⟩
    · rw [ne_eq, List.take_eq_nil_iff]
      rintro (none | empty)
      · omega
      · exact numeral.nonempty empty
    · rw [List.head?_take, if_neg (by omega)]
      exact numeral.leading
  nonempty := by simpa using inside
  digits c here := numeral.digits c (List.mem_of_mem_drop here)
  value := by
    rw [List.take_append_drop, List.length_drop]
    congr 2
    omega

/-- All digits are before the point. -/
theorem pointed_behind (numeral : Numeral ds) {k : Nat} (some_digit : 0 < k) (beyond : ds.length ≤ k) :
    Pointed (Binary64.positional ds k) (ds ++ List.replicate (k - ds.length) '0') ['0'] ds k where
  spelled := by
    unfold Binary64.positional
    rw [if_neg (by omega), Int.toNat_natCast]
    dsimp only
    rw [List.take_of_length_le beyond, List.drop_eq_nil_of_le beyond]
    rfl
  isWhole := by
    refine Or.inr ⟨by simp [numeral.nonempty], fun c here => ?_, ?_⟩
    · rcases List.mem_append.mp here with here | nought
      · exact numeral.digits c here
      · rw [List.eq_of_mem_replicate nought]
        rfl
    · rw [List.head?_append_of_ne_nil _ numeral.nonempty]
      exact numeral.leading
  nonempty := by simp
  digits := List.forall_mem_singleton.mpr rfl
  value := by
    have tens := (ofDigitChars_noughts ds (k - ds.length + 1)).2
    rw [List.replicate_succ', ← List.append_assoc] at tens
    rw [tens]
    push_cast
    rw [mul_comm ((10 : ℚ) ^ _), mul_assoc, ← zpow_natCast, ← zpow_add₀ (by norm_num)]
    congr 2
    rw [List.length_singleton]
    omega

/-- **Digits with the point at its place** are a number with a point, of the same value. -/
theorem positional_spec (numeral : Numeral ds) (point : Int) :
    ∃ whole part, Pointed (Binary64.positional ds point) whole part ds point := by
  by_cases small : point ≤ 0
  · exact ⟨_, _, pointed_before numeral small⟩
  · obtain ⟨k, rfl⟩ := Int.eq_ofNat_of_zero_le (Int.le_of_lt (not_le.mp small))
    have some_digit : 0 < k := by omega
    by_cases inside : k < ds.length
    · exact ⟨_, _, pointed_inside numeral some_digit inside⟩
    · exact ⟨_, _, pointed_behind numeral some_digit (not_lt.mp inside)⟩

/-- **Digits with the point behind the first** and a power of ten have the same value. -/
theorem scientific_spec (numeral : Numeral ds) (power : Int) :
    ∃ whole part, Binary64.scientific ds power = whole ++ (if part.isEmpty then [] else '.' :: part) ++
        'e' :: (if power < 0 then '-' else '+') :: Binary64.exponentDigits power.natAbs ∧
      IsWhole whole ∧ (∀ c ∈ part, c.isDigit = true) ∧
      (Nat.ofDigitChars 10 (whole ++ part) 0 : ℚ) * 10 ^ (power - part.length) =
        Nat.ofDigitChars 10 ds 0 * 10 ^ (power + 1 - ds.length) := by
  obtain ⟨nonempty, digits, leading⟩ := numeral
  obtain ⟨c, cs, rfl⟩ := List.exists_cons_of_ne_nil nonempty
  refine ⟨[c], cs, ?_, Or.inr ⟨by simp, ?_, leading⟩, ?_, ?_⟩
  · unfold Binary64.scientific
    cases cs <;> rfl
  · exact fun d here => digits d (by rw [List.mem_singleton.mp here]; exact List.mem_cons_self)
  · exact fun d here => digits d (List.mem_cons_of_mem c here)
  · rw [List.singleton_append, List.length_cons]
    congr 2
    push_cast
    omega

/-- **A positive double that was written** is read back, behind its sign. -/
theorem number_positive {negative : Bool} {m : Nat} {e : Int} (positive : 0 < m)
    (canonical : (Binary64.finite negative m e).Canonical) {s : List Letter}
    (signed : minus s = (negative, (Binary64.positiveText m e).map .char ++ rest)) (ends : Ends rest) :
    number s = .ok (.real (.finite negative m e), rest) := by
  obtain ⟨small, low, high, -⟩ := id canonical
  cases written : Shortest.digits m e with
  | mk ds point =>
    obtain ⟨numeral, rounds⟩ := Shortest.digits_rounds positive small low high written
    unfold Binary64.positiveText at signed
    rw [written] at signed
    dsimp only at signed
    split at signed
    · obtain ⟨whole, part, pointed⟩ := positional_spec numeral point
      rw [pointed.spelled] at signed
      rw [number_decimal signed pointed.isWhole pointed.nonempty pointed.digits ends,
        Binary64.ofDecimal_of_rounds positive canonical (by rwa [pointed.value])]
    · obtain ⟨whole, part, spelled, isWhole, digits, value⟩ := scientific_spec numeral (point - 1)
      rw [spelled] at signed
      rw [sub_add_cancel] at value
      rw [number_scientific signed isWhole digits ends,
        Binary64.ofDecimal_of_rounds positive canonical (by rwa [value])]

theorem positiveText_start {m : Nat} {e : Int} (positive : 0 < m)
    (canonical : (Binary64.finite false m e).Canonical) :
    ∃ c cs, Binary64.positiveText m e = c :: cs ∧ c.isDigit = true := by
  obtain ⟨small, low, high, -⟩ := canonical
  cases written : Shortest.digits m e with
  | mk ds point =>
    obtain ⟨numeral, -⟩ := Shortest.digits_rounds positive small low high written
    unfold Binary64.positiveText
    rw [written]
    dsimp only
    split
    · obtain ⟨whole, part, pointed⟩ := positional_spec numeral point
      obtain ⟨c, cs, rfl, digit⟩ := pointed.isWhole.start
      exact ⟨c, _, pointed.spelled, digit⟩
    · obtain ⟨whole, part, spelled, isWhole, -⟩ := scientific_spec numeral (point - 1)
      obtain ⟨c, cs, rfl, digit⟩ := isWhole.start
      exact ⟨c, _, spelled, digit⟩

/-- A finite double is written with a digit first, behind its sign. -/
theorem realText_start {negative : Bool} {m : Nat} {e : Int} (canonical : (Binary64.finite negative m e).Canonical) :
    ∃ text, realText (.finite negative m e) = (if negative then '-' :: text else text) ∧
      ∃ c cs, text = c :: cs ∧ c.isDigit = true := by
  refine ⟨_, rfl, ?_⟩
  split
  · exact ⟨_, _, rfl, rfl⟩
  next positive => exact positiveText_start (Nat.pos_of_ne_zero positive) canonical

/-- **A finite double that was written** is read back. -/
theorem number_realText {negative : Bool} {m : Nat} {e : Int} (canonical : (Binary64.finite negative m e).Canonical)
    (ends : Ends rest) :
    number ((realText (.finite negative m e)).map .char ++ rest) = .ok (.real (.finite negative m e), rest) := by
  show number ((Binary64.text (.finite negative m e)).map .char ++ rest) = _
  unfold Binary64.text
  rcases Nat.eq_zero_or_pos m with rfl | positive
  · obtain ⟨-, low, -, normal⟩ := canonical
    obtain rfl : e = -1074 := normal.resolve_left (by decide)
    have digit : ∃ c cs, ['0'] ++ '.' :: ['0'] = c :: cs ∧ c.isDigit = true := ⟨_, _, rfl, rfl⟩
    have digits : ∀ c ∈ ['0'], c.isDigit = true := List.forall_mem_singleton.mpr rfl
    exact number_decimal (minus_signed digit negative rest) (Or.inl rfl) (by simp) digits ends
  · dsimp only
    rw [if_neg positive.ne']
    exact number_positive positive canonical (minus_signed (positiveText_start positive canonical) negative rest) ends

end

end Json

end Freebox
