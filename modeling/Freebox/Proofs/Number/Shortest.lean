import Freebox.Number.Shortest
import Freebox.Proofs.Number.Rounding

/-!
# `Freebox.Proofs.Number.Shortest` — the digits of a double read back

The digits that a double is written by stand for a decimal that rounds to it. Every grid that is tried gives such a
decimal or none, and the last one is so fine that the neighbour below the double is one: seventeen digits more than the
leading one are always enough.

## Contents
- `Shortest.compareGrid_lt`, `Shortest.interval_spec`, `Shortest.rounds_of_holds`: the interval around a double.
- `Shortest.rounds_of_floor`, `Shortest.search_rounds`: the grids.
- `Shortest.magnitude_spec`: the leading digit.
- `Shortest.digits_rounds`: the digits of a double.
-/

namespace Freebox.Shortest

open Binary64 (Rounds gapBelow gapBelow_le)

/-! ## The interval around a double -/

section
variable (num digits : Nat) (grid : Int) {den : Nat}

theorem compareGrid_lt (hd : 0 < den) :
    compareGrid num den digits grid = .lt ↔ (num : ℚ) / den < digits * 10 ^ grid := by
  have positive : (0 : ℚ) < den := by exact_mod_cast hd
  unfold compareGrid
  by_cases h : 0 ≤ grid
  · obtain ⟨k, rfl⟩ := Int.eq_ofNat_of_zero_le h
    rw [if_pos h, Nat.compare_eq_lt, div_lt_iff₀ positive]
    simp only [Int.toNat_natCast, Nat.pow_eq, zpow_natCast]
    exact_mod_cast Iff.rfl
  · obtain ⟨k, hk⟩ := Int.eq_ofNat_of_zero_le (Int.le_of_lt (Int.neg_pos_of_neg (not_le.mp h)))
    obtain rfl : grid = -(k : Int) := by omega
    have power : (0 : ℚ) < 10 ^ k := by positivity
    rw [if_neg h, Nat.compare_eq_lt, zpow_neg, zpow_natCast, ← div_eq_mul_inv, div_lt_div_iff₀ positive power]
    simp only [neg_neg, Int.toNat_natCast, Nat.pow_eq]
    exact_mod_cast Iff.rfl

theorem compareGrid_gt (hd : 0 < den) :
    compareGrid num den digits grid = .gt ↔ digits * 10 ^ grid < (num : ℚ) / den := by
  have positive : (0 : ℚ) < den := by exact_mod_cast hd
  unfold compareGrid
  by_cases h : 0 ≤ grid
  · obtain ⟨k, rfl⟩ := Int.eq_ofNat_of_zero_le h
    rw [if_pos h, Nat.compare_eq_gt, lt_div_iff₀ positive]
    simp only [Int.toNat_natCast, Nat.pow_eq, zpow_natCast]
    exact_mod_cast Iff.rfl
  · obtain ⟨k, hk⟩ := Int.eq_ofNat_of_zero_le (Int.le_of_lt (Int.neg_pos_of_neg (not_le.mp h)))
    obtain rfl : grid = -(k : Int) := by omega
    have power : (0 : ℚ) < 10 ^ k := by positivity
    rw [if_neg h, Nat.compare_eq_gt, zpow_neg, zpow_natCast, ← div_eq_mul_inv, div_lt_div_iff₀ power positive]
    simp only [neg_neg, Int.toNat_natCast, Nat.pow_eq]
    exact_mod_cast Iff.rfl

end

/-- An interval is the one around a double: its ends are the middles of the gaps beside it. -/
structure Interval.Around (i : Interval) (m : Nat) (e : Int) : Prop where
  den_pos : 0 < i.den
  low : (i.low : ℚ) / i.den = ((m : ℚ) - gapBelow m e) * 2 ^ e
  value : (i.value : ℚ) / i.den = m * 2 ^ e
  high : (i.high : ℚ) / i.den = ((m : ℚ) + 1 / 2) * 2 ^ e
  closed : i.closed = true ↔ m % 2 = 0

section
variable {m : Nat} {e : Int} {i : Interval}

theorem interval_spec (positive : 0 < m) : (interval m e).Around m e := by
  -- the unit of the interval is a quarter of that of the double
  have units : ∃ up den : Nat, 0 < den ∧ (up : ℚ) / den = 2 ^ e / 4 ∧
      (if 2 ≤ e then (Nat.pow 2 (e - 2).toNat, 1) else (1, Nat.pow 2 (2 - e).toNat)) = (up, den) := by
    by_cases large : 2 ≤ e
    · obtain ⟨k, hk⟩ := Int.eq_ofNat_of_zero_le (Int.sub_nonneg.mpr large)
      obtain rfl : e = (k : Int) + 2 := by omega
      refine ⟨2 ^ k, 1, Nat.one_pos, ?_, by rw [if_pos large]; simp⟩
      rw [zpow_add₀ two_ne_zero]
      norm_num
    · obtain ⟨k, hk⟩ := Int.eq_ofNat_of_zero_le (Int.sub_nonneg.mpr (Int.le_of_lt (not_le.mp large)))
      obtain rfl : e = 2 - (k : Int) := by omega
      refine ⟨1, 2 ^ k, Nat.pow_pos (by decide), ?_, by rw [if_neg large]; simp⟩
      rw [zpow_sub₀ two_ne_zero]
      norm_num [div_div]
      ring
  obtain ⟨up, den, den_pos, unit, same⟩ := units
  have quarter (n : Nat) (q : ℚ) (h : (n : ℚ) = 4 * q) : ((n * up : Nat) : ℚ) / den = q * 2 ^ e := by
    rw [Nat.cast_mul, mul_div_assoc, unit, h]
    ring
  unfold interval
  rw [same]
  refine ⟨den_pos, ?_, quarter _ _ (by push_cast; ring), quarter _ _ (by push_cast; ring), by simp⟩
  simp only [Nat.pow_eq]
  unfold gapBelow
  split_ifs with halved
  · refine quarter _ _ ?_
    rw [Nat.cast_sub (by omega)]
    push_cast
    ring
  · refine quarter _ _ ?_
    rw [Nat.cast_sub (by omega)]
    push_cast
    ring

/-- A decimal inside the interval rounds to the double. -/
theorem rounds_of_holds (around : i.Around m e) {d : Nat} {grid : Int} (holds : i.holds d grid = true) :
    Rounds m e (d * 10 ^ grid) := by
  obtain ⟨den_pos, low, -, high, closed⟩ := around
  have below_lt := compareGrid_lt i.low d grid den_pos
  have below_gt := compareGrid_gt i.low d grid den_pos
  have above_lt := compareGrid_lt i.high d grid den_pos
  have above_gt := compareGrid_gt i.high d grid den_pos
  rw [low] at below_lt below_gt
  rw [high] at above_lt above_gt
  unfold Interval.holds at holds
  cases even : i.closed with
  | true =>
    rw [even, if_pos rfl, Bool.and_eq_true, bne_iff_ne, bne_iff_ne] at holds
    refine ⟨not_lt.mp (below_gt.not.mp holds.1), not_lt.mp (above_lt.not.mp holds.2), fun odd => ?_⟩
    rw [closed.mp even] at odd
    cases odd
  | false =>
    rw [even, if_neg Bool.false_ne_true, Bool.and_eq_true, beq_iff_eq, beq_iff_eq] at holds
    have inside := And.intro (below_lt.mp holds.1) (above_gt.mp holds.2)
    exact ⟨inside.1.le, inside.2.le, fun _ => inside⟩

/-! ## Grids -/

/-- The integer part on a grid is the last point of the grid at or below the value. -/
theorem floor_spec (around : i.Around m e) (grid : Int) :
    i.floor grid * (10 : ℚ) ^ grid ≤ m * 2 ^ e ∧ (m : ℚ) * 2 ^ e < (i.floor grid + 1) * 10 ^ grid := by
  obtain ⟨den_pos, -, value, -, -⟩ := around
  have positive : (0 : ℚ) < i.den := by exact_mod_cast den_pos
  rw [← value, le_div_iff₀ positive, div_lt_iff₀ positive]
  unfold Interval.floor
  by_cases h : 0 ≤ grid
  · obtain ⟨k, rfl⟩ := Int.eq_ofNat_of_zero_le h
    have unit : 0 < 10 ^ k * i.den := Nat.mul_pos (Nat.pow_pos (by decide)) den_pos
    have down := Nat.div_mul_le_self i.value (10 ^ k * i.den)
    have up := Nat.lt_mul_div_succ i.value unit
    rw [if_pos h]
    simp only [Int.toNat_natCast, Nat.pow_eq, zpow_natCast]
    refine ⟨?_, ?_⟩
    · rw [mul_assoc]
      exact_mod_cast down
    · rw [mul_assoc, mul_comm]
      exact_mod_cast up
  · obtain ⟨k, hk⟩ := Int.eq_ofNat_of_zero_le (Int.le_of_lt (Int.neg_pos_of_neg (not_le.mp h)))
    obtain rfl : grid = -(k : Int) := by omega
    have power : (0 : ℚ) < 10 ^ k := by positivity
    have down := Nat.div_mul_le_self (i.value * 10 ^ k) i.den
    have up := Nat.lt_mul_div_succ (i.value * 10 ^ k) den_pos
    rw [if_neg h, zpow_neg, zpow_natCast, ← div_eq_mul_inv, ← div_eq_mul_inv, div_mul_eq_mul_div, div_le_iff₀ power,
      div_mul_eq_mul_div, lt_div_iff₀ power]
    simp only [neg_neg, Int.toNat_natCast, Nat.pow_eq]
    refine ⟨?_, ?_⟩
    · exact_mod_cast down
    · rw [mul_comm _ (i.den : ℚ)]
      exact_mod_cast up

/-- On a grid as fine as a quarter of the unit, the last point at or below the value rounds to the double. -/
theorem rounds_of_floor (around : i.Around m e) {grid : Int} (fine : (10 : ℚ) ^ grid ≤ 2 ^ e / 4) :
    Rounds m e (i.floor grid * 10 ^ grid) := by
  obtain ⟨down, up⟩ := floor_spec around grid
  have unit : (0 : ℚ) < 2 ^ e := by positivity
  have gap : (1 : ℚ) / 4 ≤ gapBelow m e := by
    unfold gapBelow
    split <;> norm_num
  have above : ((m : ℚ) - gapBelow m e) * 2 ^ e < i.floor grid * 10 ^ grid := by
    have reach : 1 / 4 * (2 : ℚ) ^ e ≤ gapBelow m e * 2 ^ e := by gcongr
    linarith
  have below : i.floor grid * (10 : ℚ) ^ grid < ((m : ℚ) + 1 / 2) * 2 ^ e := by linarith
  exact ⟨above.le, below.le, fun _ => ⟨above, below⟩⟩

theorem pick?_rounds (around : i.Around m e) {grid : Int} {d : Nat} (picked : i.pick? grid = some d) :
    Rounds m e (d * 10 ^ grid) := by
  refine rounds_of_holds around ?_
  unfold Interval.pick? at picked
  dsimp only at picked
  split at picked
  next lower upper =>
    split at picked
    · rwa [← Option.some.inj picked]
    · rwa [← Option.some.inj picked]
    · split_ifs at picked <;> rwa [← Option.some.inj picked]
  next lower upper => rwa [← Option.some.inj picked]
  next lower upper => rwa [← Option.some.inj picked]
  next => cases picked

/-- **The search** for digits ends with some that round to the double, if its last grid is fine. -/
theorem search_rounds (around : i.Around m e) :
    ∀ (n : Nat) (grid : Int), (10 : ℚ) ^ (grid - n) ≤ 2 ^ e / 4 →
      Rounds m e ((i.search n grid).1 * 10 ^ (i.search n grid).2)
  | 0, grid, fine => rounds_of_floor around (by simpa using fine)
  | n + 1, grid, fine => by
    rw [Interval.search]
    cases picked : i.pick? grid with
    | some d => exact pick?_rounds around picked
    | none =>
      refine search_rounds around n (grid - 1) ?_
      rwa [show grid - 1 - (n : Int) = grid - ((n + 1 : Nat) : Int) by omega]

end

/-! ## The leading digit -/

/-- From a guess below it, the magnitude is found at or below the leading digit. -/
theorem magnitudeFrom_spec {num den : Nat} (den_pos : 0 < den) :
    ∀ (n : Nat) (p : Int), (10 : ℚ) ^ (p - 1) ≤ num / den →
      (10 : ℚ) ^ (magnitudeFrom num den n p - 1) ≤ num / den
  | 0, _, low => low
  | n + 1, p, low => by
    rw [magnitudeFrom]
    split
    · exact low
    next above =>
      refine magnitudeFrom_spec den_pos n (p + 1) ?_
      rw [beq_iff_eq, compareGrid_lt _ _ _ den_pos] at above
      simpa using above

/-- The guess of the magnitude from the power of two, in natural numbers. -/
def guessFits (l : Int) : Bool :=
  let k := l * 30103 / 100000 - 2
  10 ^ k.toNat * 2 ^ (-l).toNat ≤ 2 ^ l.toNat * 10 ^ (-k).toNat

/-- The guess of the magnitude fits all powers of two of doubles. -/
theorem guessFits_all : (List.range 2098).all (fun n => guessFits ((n : Int) - 1074)) = true := by decide +kernel

theorem zpow_eq_div {a : ℚ} (h : a ≠ 0) (k : Int) : a ^ k = a ^ k.toNat / a ^ (-k).toNat := by
  rw [← zpow_natCast, ← zpow_natCast, ← zpow_sub₀ h]
  congr 1
  omega

theorem guess_le {l : Int} (low : -1074 ≤ l) (high : l ≤ 1023) :
    (10 : ℚ) ^ (l * 30103 / 100000 - 2) ≤ 2 ^ l := by
  have fits : guessFits l = true := by
    have all := List.all_eq_true.mp guessFits_all (l + 1074).toNat (by rw [List.mem_range]; omega)
    rwa [show ((l + 1074).toNat : Int) - 1074 = l by omega] at all
  rw [zpow_eq_div (by norm_num), zpow_eq_div two_ne_zero, div_le_div_iff₀ (by positivity) (by positivity)]
  exact_mod_cast of_decide_eq_true fits

/-! ## Digits -/

/-- Decimal digits without a leading nought. -/
structure Numeral (ds : List Char) : Prop where
  nonempty : ds ≠ []
  digits : ∀ c ∈ ds, c.isDigit = true
  leading : ds.head? ≠ some '0'

theorem numeral_toDigits {n : Nat} (positive : 0 < n) : Numeral (Nat.toDigits 10 n) := by
  refine ⟨Nat.toDigits_ne_nil, fun c => Nat.isDigit_of_mem_toDigits (by decide) (by decide), ?_⟩
  induction n using Nat.strongRecOn with
  | ind n ih =>
    by_cases single : n < 10
    · rw [Nat.toDigits_of_lt_base single]
      exact (by decide : ∀ n < 10, 0 < n → [n.digitChar].head? ≠ some '0') n single positive
    · rw [Nat.toDigits_of_base_le (by decide) (not_lt.mp single), List.head?_append_of_ne_nil _ Nat.toDigits_ne_nil]
      exact ih (n / 10) (by omega) (by omega)

/-- Without the noughts at its end, a number is a shorter numeral times a power of ten. -/
theorem kept_spec {n : Nat} (positive : 0 < n) {kept : List Char}
    (h : kept = ((Nat.toDigits 10 n).reverse.dropWhile (· == '0')).reverse) :
    ∃ k, (Nat.toDigits 10 n).length = kept.length + k ∧ n = 10 ^ k * Nat.ofDigitChars 10 kept 0 ∧ Numeral kept := by
  obtain ⟨-, digits, leading⟩ := numeral_toDigits positive
  set noughts := ((Nat.toDigits 10 n).reverse.takeWhile (· == '0')).reverse with dropped
  have split : Nat.toDigits 10 n = kept ++ noughts := by
    rw [h, dropped, ← List.reverse_append, List.takeWhile_append_dropWhile, List.reverse_reverse]
  have all : noughts = List.replicate noughts.length '0' := by
    refine List.eq_replicate_of_mem fun c here => ?_
    rw [dropped, List.mem_reverse] at here
    simpa using List.all_eq_true.mp List.all_takeWhile c here
  have value : n = 10 ^ noughts.length * Nat.ofDigitChars 10 kept 0 := by
    rw [← Nat.ofDigitChars_replicate_zero, ← all, ← Nat.ofDigitChars_append, ← split, Nat.ofDigitChars_ten_toDigits]
  have nonempty : kept ≠ [] := by
    rintro rfl
    rw [Nat.ofDigitChars_nil] at value
    omega
  refine ⟨noughts.length, by rw [split, List.length_append], value, nonempty, fun c here => ?_, ?_⟩
  · exact digits c (by rw [split]; exact List.mem_append_left _ here)
  · rwa [split, List.head?_append_of_ne_nil _ nonempty] at leading

/-- **The digits of a double** stand for a decimal that rounds to it. -/
theorem digits_rounds {m : Nat} {e : Int} (positive : 0 < m) (small : m < 2 ^ 53) (low : -1074 ≤ e)
    (high : e ≤ 971) {ds : List Char} {point : Int} (h : digits m e = (ds, point)) :
    Numeral ds ∧ Rounds m e (Nat.ofDigitChars 10 ds 0 * 10 ^ (point - ds.length)) := by
  have around := interval_spec (e := e) positive
  have unit : (0 : ℚ) < 2 ^ e := by positivity
  unfold digits at h
  dsimp only at h
  set p := magnitudeFrom (interval m e).value (interval m e).den 5
    (((Nat.log2 m : Int) + e) * 30103 / 100000 - 1)
  set found := (interval m e).search 17 (p - 1)
  obtain ⟨kept, rfl⟩ := Prod.mk.inj h
  have leading : (10 : ℚ) ^ (p - 1) ≤ m * 2 ^ e := by
    rw [← around.value]
    refine magnitudeFrom_spec around.den_pos 5 _ ?_
    have log : Nat.log2 m < 53 := (Nat.log2_lt positive.ne').mpr small
    rw [around.value, Int.sub_sub]
    calc (10 : ℚ) ^ (((Nat.log2 m : Int) + e) * 30103 / 100000 - 2) ≤ 2 ^ ((Nat.log2 m : Int) + e) :=
          guess_le (by omega) (by omega)
      _ = 2 ^ (Nat.log2 m : Int) * 2 ^ e := zpow_add₀ two_ne_zero _ _
      _ ≤ m * 2 ^ e := by gcongr; exact (Binary64.log2_bounds positive).1
  -- seventeen digits behind the leading one are enough, since four times the mantissa has no more
  have fine : (10 : ℚ) ^ (p - 1 - (17 : Nat)) ≤ 2 ^ e / 4 := by
    have most : (m : ℚ) ≤ 2 ^ 53 := by exact_mod_cast small.le
    rw [zpow_sub₀ (by norm_num), zpow_natCast, div_le_div_iff₀ (by positivity) (by norm_num)]
    calc (10 : ℚ) ^ (p - 1) * 4 ≤ 2 ^ 53 * 2 ^ e * 4 := by gcongr; exact leading.trans (by gcongr)
      _ ≤ 2 ^ e * 10 ^ 17 := by linarith
  have rounds : Rounds m e (found.1 * 10 ^ found.2) := search_rounds around 17 (p - 1) fine
  have some_digit : 0 < found.1 := by
    have gap := gapBelow_le m e
    have one : (1 : ℚ) ≤ m := by exact_mod_cast positive
    have least : (0 : ℚ) < ((m : ℚ) - gapBelow m e) * 2 ^ e := mul_pos (by linarith) unit
    rcases Nat.eq_zero_or_pos found.1 with none | some
    · have above := rounds.above
      rw [none, Nat.cast_zero, zero_mul] at above
      exact absurd above (not_le.mpr least)
    · exact some
  obtain ⟨k, length, value, numeral⟩ := kept_spec some_digit kept.symm
  refine ⟨numeral, ?_⟩
  have same : (found.1 : ℚ) * 10 ^ found.2 =
      Nat.ofDigitChars 10 ds 0 * 10 ^ (found.2 + (Nat.toDigits 10 found.1).length - ds.length) := by
    rw [length, show found.2 + ((ds.length + k : Nat) : Int) - ds.length = (k : Int) + found.2 by omega,
      zpow_add₀ (by norm_num), zpow_natCast, ← mul_assoc, mul_comm _ ((10 : ℚ) ^ k)]
    exact congrArg (· * (10 : ℚ) ^ found.2) (by exact_mod_cast value)
  rwa [← same]

end Freebox.Shortest
