import Freebox.Number.Binary64
import Mathlib.Algebra.Order.Field.Power
import Mathlib.Data.Rat.Cast.Order
import Mathlib.Tactic.FieldSimp
import Mathlib.Tactic.Linarith
import Mathlib.Tactic.Positivity
import Mathlib.Tactic.Ring

/-!
# `Freebox.Proofs.Number.Rounding` — quotients and the doubles nearest to them

Every double has one form, and every quotient between the middles of the gaps beside a double rounds to it. Below a
power of two the gap is half as wide as above. A quotient in a middle rounds to the double with an even mantissa.

## Contents
- `Binary64.Canonical`: the one form of a double.
- `Binary64.binade_eq`, `Binary64.roundDiv_eq`: the steps of rounding.
- `Binary64.Rounds`, `Binary64.nearest_of_rounds`: the quotients that round to a double.
- `Binary64.nearest_canonical`: rounding gives the one form.
- `Binary64.ofDecimal_of_rounds`, `Binary64.ofDecimal_canonical`: the same for decimals.
-/

namespace Freebox.Binary64

/-- A double is in its one form: a mantissa below 2 ^ 53, and the lowest exponent that there is for it. -/
def Canonical : Binary64 → Prop
  | .finite _ m e => m < 2 ^ 53 ∧ -1074 ≤ e ∧ e ≤ 971 ∧ (2 ^ 52 ≤ m ∨ e = -1074)
  | _ => True

/-! ## Steps of rounding -/

section
variable {num den : Nat}

/-- A quotient scaled down is one over a positive number, and that much smaller. -/
theorem scaleDown_spec (num : Nat) (hd : 0 < den) (e : Int) :
    0 < (scaleDown num den e).2 ∧
      ((scaleDown num den e).1 : ℚ) / (scaleDown num den e).2 = num / den / 2 ^ e := by
  unfold scaleDown
  have positive : (0 : ℚ) < den := by exact_mod_cast hd
  by_cases h : 0 ≤ e
  · obtain ⟨k, rfl⟩ := Int.eq_ofNat_of_zero_le h
    rw [if_pos h]
    refine ⟨Nat.mul_pos hd (Nat.pow_pos (by decide)), ?_⟩
    simp [div_div]
  · obtain ⟨k, hk⟩ := Int.eq_ofNat_of_zero_le (Int.le_of_lt (Int.neg_pos_of_neg (not_le.mp h)))
    obtain rfl : e = -(k : Int) := by omega
    rw [if_neg h]
    refine ⟨hd, ?_⟩
    simp [div_mul_eq_mul_div]

theorem log2_bounds {n : Nat} (h : 0 < n) : (2 : ℚ) ^ (n.log2 : Int) ≤ n ∧ (n : ℚ) < 2 ^ ((n.log2 : Int) + 1) := by
  constructor
  · have low := Nat.log2_self_le (Nat.pos_iff_ne_zero.mp h)
    rw [zpow_natCast]
    exact_mod_cast low
  · have high : n < 2 ^ (n.log2 + 1) := Nat.lt_log2_self
    rw [show (n.log2 : Int) + 1 = ((n.log2 + 1 : Nat) : Int) by push_cast; rfl, zpow_natCast]
    exact_mod_cast high

/-- The binade of a quotient lies between the powers of two around it. -/
theorem binade_spec (hn : 0 < num) (hd : 0 < den) :
    (2 : ℚ) ^ binade num den ≤ num / den ∧ (num : ℚ) / den < 2 ^ (binade num den + 1) := by
  have positive : (0 : ℚ) < den := by exact_mod_cast hd
  obtain ⟨num_low, num_high⟩ := log2_bounds hn
  obtain ⟨den_low, den_high⟩ := log2_bounds hd
  set guess : Int := (Nat.log2 num : Int) - (Nat.log2 den : Int) with guessed
  obtain ⟨scaled_pos, scaled⟩ := scaleDown_spec num hd guess
  have scaled_positive : (0 : ℚ) < (scaleDown num den guess).2 := by exact_mod_cast scaled_pos
  -- the guess is at most one too high
  have above : (num : ℚ) / den < 2 ^ (guess + 1) := by
    rw [div_lt_iff₀ positive]
    calc (num : ℚ) < 2 ^ ((num.log2 : Int) + 1) := num_high
      _ = 2 ^ (guess + 1) * 2 ^ (den.log2 : Int) := by rw [← zpow_add₀ two_ne_zero]; congr 1; omega
      _ ≤ 2 ^ (guess + 1) * den := by gcongr
  have below : (2 : ℚ) ^ (guess - 1) ≤ num / den := by
    rw [le_div_iff₀ positive]
    calc (2 : ℚ) ^ (guess - 1) * den ≤ 2 ^ (guess - 1) * 2 ^ ((den.log2 : Int) + 1) := by gcongr
      _ = 2 ^ (num.log2 : Int) := by rw [← zpow_add₀ two_ne_zero]; congr 1; omega
      _ ≤ num := num_low
  have power : (0 : ℚ) < 2 ^ guess := by positivity
  unfold binade
  simp only [← guessed]
  by_cases h : (scaleDown num den guess).2 ≤ (scaleDown num den guess).1
  · rw [if_pos h]
    refine ⟨?_, above⟩
    have one : (1 : ℚ) ≤ num / den / 2 ^ guess := by
      rw [← scaled, le_div_iff₀ scaled_positive, one_mul]
      exact_mod_cast h
    rwa [le_div_iff₀ power, one_mul] at one
  · rw [if_neg h]
    refine ⟨below, ?_⟩
    have one : (num : ℚ) / den / 2 ^ guess < 1 := by
      rw [← scaled, div_lt_iff₀ scaled_positive, one_mul]
      exact_mod_cast not_le.mp h
    rw [div_lt_iff₀ power, one_mul] at one
    simpa using one

/-- There is one binade of a quotient. -/
theorem binade_eq (hn : 0 < num) (hd : 0 < den) {b : Int} (low : (2 : ℚ) ^ b ≤ num / den)
    (high : (num : ℚ) / den < 2 ^ (b + 1)) : binade num den = b := by
  obtain ⟨below, above⟩ := binade_spec hn hd
  have less : (2 : ℚ) ^ b < 2 ^ (binade num den + 1) := low.trans_lt above
  have more : (2 : ℚ) ^ binade num den < 2 ^ (b + 1) := below.trans_lt high
  rw [zpow_lt_zpow_iff_right₀ one_lt_two] at less more
  omega

/-- A quotient rounds to an integer at most one half away; one half away, to an even one. -/
theorem roundDiv_eq {n d k : Nat} (hd : 0 < d) (low : (k : ℚ) - 1 / 2 ≤ n / d) (high : (n : ℚ) / d ≤ k + 1 / 2)
    (odd : k % 2 = 1 → (k : ℚ) - 1 / 2 < n / d ∧ (n : ℚ) / d < k + 1 / 2) : roundDiv n d = k := by
  have positive : (0 : ℚ) < d := by exact_mod_cast hd
  -- the bounds as inequalities between natural numbers
  have low' : 2 * (k * d) ≤ 2 * n + d := by
    rw [le_div_iff₀ positive] at low
    have h : (2 * (k * d) : ℚ) ≤ 2 * n + d := by linarith
    exact_mod_cast h
  have high' : 2 * n ≤ 2 * (k * d) + d := by
    rw [div_le_iff₀ positive] at high
    have h : (2 * n : ℚ) ≤ 2 * (k * d) + d := by linarith
    exact_mod_cast h
  have odd' : k % 2 = 1 → 2 * (k * d) < 2 * n + d ∧ 2 * n < 2 * (k * d) + d := by
    intro h
    obtain ⟨l, r⟩ := odd h
    rw [lt_div_iff₀ positive] at l
    rw [div_lt_iff₀ positive] at r
    have hl : (2 * (k * d) : ℚ) < 2 * n + d := by linarith
    have hr : (2 * n : ℚ) < 2 * (k * d) + d := by linarith
    exact ⟨by exact_mod_cast hl, by exact_mod_cast hr⟩
  have split : n = n / d * d + n % d := (Nat.div_add_mod' n d).symm
  have small : n % d < d := Nat.mod_lt n hd
  set q := n / d
  set r := n % d
  have either : k = q ∨ k = q + 1 := by
    have upper : k < q + 2 := by
      by_contra h
      have : (q + 2) * d ≤ k * d := Nat.mul_le_mul_right d (not_lt.mp h)
      rw [Nat.add_mul] at this
      omega
    have lower : q ≤ k := by
      by_contra h
      have : (k + 1) * d ≤ q * d := Nat.mul_le_mul_right d (not_le.mp h)
      rw [Nat.add_mul] at this
      omega
    omega
  have unfolded : roundDiv n d = if 2 * r < d then q else if d < 2 * r then q + 1 else if q % 2 = 0 then q else q + 1 :=
    rfl
  rw [unfolded]
  rcases either with rfl | rfl
  · split_ifs <;> omega
  · rw [Nat.add_mul] at low' high' odd'
    split_ifs <;> omega

end

/-! ## The quotients that round to a double -/

/-- How far the gap below a double reaches down, in units of its last place. -/
def gapBelow (m : Nat) (e : Int) : ℚ := if m = 2 ^ 52 ∧ -1074 < e then 1 / 4 else 1 / 2

theorem gapBelow_le (m : Nat) (e : Int) : gapBelow m e ≤ 1 / 2 := by
  unfold gapBelow
  split <;> norm_num

/-- A quotient rounds to `m * 2 ^ e`: it is no farther away than the middles of the gaps, and nearer if `m` is odd. -/
structure Rounds (m : Nat) (e : Int) (q : ℚ) : Prop where
  above : ((m : ℚ) - gapBelow m e) * 2 ^ e ≤ q
  below : q ≤ ((m : ℚ) + 1 / 2) * 2 ^ e
  odd : m % 2 = 1 → ((m : ℚ) - gapBelow m e) * 2 ^ e < q ∧ q < ((m : ℚ) + 1 / 2) * 2 ^ e

section
variable {num den m : Nat} {e : Int} {negative : Bool}

/-- Rounding, by the exponent and the mantissa that come out before a carry. -/
theorem nearest_apply (hn : 0 < num) {k : Nat} (exponent : max (binade num den - 52) (-1074) = e)
    (mantissa : roundDiv (scaleDown num den e).1 (scaleDown num den e).2 = k) :
    nearest negative num den =
      if k = 2 ^ 53 then (if 971 < e + 1 then .infinite negative else .finite negative (2 ^ 52) (e + 1))
      else if 971 < e then .infinite negative else .finite negative k e := by
  unfold nearest
  rw [if_neg hn.ne', exponent]
  simp only [mantissa]
  by_cases carry : k = 2 ^ 53
  · subst carry
    rfl
  · have none_carried : ¬ k = Nat.pow 2 53 := carry
    rw [if_neg none_carried, if_neg carry]

/-- Only below a power of two a quotient that rounds to a double lies in a lower binade. -/
theorem power_of_below {q : ℚ} (normal : 2 ^ 52 ≤ m) (least : -1074 < e)
    (above : ((m : ℚ) - gapBelow m e) * 2 ^ e ≤ q) (low : q < 2 ^ (e + 52)) :
    m = 2 ^ 52 ∧ ((2 : ℚ) ^ 52 - 1 / 4) * 2 ^ e ≤ q := by
  have unit : (0 : ℚ) < 2 ^ e := by positivity
  have power : (2 : ℚ) ^ (e + 52) = 2 ^ 52 * 2 ^ e := by
    rw [zpow_add₀ two_ne_zero, mul_comm]
    norm_num
  have gap := gapBelow_le m e
  have exact : m = 2 ^ 52 := by
    by_contra other
    have more : (2 : ℚ) ^ 52 + 1 ≤ m := by exact_mod_cast Nat.lt_of_le_of_ne normal (Ne.symm other)
    have : (2 : ℚ) ^ 52 * 2 ^ e ≤ ((m : ℚ) - gapBelow m e) * 2 ^ e := by gcongr; linarith
    linarith
  subst exact
  refine ⟨rfl, ?_⟩
  have quarter : gapBelow (2 ^ 52) e = 1 / 4 := if_pos ⟨rfl, least⟩
  rw [quarter] at above
  exact_mod_cast above

/-- A quotient just below a power of two rounds to that power. -/
theorem nearest_below_power (hn : 0 < num) (hd : 0 < den) (least : -1074 < e) (highest : e ≤ 971)
    (above : ((2 : ℚ) ^ 52 - 1 / 4) * 2 ^ e ≤ num / den) (low : (num : ℚ) / den < 2 ^ (e + 52)) :
    nearest negative num den = .finite negative (2 ^ 52) e := by
  have unit : (0 : ℚ) < 2 ^ (e - 1) := by positivity
  have double : (2 : ℚ) ^ e = 2 * 2 ^ (e - 1) := by
    rw [← zpow_one_add₀ two_ne_zero]
    congr 1
    omega
  have binade : binade num den = e + 51 := by
    refine binade_eq hn hd ?_ (by convert low using 2; omega)
    have power : (2 : ℚ) ^ (e + 51) = 2 ^ 51 * 2 ^ e := by
      rw [zpow_add₀ two_ne_zero, mul_comm]
      norm_num
    have less : (2 : ℚ) ^ 51 * 2 ^ e ≤ ((2 : ℚ) ^ 52 - 1 / 4) * 2 ^ e := by gcongr; norm_num
    rw [power]
    linarith
  obtain ⟨scaled_pos, scaled⟩ := scaleDown_spec num hd (e - 1)
  have mantissa : roundDiv (scaleDown num den (e - 1)).1 (scaleDown num den (e - 1)).2 = 2 ^ 53 := by
    have lower : (2 : ℚ) ^ 53 - 1 / 2 ≤ num / den / 2 ^ (e - 1) := by
      rw [le_div_iff₀ unit]
      rw [double] at above
      linarith
    have upper : (num : ℚ) / den / 2 ^ (e - 1) ≤ 2 ^ 53 := by
      rw [div_le_iff₀ unit, ← zpow_natCast, ← zpow_add₀ two_ne_zero]
      convert low.le using 2
      push_cast
      omega
    refine roundDiv_eq scaled_pos ?_ ?_ fun h => absurd h (by decide)
    · rw [scaled]
      exact_mod_cast lower
    · rw [scaled]
      push_cast
      linarith
  rw [nearest_apply hn (by rw [binade]; omega) mantissa, if_pos rfl, if_neg (by omega)]
  congr 1
  omega

/-- Without a carry the mantissa comes out at once. -/
theorem nearest_settled (negative : Bool) (hn : 0 < num) (hd : 0 < den) (small : m < 2 ^ 53) (highest : e ≤ 971)
    (rounds : Rounds m e (num / den)) (exponent : max (binade num den - 52) (-1074) = e) :
    nearest negative num den = .finite negative m e := by
  obtain ⟨above, below, odd⟩ := rounds
  have unit : (0 : ℚ) < 2 ^ e := by positivity
  have gap := gapBelow_le m e
  obtain ⟨scaled_pos, scaled⟩ := scaleDown_spec num hd e
  have mantissa : roundDiv (scaleDown num den e).1 (scaleDown num den e).2 = m := by
    have lower : (m : ℚ) - gapBelow m e ≤ num / den / 2 ^ e := by rwa [le_div_iff₀ unit]
    refine roundDiv_eq scaled_pos ?_ ?_ fun h => ?_
    · rw [scaled]
      linarith
    · rw [scaled]
      rwa [div_le_iff₀ unit]
    · obtain ⟨l, r⟩ := odd h
      rw [← lt_div_iff₀ unit] at l
      rw [← div_lt_iff₀ unit] at r
      rw [scaled]
      exact ⟨by linarith, r⟩
  rw [nearest_apply hn exponent mantissa, if_neg small.ne, if_neg (not_lt.mpr highest)]

/-- **A quotient that rounds to a double** has it as its nearest one. -/
theorem nearest_of_rounds (hd : 0 < den) (positive : 0 < m) (canonical : (Binary64.finite negative m e).Canonical)
    (rounds : Rounds m e (num / den)) : nearest negative num den = .finite negative m e := by
  obtain ⟨small, lowest, highest, normal⟩ := canonical
  obtain ⟨above, below, odd⟩ := rounds
  have unit : (0 : ℚ) < 2 ^ e := by positivity
  have one : (1 : ℚ) ≤ m := by exact_mod_cast positive
  have gap := gapBelow_le m e
  have hn : 0 < num := by
    rcases Nat.eq_zero_or_pos num with rfl | h
    · have : (0 : ℚ) < ((m : ℚ) - gapBelow m e) * 2 ^ e := mul_pos (by linarith) unit
      simp at above
      linarith
    · exact h
  have high : (num : ℚ) / den < 2 ^ (e + 53) := by
    have top : (m : ℚ) + 1 / 2 < 2 ^ 53 := by
      have : (m : ℚ) + 1 ≤ 2 ^ 53 := by exact_mod_cast small
      linarith
    calc (num : ℚ) / den ≤ ((m : ℚ) + 1 / 2) * 2 ^ e := below
      _ < 2 ^ 53 * 2 ^ e := by gcongr
      _ = 2 ^ (e + 53) := by rw [← zpow_natCast, ← zpow_add₀ two_ne_zero]; congr 1; omega
  have settled := nearest_settled negative hn hd small highest ⟨above, below, odd⟩
  have highest_bit : binade num den ≤ e + 52 := by
    have spec := (binade_spec hn hd).1.trans_lt high
    rw [zpow_lt_zpow_iff_right₀ one_lt_two] at spec
    omega
  rcases normal with normal | rfl
  · by_cases low : (2 : ℚ) ^ (e + 52) ≤ num / den
    · refine settled ?_
      rw [binade_eq hn hd low (by convert high using 2; omega)]
      omega
    · by_cases least : e = -1074
      · exact settled (by omega)
      · -- below a power of two the exponent comes out one lower, and the mantissa is carried
        obtain ⟨rfl, power⟩ := power_of_below (e := e) normal (by omega) above (not_le.mp low)
        exact nearest_below_power hn hd (by omega) highest power (not_le.mp low)
  · exact settled (by omega)

/-! ## The form of what is rounded -/

/-- A quotient rounds down or up. -/
theorem roundDiv_bounds (n d : Nat) : n / d ≤ roundDiv n d ∧ roundDiv n d ≤ n / d + 1 := by
  unfold roundDiv
  dsimp only
  split_ifs <;> omega

/-- **Rounding** gives a double in its one form. -/
theorem nearest_canonical (hd : 0 < den) : (nearest negative num den).Canonical := by
  rcases Nat.eq_zero_or_pos num with rfl | hn
  · exact ⟨by decide, by decide, by decide, Or.inr rfl⟩
  obtain ⟨low, high⟩ := binade_spec hn hd
  set b := binade num den
  set e := max (b - 52) (-1074) with exponent
  obtain ⟨scaled_pos, scaled⟩ := scaleDown_spec num hd e
  set n := (scaleDown num den e).1
  set d := (scaleDown num den e).2
  have positive : (0 : ℚ) < d := by exact_mod_cast scaled_pos
  have unit : (0 : ℚ) < 2 ^ e := by positivity
  -- the scaled quotient is below 2 ^ 53, and at or above 2 ^ 52 unless the exponent is the lowest
  have under : n < 2 ^ 53 * d := by
    have : (n : ℚ) / d < 2 ^ 53 := by
      rw [scaled, div_lt_iff₀ unit]
      calc (num : ℚ) / den < 2 ^ (b + 1) := high
        _ ≤ 2 ^ ((53 : Int) + e) := zpow_le_zpow_right₀ one_le_two (by omega)
        _ = 2 ^ 53 * 2 ^ e := by rw [zpow_add₀ two_ne_zero]; norm_num
    rw [div_lt_iff₀ positive] at this
    exact_mod_cast this
  have normal : e ≠ -1074 → 2 ^ 52 * d ≤ n := by
    intro h
    have : (2 : ℚ) ^ 52 ≤ n / d := by
      rw [scaled, le_div_iff₀ unit]
      calc (2 : ℚ) ^ 52 * 2 ^ e = 2 ^ ((52 : Int) + e) := by rw [zpow_add₀ two_ne_zero]; norm_num
        _ ≤ 2 ^ b := zpow_le_zpow_right₀ one_le_two (by omega)
        _ ≤ num / den := low
    rw [le_div_iff₀ positive] at this
    exact_mod_cast this
  obtain ⟨down, up⟩ := roundDiv_bounds n d
  have most : roundDiv n d ≤ 2 ^ 53 := by
    have : n / d < 2 ^ 53 := (Nat.div_lt_iff_lt_mul scaled_pos).mpr under
    omega
  have least : e ≠ -1074 → 2 ^ 52 ≤ roundDiv n d := by
    intro h
    exact ((Nat.le_div_iff_mul_le scaled_pos).mpr (normal h)).trans down
  rw [nearest_apply hn exponent.symm rfl]
  split_ifs with carry carried infinite
  · trivial
  · exact ⟨by decide, by omega, by omega, Or.inl le_rfl⟩
  · trivial
  · refine ⟨Nat.lt_of_le_of_ne most carry, by omega, by omega, ?_⟩
    by_cases h : e = -1074
    · exact Or.inr h
    · exact Or.inl (least h)

/-! ## Decimals -/

theorem digitCount_bounds {n : Nat} (h : 0 < n) : 10 ^ (digitCount n - 1) ≤ n ∧ n < 10 ^ digitCount n := by
  unfold digitCount
  have some_digit : 0 < (Nat.toDigits 10 n).length := List.length_pos_of_ne_nil Nat.toDigits_ne_nil
  refine ⟨?_, (Nat.length_toDigits_le_iff (by decide) some_digit).mp le_rfl⟩
  rcases Nat.lt_or_ge (Nat.toDigits 10 n).length 2 with one | more
  · rw [show (Nat.toDigits 10 n).length - 1 = 0 by omega]
    exact h
  · by_contra less
    have := (Nat.length_toDigits_le_iff (b := 10) (n := n) (by decide) (by omega)).mpr (not_le.mp less)
    omega

/-- All finite doubles are below a power of ten. -/
theorem greatest_lt : (2 : ℚ) ^ (1024 : Int) < 10 ^ (309 : Int) := by
  have h : 2 ^ 1024 < 10 ^ 309 := by decide +kernel
  exact_mod_cast h

/-- All that rounds to a positive double is above a power of ten. -/
theorem lt_least : (10 : ℚ) ^ (-324 : Int) < 2 ^ (-1075 : Int) := by
  have h : 2 ^ 1075 < 10 ^ 324 := by decide +kernel
  rw [zpow_neg, zpow_neg]
  refine inv_strictAnti₀ (by positivity) ?_
  exact_mod_cast h

/-- A decimal that is not far outside the range is rounded as the quotient that it is. -/
theorem ofDecimal_apply (negative : Bool) {digits : Nat} {exponent : Int} (some_digit : 0 < digits)
    (low : -400 ≤ (digitCount digits : Int) + exponent) (high : (digitCount digits : Int) + exponent ≤ 400) :
    ∃ num den : Nat, 0 < den ∧ (num : ℚ) / den = digits * 10 ^ exponent ∧
      ofDecimal negative digits exponent = nearest negative num den := by
  unfold ofDecimal
  rw [if_neg some_digit.ne', if_neg (not_lt.mpr high), if_neg (not_lt.mpr low)]
  by_cases h : 0 ≤ exponent
  · obtain ⟨k, rfl⟩ := Int.eq_ofNat_of_zero_le h
    refine ⟨_, 1, Nat.one_pos, ?_, if_pos h⟩
    simp
  · obtain ⟨k, hk⟩ := Int.eq_ofNat_of_zero_le (Int.le_of_lt (Int.neg_pos_of_neg (not_le.mp h)))
    obtain rfl : exponent = -(k : Int) := by omega
    refine ⟨digits, _, Nat.pow_pos (by decide), ?_, if_neg h⟩
    simp [div_eq_mul_inv]

/-- **A decimal that rounds to a double** is read as it. -/
theorem ofDecimal_of_rounds {digits : Nat} {exponent : Int} (positive : 0 < m)
    (canonical : (Binary64.finite negative m e).Canonical) (rounds : Rounds m e (digits * 10 ^ exponent)) :
    ofDecimal negative digits exponent = .finite negative m e := by
  obtain ⟨small, lowest, highest, -⟩ := id canonical
  have unit : (0 : ℚ) < 2 ^ e := by positivity
  have one : (1 : ℚ) ≤ m := by exact_mod_cast positive
  have gap := gapBelow_le m e
  have least : (2 : ℚ) ^ (-1075 : Int) ≤ digits * 10 ^ exponent := by
    calc (2 : ℚ) ^ (-1075 : Int) = 1 / 2 * 2 ^ (-1074 : Int) := by
          rw [show (-1075 : Int) = -1 + -1074 by rfl, zpow_add₀ two_ne_zero]; norm_num
      _ ≤ 1 / 2 * 2 ^ e := by gcongr; norm_num
      _ ≤ ((m : ℚ) - gapBelow m e) * 2 ^ e := by gcongr; linarith
      _ ≤ digits * 10 ^ exponent := rounds.above
  have most : (digits : ℚ) * 10 ^ exponent < 2 ^ (1024 : Int) := by
    have top : (m : ℚ) + 1 / 2 < 2 ^ 53 := by
      have : (m : ℚ) + 1 ≤ 2 ^ 53 := by exact_mod_cast small
      linarith
    calc (digits : ℚ) * 10 ^ exponent ≤ ((m : ℚ) + 1 / 2) * 2 ^ e := rounds.below
      _ < 2 ^ 53 * 2 ^ e := by gcongr
      _ ≤ 2 ^ 53 * 2 ^ (971 : Int) := by gcongr; norm_num
      _ = 2 ^ (1024 : Int) := by rw [show (1024 : Int) = 53 + 971 by rfl, zpow_add₀ two_ne_zero]; norm_num
  have power : (0 : ℚ) < 10 ^ exponent := by positivity
  have some_digit : 0 < digits := by
    rcases Nat.eq_zero_or_pos digits with rfl | h
    · have : (0 : ℚ) < 2 ^ (-1075 : Int) := by positivity
      rw [Nat.cast_zero, zero_mul] at least
      linarith
    · exact h
  obtain ⟨low, high⟩ := digitCount_bounds some_digit
  set count := digitCount digits
  have counted : 0 < count := List.length_pos_of_ne_nil Nat.toDigits_ne_nil
  -- the number of digits tells the magnitude
  have below : (10 : ℚ) ^ ((count : Int) - 1 + exponent) < 10 ^ (309 : Int) := by
    calc (10 : ℚ) ^ ((count : Int) - 1 + exponent) = 10 ^ (count - 1) * 10 ^ exponent := by
          rw [zpow_add₀ (by norm_num), ← zpow_natCast]; congr 2; omega
      _ ≤ digits * 10 ^ exponent := by gcongr; exact_mod_cast low
      _ < 2 ^ (1024 : Int) := most
      _ < 10 ^ (309 : Int) := greatest_lt
  have above : (10 : ℚ) ^ (-324 : Int) < 10 ^ ((count : Int) + exponent) := by
    calc (10 : ℚ) ^ (-324 : Int) < 2 ^ (-1075 : Int) := lt_least
      _ ≤ digits * 10 ^ exponent := least
      _ < 10 ^ count * 10 ^ exponent := by gcongr; exact_mod_cast high
      _ = 10 ^ ((count : Int) + exponent) := by rw [zpow_add₀ (by norm_num), zpow_natCast]
  rw [zpow_lt_zpow_iff_right₀ (by norm_num)] at below above
  obtain ⟨num, den, hd, same, read⟩ := ofDecimal_apply negative some_digit
    (show -400 ≤ (count : Int) + exponent by omega) (show (count : Int) + exponent ≤ 400 by omega)
  rw [read]
  rw [← same] at rounds
  exact nearest_of_rounds hd positive canonical rounds

/-- **Reading a decimal** gives a double in its one form. -/
theorem ofDecimal_canonical (digits : Nat) (exponent : Int) : (ofDecimal negative digits exponent).Canonical := by
  have zero : (Binary64.finite negative 0 (-1074)).Canonical := ⟨by decide, by decide, by decide, Or.inr rfl⟩
  unfold ofDecimal
  dsimp only
  split_ifs
  · exact zero
  · trivial
  · exact zero
  · exact nearest_canonical Nat.one_pos
  · exact nearest_canonical (Nat.pow_pos (by decide))

end

end Freebox.Binary64
