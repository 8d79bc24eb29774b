/-!
# `Freebox.Number.Binary64` — double precision numbers as exact values

A finite number is a sign, a mantissa and a power of two, in the one form with the mantissa below 2 ^ 53 and the
exponent as low as -1074 allows. So equal numbers are equal terms, zero apart, and everything is decided by exact
arithmetic on natural numbers.

## Contents
- `Binary64`, and the nearest number to a quotient (`Binary64.nearest`) or to a decimal (`Binary64.ofDecimal`).
- `Binary64.truncated`, `Binary64.isZero`, `Binary64.isInteger`.
-/

namespace Freebox

/-- A double precision number. -/
inductive Binary64 where
  | nan
  | infinite (negative : Bool)
  /-- The number `mantissa * 2 ^ exponent`, with a sign. -/
  | finite (negative : Bool) (mantissa : Nat) (exponent : Int)
  deriving DecidableEq, Repr, Inhabited

namespace Binary64

/-! ## Rounding -/

/-- The nearest integer to a quotient; a half goes to the even neighbour. -/
def roundDiv (num den : Nat) : Nat :=
  let q := num / den
  let twice := 2 * (num % den)
  if twice < den then q
  else if den < twice then q + 1
  else if q % 2 = 0 then q else q + 1

/-- A quotient divided by a power of two, again as a quotient. -/
def scaleDown (num den : Nat) (e : Int) : Nat × Nat :=
  if 0 ≤ e then (num, den * Nat.pow 2 e.toNat) else (num * Nat.pow 2 (-e).toNat, den)

/-- The exponent of the power of two at or below a positive quotient. -/
def binade (num den : Nat) : Int :=
  let guess : Int := (Nat.log2 num : Int) - (Nat.log2 den : Int)
  let (n, d) := scaleDown num den guess
  if d ≤ n then guess else guess - 1

/-- The nearest double to a quotient of natural numbers, with a sign. Magnitudes that round to 2 ^ 1024 or more are
infinite. -/
def nearest (negative : Bool) (num den : Nat) : Binary64 :=
  if num = 0 then .finite negative 0 (-1074)
  else
    let e := max (binade num den - 52) (-1074)
    let (n, d) := scaleDown num den e
    let m := roundDiv n d
    let (m, e) := if m = Nat.pow 2 53 then (Nat.pow 2 52, e + 1) else (m, e)
    if 971 < e then .infinite negative else .finite negative m e

/-- The number of decimal digits of a natural number, one for nought. -/
def digitCount (n : Nat) : Nat := (Nat.toDigits 10 n).length

/-- The nearest double to `digits * 10 ^ exponent`. Exponents far outside the range are settled by the number of
digits, so that no huge power is computed. -/
def ofDecimal (negative : Bool) (digits : Nat) (exponent : Int) : Binary64 :=
  let magnitude := (digitCount digits : Int) + exponent
  if digits = 0 then .finite negative 0 (-1074)
  else if 400 < magnitude then .infinite negative
  else if magnitude < -400 then .finite negative 0 (-1074)
  else if 0 ≤ exponent then nearest negative (digits * Nat.pow 10 exponent.toNat) 1
  else nearest negative digits (Nat.pow 10 (-exponent).toNat)

/-! ## Values -/

/-- Both zeros. -/
def isZero : Binary64 → Bool
  | .finite _ 0 _ => true
  | _ => false

/-- A sign before a magnitude. -/
def signed (negative : Bool) (n : Nat) : Int := if negative then -(n : Int) else (n : Int)

/-- The integer next to a finite number in the direction of zero. -/
def truncated (negative : Bool) (mantissa : Nat) (exponent : Int) : Int :=
  if 0 ≤ exponent then signed negative (mantissa * Nat.pow 2 exponent.toNat)
  else signed negative (mantissa / Nat.pow 2 (-exponent).toNat)

/-- Whether a number is the given integer. -/
def isInteger (x : Binary64) (n : Int) : Bool :=
  match x with
  | .finite negative m e =>
    (decide (0 ≤ e) || m % Nat.pow 2 (-e).toNat == 0) && truncated negative m e == n
  | _ => false

/-- A finite number times a natural number, rounded, as the quotient of natural numbers that it is. -/
def quotient (mantissa : Nat) (exponent : Int) : Nat × Nat :=
  if 0 ≤ exponent then (mantissa * Nat.pow 2 exponent.toNat, 1) else (mantissa, Nat.pow 2 (-exponent).toNat)

example : ofDecimal false 1 0 = .finite false (Nat.pow 2 52) (-52) := by decide +kernel
example : ofDecimal false 5 (-324) = .finite false 1 (-1074) := by decide +kernel
example : ofDecimal true 18 307 = .finite true 9007199254740991 0 ∨ ofDecimal true 18 308 = .infinite true := by
  decide +kernel

end Binary64

end Freebox
