import Freebox.Number.Binary64

/-!
# `Freebox.Number.Shortest` — the fewest digits that read back

Between a double and its neighbours lies the interval of the numbers that round to it, ends included when the
mantissa is even. For one digit, two digits and so on, the two neighbours of the number on that decimal grid are
tried; the first grid with a hit wins, of two hits the nearer, and of two equally near the one with the even last
digit. The text is positional when the leading digit stands for 10 ^ -4 to 10 ^ 15, and has an exponent of at
least two digits otherwise.

## Contents
- `Shortest.digits`: the digits and the place of the point.
- `Binary64.text`: the text of a double.
-/

namespace Freebox.Shortest

/-- A positive quotient `num / den` compared with `digits * 10 ^ grid`. -/
def compareGrid (num den digits : Nat) (grid : Int) : Ordering :=
  if 0 ≤ grid then compare num (digits * Nat.pow 10 grid.toNat * den)
  else compare (num * Nat.pow 10 (-grid).toNat) (digits * den)

/-- The numbers that round to a double: the ends as quotients over a common denominator. -/
structure Interval where
  low : Nat
  value : Nat
  high : Nat
  den : Nat
  closed : Bool
  deriving Repr

/-- The rounding interval of `mantissa * 2 ^ exponent`. Below a power of two the spacing is halved. -/
def interval (mantissa : Nat) (exponent : Int) : Interval :=
  let halved := mantissa = Nat.pow 2 52 ∧ -1074 < exponent
  let (up, den) := if 2 ≤ exponent then (Nat.pow 2 (exponent - 2).toNat, 1) else (1, Nat.pow 2 (2 - exponent).toNat)
  { low := if halved then (4 * mantissa - 1) * up else (4 * mantissa - 2) * up
    value := 4 * mantissa * up
    high := (4 * mantissa + 2) * up
    den := den
    closed := mantissa % 2 == 0 }

/-- Whether `digits * 10 ^ grid` reads back. -/
def Interval.holds (i : Interval) (digits : Nat) (grid : Int) : Bool :=
  let below := compareGrid i.low i.den digits grid
  let above := compareGrid i.high i.den digits grid
  if i.closed then below != .gt && above != .lt else below == .lt && above == .gt

/-- The integer part of the value on a grid. -/
def Interval.floor (i : Interval) (grid : Int) : Nat :=
  if 0 ≤ grid then i.value / (Nat.pow 10 grid.toNat * i.den) else i.value * Nat.pow 10 (-grid).toNat / i.den

/-- Twice the value on a grid against twice a point and one: which of two neighbours is nearer. -/
def Interval.nearer (i : Interval) (digits : Nat) (grid : Int) : Ordering :=
  if 0 ≤ grid then compare (2 * i.value) ((2 * digits + 1) * (Nat.pow 10 grid.toNat * i.den))
  else compare (2 * i.value * Nat.pow 10 (-grid).toNat) ((2 * digits + 1) * i.den)

/-- The neighbour on a grid that reads back, the nearer of two, the even one of two equally near. -/
def Interval.pick? (i : Interval) (grid : Int) : Option Nat :=
  let d := i.floor grid
  match i.holds d grid, i.holds (d + 1) grid with
  | true, true =>
    match i.nearer d grid with
    | .lt => some d
    | .gt => some (d + 1)
    | .eq => if d % 2 = 0 then some d else some (d + 1)
  | true, false => some d
  | false, true => some (d + 1)
  | false, false => none

/-- Tries finer and finer grids; the last one is exact enough for every double. -/
def Interval.search (i : Interval) : Nat → Int → Nat × Int
  | 0, grid => (i.floor grid, grid)
  | n + 1, grid =>
    match i.pick? grid with
    | some d => (d, grid)
    | none => i.search n (grid - 1)

/-- The power of ten just above a positive quotient: the least `p` with `num / den < 10 ^ p`, found from a guess
below it. -/
def magnitudeFrom (num den : Nat) : Nat → Int → Int
  | 0, p => p
  | n + 1, p => if compareGrid num den 1 p == .lt then p else magnitudeFrom num den n (p + 1)

/-- The digits of a positive double and the power of ten of the point before them. -/
def digits (mantissa : Nat) (exponent : Int) : List Char × Int :=
  let i := interval mantissa exponent
  let guess : Int := ((Nat.log2 mantissa : Int) + exponent) * 30103 / 100000 - 1
  let p := magnitudeFrom i.value i.den 5 guess
  let (d, grid) := i.search 17 (p - 1)
  let all := Nat.toDigits 10 d
  let kept := (all.reverse.dropWhile (· == '0')).reverse
  (kept, grid + all.length)

end Freebox.Shortest

namespace Freebox.Binary64

/-- The digits of an exponent, at least two. -/
def exponentDigits (n : Nat) : List Char :=
  if n < 10 then '0' :: Nat.toDigits 10 n else Nat.toDigits 10 n

/-- Digits with the point after the given number of them, noughts filled in, and at least one digit on each side. -/
def positional (ds : List Char) (point : Int) : List Char :=
  if point ≤ 0 then '0' :: '.' :: List.replicate (-point).toNat '0' ++ ds
  else
    let k := point.toNat
    let whole := ds.take k ++ List.replicate (k - ds.length) '0'
    let part := ds.drop k
    whole ++ '.' :: (if part.isEmpty then ['0'] else part)

/-- Digits with the point after the first, and a power of ten. -/
def scientific (ds : List Char) (power : Int) : List Char :=
  let (first, part) := (ds.take 1, ds.drop 1)
  let shown := if part.isEmpty then first else first ++ '.' :: part
  shown ++ 'e' :: (if power < 0 then '-' else '+') :: exponentDigits power.natAbs

/-- The text of a positive double. -/
def positiveText (mantissa : Nat) (exponent : Int) : List Char :=
  let (ds, point) := Shortest.digits mantissa exponent
  if -4 < point ∧ point ≤ 16 then positional ds point else scientific ds (point - 1)

/-- The text of a double: its fewest digits that read back. -/
def text : Binary64 → List Char
  | .nan => ['n', 'a', 'n']
  | .infinite negative => if negative then ['-', 'i', 'n', 'f'] else ['i', 'n', 'f']
  | .finite negative m e =>
    let shown := if m = 0 then ['0', '.', '0'] else positiveText m e
    if negative then '-' :: shown else shown

example : text (ofDecimal false 15 (-1)) = "1.5".toList := by decide +kernel
example : text (ofDecimal false 1 22) = "1e+22".toList := by decide +kernel
example : text (ofDecimal false 1 (-7)) = "1e-07".toList := by decide +kernel
example : text (ofDecimal true 0 0) = "-0.0".toList := by decide +kernel
example : text (ofDecimal false 5 (-324)) = "5e-324".toList := by decide +kernel

end Freebox.Binary64
