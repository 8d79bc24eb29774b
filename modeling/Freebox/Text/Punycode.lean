import Freebox.Text.Basic
import Freebox.Text.Bytes

/-!
# `Freebox.Text.Punycode` — texts written in ASCII by insertions

The characters of ASCII come first, up to the last hyphen. What follows are numbers of base 36 with digits of varying
weight. Each of them tells how far the next insertion is from the last one, where a step to the right goes one place on
and a step beyond the end goes back to the beginning with the next code point.

## Contents
- `Punycode.Insertion`: how far insertions have come. `Insertion.digit`: the next digit. `Insertion.all`: all of them.
- `Punycode.lenient`, `Punycode.strict?`: octets as text.
-/

namespace Freebox.Punycode

/-! ## Numbers -/

/-- The value of a digit: letters in either case, then the digits of ASCII. -/
def digit? (b : UInt8) : Option Nat :=
  if 0x41 ≤ b.toNat ∧ b.toNat ≤ 0x5A then some (b.toNat - 0x41)
  else if 0x61 ≤ b.toNat ∧ b.toNat ≤ 0x7A then some (b.toNat - 0x61)
  else if 0x30 ≤ b.toNat ∧ b.toNat ≤ 0x39 then some (b.toNat - 0x30 + 26)
  else none

/-- The least digit at a place after which a number goes on. -/
def threshold (place bias : Nat) : Nat := min 26 (max 1 (36 * (place + 1) - bias))

/-- Divides a distance until it is small, and tells how often by 36 for each time. -/
def reduce (distance : Nat) : Nat × Nat :=
  if 455 < distance then let (small, times) := reduce (distance / 35); (small, times + 36) else (distance, 0)
termination_by distance
decreasing_by exact Nat.div_lt_self (by omega) (by decide)

/-- The bias after a number, which is the first one or not, in a text of so many letters. -/
def adapt (n : Nat) (first : Bool) (letters : Nat) : Nat :=
  let damped := if first then n / 700 else n / 2
  let (small, times) := reduce (damped + damped / letters)
  times + 36 * small / (small + 38)

/-! ## Insertions -/

/-- How far insertions have come: the text, the last code point, the place behind it, the bias of the next number and
whether it is the first one, what of it is read, namely so many digits, the weight of the next one and the sum of these,
and whether nothing was wrong. -/
structure Insertion where
  text : List Letter
  code : Nat := 0x80
  place : Nat := 0
  bias : Nat := 72
  first : Bool := true
  digits : Nat := 0
  weight : Nat := 1
  sum : Nat := 0
  sound : Bool := true
  deriving DecidableEq, Repr

namespace Insertion

/-- The insertion at a distance from the last one. A code point beyond all others is wrong: a question mark stands for
it. -/
def insert (p : Insertion) (distance : Nat) : Insertion :=
  let places := p.text.length + 1
  let found := p.code + (p.place + distance) / places
  let place := (p.place + distance) % places
  let code := if found ≤ 0x10FFFF then found else 0x3F
  { text := p.text.insertIdx place (.ofNat code), code, place := place + 1, bias := adapt distance p.first places,
    first := false, sound := p.sound && found ≤ 0x10FFFF }

/-- The next digit of a number, which may be its last one. -/
def digit (p : Insertion) (d : Nat) : Insertion :=
  let least := threshold p.digits p.bias
  let sum := p.sum + d * p.weight
  if d < least then p.insert sum
  else { p with digits := p.digits + 1, weight := p.weight * (36 - least), sum }

/-- Goes on with all insertions, up to what is no digit, and tells whether nothing was wrong. -/
def run (p : Insertion) : Bytes → List Letter × Bool
  | [] => (p.text, p.sound && p.digits = 0)
  | b :: bs =>
    match digit? b with
    | some d => run (p.digit d) bs
    | none => (p.text, false)

/-- All insertions into a text. -/
def all (text : List Letter) (bs : Bytes) : List Letter × Bool := run { text } bs

end Insertion

/-! ## Octets -/

/-- What stands before the last hyphen, and what stands behind it. -/
def parts (bs : Bytes) : Bytes × Bytes :=
  match bs.reverse.dropWhile (· != 0x2D) with
  | [] => ([], bs)
  | _ :: before => (before.reverse, (bs.reverse.takeWhile (· != 0x2D)).reverse)

/-- An octet of ASCII as a letter; there is none for the others. -/
def letter? (b : UInt8) : Option Letter := if b.toNat < 0x80 then some (.char (Char.ofNat b.toNat)) else none

/-- The first octet that is none of ASCII, and where it is. -/
def beyondAscii? (bs : Bytes) : Option (UInt8 × Nat) :=
  bs.zipIdx.find? (fun (b, _) => 0x80 ≤ b.toNat)

/-- Octets as text: U+FFFD for what is none of ASCII before the last hyphen, and insertions as far as they go. Behind
the hyphen everything has to be ASCII, or the first octet that is not is told. -/
def lenient (bs : Bytes) : Except (UInt8 × Nat) Text :=
  let (before, behind) := parts bs
  match beyondAscii? behind with
  | some wrong => .error wrong
  | none => .ok ⟨(Insertion.all (before.map (fun b => (letter? b).getD (.char '\uFFFD'))) behind).1⟩

/-- Octets as text if nothing is wrong. -/
def strict? (bs : Bytes) : Option Text :=
  let (before, behind) := parts bs
  match before.mapM letter?, beyondAscii? behind with
  | some letters, none =>
    let (out, sound) := Insertion.all letters behind
    if sound then some ⟨out⟩ else none
  | _, _ => none

end Freebox.Punycode
