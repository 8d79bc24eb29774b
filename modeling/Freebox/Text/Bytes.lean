/-!
# `Freebox.Text.Bytes` — octet strings and their hexadecimal form

Bodies, frames and digests are lists of octets. Hexadecimal writing uses two lower case digits an octet;
reading takes both cases and refuses an odd number of digits.

## Contents
- `Bytes`, the octet strings. `toNat_octet`, `octet_of_eq`: octets and their numbers.
- `Bytes.toHex` and `Bytes.ofHex?`.
-/

namespace Freebox

/-- A string of octets. -/
abbrev Bytes := List UInt8

theorem toNat_octet {n : Nat} (h : n < 0x100) : (UInt8.ofNat n).toNat = n := UInt8.toNat_ofNat_of_lt h

/-- An octet is the one of its number. -/
theorem octet_of_eq {n : Nat} {a : UInt8} (h : n = a.toNat) : UInt8.ofNat n = a := by
  rw [h]
  exact UInt8.ofNat_toNat

namespace Bytes

/-! ## Hexadecimal digits -/

/-- The lower case digit of a number below sixteen. -/
def hexDigit (n : Nat) : Char :=
  if n < 10 then Char.ofNat (48 + n) else Char.ofNat (87 + n)

/-- The value of a hexadecimal digit, in either case. -/
def hexValue? (c : Char) : Option Nat :=
  if 48 ≤ c.toNat ∧ c.toNat ≤ 57 then some (c.toNat - 48)
  else if 97 ≤ c.toNat ∧ c.toNat ≤ 102 then some (c.toNat - 87)
  else if 65 ≤ c.toNat ∧ c.toNat ≤ 70 then some (c.toNat - 55)
  else none

/-! ## Octet strings -/

/-- The two digits of an octet, high half first. -/
def hexPair (b : UInt8) : List Char := [hexDigit (b.toNat / 16), hexDigit (b.toNat % 16)]

/-- Two lower case digits an octet. -/
def toHex (bs : Bytes) : String := String.ofList (bs.flatMap hexPair)

/-- Reads pairs of digits; an odd digit or a stranger is refused. -/
def ofHexDigits? : List Char → Option Bytes
  | [] => some []
  | [_] => none
  | hi :: lo :: rest =>
    match hexValue? hi, hexValue? lo, ofHexDigits? rest with
    | some h, some l, some bs => some (UInt8.ofNat (16 * h + l) :: bs)
    | _, _, _ => none

/-- The octets a hexadecimal text stands for. -/
def ofHex? (s : String) : Option Bytes := ofHexDigits? s.toList

end Bytes

end Freebox
