import Freebox.Text.Bytes

/-!
# `Freebox.Text.Base64` — strict base64

Writing pads the last group with `=`. Reading accepts the standard alphabet only and checks the padding; the low
bits that no octet uses are ignored, and padding after a complete group is accepted.

## Contents
- `Base64.encode`: groups of three octets as four characters.
- `Base64.decode`: the octets, or the first thing wrong.
-/

namespace Freebox.Base64

/-! ## Alphabet -/

/-- The character of a number below sixty-four. -/
def symbol (n : Nat) : Char :=
  if n < 26 then Char.ofNat (65 + n)
  else if n < 52 then Char.ofNat (71 + n)
  else if n < 62 then Char.ofNat (n - 4)
  else if n = 62 then '+' else '/'

/-- The number of a character of the alphabet. -/
def value? (c : Char) : Option Nat :=
  let n := c.toNat
  if 65 ≤ n ∧ n ≤ 90 then some (n - 65)
  else if 97 ≤ n ∧ n ≤ 122 then some (n - 71)
  else if 48 ≤ n ∧ n ≤ 57 then some (n + 4)
  else if c = '+' then some 62
  else if c = '/' then some 63
  else none

theorem value?_symbol : ∀ n < 64, value? (symbol n) = some n := by decide

/-! ## Writing -/

/-- Groups of three octets become four characters; a shorter last group is padded. -/
def encode : Bytes → List Char
  | [] => []
  | [a] => [symbol (a.toNat / 4), symbol (a.toNat % 4 * 16), '=', '=']
  | [a, b] =>
    [symbol (a.toNat / 4), symbol (a.toNat % 4 * 16 + b.toNat / 16), symbol (b.toNat % 16 * 4), '=']
  | a :: b :: c :: rest =>
    symbol (a.toNat / 4) :: symbol (a.toNat % 4 * 16 + b.toNat / 16)
      :: symbol (b.toNat % 16 * 4 + c.toNat / 64) :: symbol (c.toNat % 64) :: encode rest

/-! ## Reading -/

/-- What is wrong with a text that should be base64. -/
inductive DecodeError where
  | notAscii
  | leadingPadding
  | excessAfterPadding
  | stranger
  | discontinuousPadding
  /-- One data character is left over; the number counts all data characters. -/
  | oneLeftOver (count : Nat)
  | incorrectPadding
  deriving DecidableEq, Repr

/-- The octets of data characters, given by their numbers. What is left of a last group gives the octets it fills. -/
def octets : List Nat → Bytes
  | a :: b :: c :: d :: rest =>
    UInt8.ofNat (a * 4 + b / 16) :: UInt8.ofNat (b % 16 * 16 + c / 4) :: UInt8.ofNat (c % 4 * 64 + d)
      :: octets rest
  | [a, b, c] => [UInt8.ofNat (a * 4 + b / 16), UInt8.ofNat (b % 16 * 16 + c / 4)]
  | [a, b] => [UInt8.ofNat (a * 4 + b / 16)]
  | _ => []

/-- Where a reading stands. -/
structure Progress where
  /-- The numbers of the data characters so far, last first. -/
  data : List Nat
  /-- Padding characters since the last data character that count for the open group. -/
  pads : Nat
  /-- Whether any padding was seen. -/
  padded : Bool
  deriving DecidableEq, Repr

/-- Data characters of the open group. -/
def Progress.filled (p : Progress) : Nat := p.data.length % 4

/-- Reads on, character by character, and gives the numbers of the data characters in order. A group that is filled
by padding ends the text: it may only be its last character. -/
def read : Progress → List Char → Except DecodeError (List Nat)
  | p, [] =>
    if p.filled = 0 then .ok p.data.reverse
    else if p.filled = 1 then .error (.oneLeftOver p.data.length)
    else .error .incorrectPadding
  | p, c :: rest =>
    if c = '=' then
      if 2 ≤ p.filled then
        if 4 ≤ p.filled + p.pads + 1 then
          if rest.isEmpty then .ok p.data.reverse else .error .excessAfterPadding
        else read { p with pads := p.pads + 1, padded := true } rest
      else read { p with padded := true } rest
    else match value? c with
      | none => .error .stranger
      | some n =>
        if p.padded then .error .discontinuousPadding
        else read { data := n :: p.data, pads := 0, padded := false } rest

/-- The octets a base64 text stands for. -/
def decode (s : List Char) : Except DecodeError Bytes :=
  if s.any (fun c => 0x80 ≤ c.toNat) then .error .notAscii
  else match s with
    | '=' :: _ => .error .leadingPadding
    | _ => (read ⟨[], 0, false⟩ s).map octets

end Freebox.Base64
