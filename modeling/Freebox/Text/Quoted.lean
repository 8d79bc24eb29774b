import Freebox.Text.Basic
import Freebox.Text.Bytes
import Freebox.Text.Printable

/-!
# `Freebox.Text.Quoted` — texts and octets between quotes

Messages show foreign text between quotes. Single quotes are used, unless the text holds a single quote and no
double quote. The quote in use and the reverse solidus are escaped by a reverse solidus, line feed, carriage return
and tabulation by a letter, and whatever else is not printable by two, four or eight hexadecimal digits.

## Contents
- `Quoted.text`: a text between quotes.
- `Quoted.octets`: an octet string between quotes, marked by a `b`; octets outside visible ASCII are escaped.
-/

namespace Freebox.Quoted

open Freebox.Text

/-- The lower case hexadecimal digits of a number, filled with noughts to a width. -/
def hexPadded : Nat → Nat → List Char
  | 0, _ => []
  | width + 1, n => hexPadded width (n / 16) ++ [Bytes.hexDigit (n % 16)]

/-- The quote in use: double only if there is a single one and no double one. -/
def quoteFor (s : List Char) : Char :=
  if s.contains '\x27' && !s.contains '\x22' then '\x22' else '\x27'

/-- The escapes by a letter. -/
def letterEscape? (c : Char) : Option Char :=
  if c = '\n' then some 'n' else if c = '\r' then some 'r' else if c = '\t' then some 't' else none

/-- The escape by hexadecimal digits: two, four or eight of them, as few as hold the code point. -/
def codeEscape (n : Nat) : List Char :=
  if n < 0x100 then '\\' :: 'x' :: hexPadded 2 n
  else if n < 0x10000 then '\\' :: 'u' :: hexPadded 4 n
  else '\\' :: 'U' :: hexPadded 8 n

/-- How a character is shown between quotes. -/
def escape (quote c : Char) : List Char :=
  if c = quote ∨ c = '\\' then ['\\', c]
  else match letterEscape? c with
    | some l => ['\\', l]
    | none => if isPrintable c then [c] else codeEscape c.toNat

/-- How a letter is shown between quotes. A half of a surrogate pair is never printable. -/
def escapeLetter (quote : Char) : Letter → List Char
  | .char c => escape quote c
  | l => codeEscape l.code

/-- A text between quotes. -/
def text (t : Text) : List Char :=
  let q := quoteFor t.lossy
  q :: t.letters.flatMap (escapeLetter q) ++ [q]

/-- How an octet is shown between quotes. -/
def escapeOctet (quote : Char) (b : UInt8) : List Char :=
  let c := Char.ofNat b.toNat
  if c = quote ∨ c = '\\' then ['\\', c]
  else match letterEscape? c with
    | some l => ['\\', l]
    | none => if 0x20 ≤ b.toNat ∧ b.toNat ≤ 0x7E then [c] else codeEscape b.toNat

/-- An octet string between quotes. -/
def octets (bs : Bytes) : List Char :=
  let q := quoteFor (bs.map (fun b => Char.ofNat b.toNat))
  'b' :: q :: bs.flatMap (escapeOctet q) ++ [q]

end Freebox.Quoted
