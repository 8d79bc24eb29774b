import Freebox.Charset.CharTable

/-!
# `Freebox.Charset.CodePage` — charsets of single octets

A code page has a character for each octet, or none. Most pages agree with ASCII in the lower half.

## Contents
- `CodePage`, and `CodePage.char?`: the character of an octet.
-/

namespace Freebox

/-- The characters of octets, in two halves of 128. U+FFFD stands where an octet has none. -/
structure CodePage where
  upper : String
  /-- The lower half, unless it is ASCII. -/
  lower : Option String := none
  deriving DecidableEq, Repr

namespace CodePage

/-- The character of an octet. -/
def char? (p : CodePage) (b : UInt8) : Option Char :=
  if 0x80 ≤ b.toNat then charAt? p.upper (b.toNat - 0x80)
  else match p.lower with
    | some row => charAt? row b.toNat
    | none => some (Char.ofNat b.toNat)

/-- The front of an octet string of a page. -/
def front (p : CodePage) (b : UInt8) (_ : Bytes) : Front := .ofChar? 0 (p.char? b)

end CodePage

end Freebox
