import Freebox.Charset.Shifting
import Freebox.Text.Escaped
import Freebox.Text.Utf7
import Freebox.Text.Utf8

/-!
# `Freebox.Charset.Basic` — octets as text

A charset tells which letters octets stand for; few can write halves of surrogate pairs. What stands for no letter is a
gap: lenient reading puts U+FFFD there, strict reading gives up.

## Contents
- `Charset`, with `Charset.read`: the letters and gaps of an octet string.
- `Charset.lenient`, `Charset.strict?`.
- `Charset.isMarkBegun`, `Charset.unmarkedWidth?`: octets with half a mark, and without the mark that tells their order.
- `Charset.isBroken`, `Charset.isOverfull`: octets at which a charset fails, and that begin too much without ending it.
-/

namespace Freebox

/-- The charsets. Those of wide units are in one byte order, or in the order that a mark tells. -/
inductive Charset where
  | ascii
  | latin1
  | utf8
  /-- UTF-8 behind a byte order mark, which may be absent. -/
  | utf8Marked
  | utf7
  | utf16 (order : Option Wide.ByteOrder)
  | utf32 (order : Option Wide.ByteOrder)
  /-- Text with escapes, the full set or only those by numbers. -/
  | escaped (full : Bool)
  | page (p : CodePage)
  | eastAsian (e : EastAsian)
  | shifting (s : Shifting)
  deriving DecidableEq, Repr

namespace Charset

/-- The front of a text in ASCII. -/
def asciiFront (b : UInt8) (_ : Bytes) : Front :=
  if b.toNat < 0x80 then .char (Char.ofNat b.toNat) 0 else .stranger 0

/-- A character of UTF-8, or a gap. -/
def ofPiece : Utf8.Piece → Option Char
  | .char c => some c
  | .bad _ _ => none

/-- A text behind its byte order mark. -/
def unmarked : Bytes → Bytes
  | 0xEF :: 0xBB :: 0xBF :: bs => bs
  | bs => bs

/-- Characters and gaps as letters and gaps. -/
def asLetters (out : List (Option Char)) : List (Option Letter) := out.map (·.map .char)

/-- A text in UTF-16, little end first if neither the charset nor a mark tells the order. -/
def read16 (order : Option Wide.ByteOrder) (bs : Bytes) : List (Option Char) :=
  match order with
  | some o => Front.read (Wide.front16 o) 0 bs
  | none => let (o, rest) := Wide.ordered16 bs; Front.read (Wide.front16 (o.getD .little)) 0 rest

/-- A text in UTF-32, likewise. -/
def read32 (order : Option Wide.ByteOrder) (bs : Bytes) : List (Option Char) :=
  match order with
  | some o => Front.read (Wide.front32 o) 0 bs
  | none => let (o, rest) := Wide.ordered32 bs; Front.read (Wide.front32 (o.getD .little)) 0 rest

/-- The letters and gaps of an octet string. -/
def read : Charset → Bytes → List (Option Letter)
  | ascii, bs => asLetters (Front.read asciiFront 0 bs)
  | latin1, bs => bs.map (fun b => some (.char (Char.ofNat b.toNat)))
  | utf8, bs => asLetters ((Utf8.pieces bs).map ofPiece)
  | utf8Marked, bs => asLetters ((Utf8.pieces (unmarked bs)).map ofPiece)
  | utf7, bs => Utf7.read bs
  | utf16 order, bs => asLetters (read16 order bs)
  | utf32 order, bs => asLetters (read32 order bs)
  | escaped full, bs => Escaped.read full bs
  | page p, bs => asLetters (Front.read p.front 0 bs)
  | eastAsian e, bs => asLetters (Front.read e.front 0 bs)
  | shifting s, bs => asLetters (s.read bs)

/-- Lenient reading: U+FFFD for each gap. -/
def lenient (charset : Charset) (bs : Bytes) : Text := ⟨(charset.read bs).map (·.getD (.char '\uFFFD'))⟩

/-- Strict reading: no text if there is a gap. -/
def strict? (charset : Charset) (bs : Bytes) : Option Text := ((charset.read bs).mapM id).map Text.mk

/-- Whether octets are no more than the beginning of the mark that a charset drops. -/
def isMarkBegun : Charset → Bytes → Bool
  | utf8Marked, [0xEF] | utf8Marked, [0xEF, 0xBB] => true
  | _, _ => false

/-- The number of bits of a wide unit whose order no mark tells; nothing if the order is known or no unit is there. -/
def unmarkedWidth? : Charset → Bytes → Option Nat
  | utf16 none, bs => if (Wide.ordered16 bs).1.isNone ∧ 2 ≤ bs.length then some 16 else none
  | utf32 none, bs => if (Wide.ordered32 bs).1.isNone ∧ 4 ≤ bs.length then some 32 else none
  | _, _ => none

/-- Whether a charset itself fails at octets: its readings end there. -/
def isBroken : Charset → Bytes → Bool
  | shifting s, bs => s.isBroken bs
  | _, _ => false

/-- Whether more octets wait for their end than a reader of pieces keeps, which are eight. Only escape sequences grow
so long. -/
def isOverfull : Charset → Bytes → Bool
  | shifting s, bs => 8 < s.pending bs
  | _, _ => false

end Charset

end Freebox
