import Freebox.Text.Basic
import Freebox.Text.Bytes

/-!
# `Freebox.Text.Utf8` — UTF-8 with located defects

An octet string is cut into *pieces*: characters, and ill-formed beginnings as long as possible. Strict reading
stops at the first defect and says what and where it is; lenient reading puts U+FFFD in its place. Both are views
of the same pieces, so they agree on well-formed text.

## Contents
- `Utf8.encode`: the octets of characters. `Utf8.encodeText`: those of a text without halves of surrogate pairs.
- `Utf8.pieces`: characters and defects, in order.
- `Utf8.decode`: strict reading. `Utf8.decodePassing`: the same, but halves of surrogate pairs pass.
  `Utf8.decodeLossy`: lenient reading.
-/

namespace Freebox.Utf8

/-! ## Writing -/

/-- The one to four octets of a code point. -/
def encodeNat (n : Nat) : Bytes :=
  if n < 0x80 then [UInt8.ofNat n]
  else if n < 0x800 then [UInt8.ofNat (0xC0 + n / 0x40), UInt8.ofNat (0x80 + n % 0x40)]
  else if n < 0x10000 then
    [UInt8.ofNat (0xE0 + n / 0x1000), UInt8.ofNat (0x80 + n / 0x40 % 0x40), UInt8.ofNat (0x80 + n % 0x40)]
  else
    [UInt8.ofNat (0xF0 + n / 0x40000), UInt8.ofNat (0x80 + n / 0x1000 % 0x40),
      UInt8.ofNat (0x80 + n / 0x40 % 0x40), UInt8.ofNat (0x80 + n % 0x40)]

/-- The octets of characters, one after the other. -/
def encode (s : List Char) : Bytes := s.flatMap (fun c => encodeNat c.toNat)

/-- The first halves of surrogate pairs in a text: where they start, how many there are in a row, and the code point of
the first. -/
structure EncodeError where
  position : Nat
  length : Nat
  code : Nat
  deriving DecidableEq, Repr

/-- The octets of letters after so many others. A half has none. -/
def encodeFrom : Nat → List Letter → Except EncodeError Bytes
  | _, [] => .ok []
  | i, .char c :: ls => (encodeFrom (i + 1) ls).map (encodeNat c.toNat ++ ·)
  | i, l :: ls => .error ⟨i, (ls.takeWhile Letter.isHalf).length + 1, l.code⟩

/-- The octets of a text. -/
def encodeText (t : Text) : Except EncodeError Bytes := encodeFrom 0 t.letters

/-! ## Pieces -/

/-- What is wrong with an ill-formed beginning. -/
inductive Defect where
  /-- No character starts with this octet. -/
  | invalidStart
  /-- The octet after the beginning cannot continue it. -/
  | invalidContinuation
  /-- The text ends inside a character. -/
  | unexpectedEnd
  deriving DecidableEq, Repr

/-- A character, or an ill-formed beginning and the number of its octets. -/
inductive Piece where
  | char (c : Char)
  | bad (defect : Defect) (length : Nat)
  deriving DecidableEq, Repr

/-- Octets that continue any character. -/
def isTail (b : UInt8) : Bool := 0x80 ≤ b.toNat && b.toNat ≤ 0xBF

/-- The second octet of a three octet character: after E0 no overlong form, after ED no surrogate. -/
def isSecondOfThree (lead b : UInt8) : Bool :=
  isTail b && (lead.toNat != 0xE0 || 0xA0 ≤ b.toNat) && (lead.toNat != 0xED || b.toNat ≤ 0x9F)

/-- The second octet of a four octet character: after F0 no overlong form, after F4 nothing above U+10FFFF. -/
def isSecondOfFour (lead b : UInt8) : Bool :=
  isTail b && (lead.toNat != 0xF0 || 0x90 ≤ b.toNat) && (lead.toNat != 0xF4 || b.toNat ≤ 0x8F)

/-- The six low bits of a continuation octet. -/
def low6 (b : UInt8) : Nat := b.toNat - 0x80

/-- Cuts an octet string into characters and longest ill-formed beginnings. -/
def pieces : Bytes → List Piece
  | [] => []
  | a :: rest =>
    if a.toNat < 0x80 then .char (Char.ofNat a.toNat) :: pieces rest
    else if a.toNat < 0xC2 then .bad .invalidStart 1 :: pieces rest
    else if a.toNat < 0xE0 then
      match rest with
      | [] => [.bad .unexpectedEnd 1]
      | b :: rest =>
        if isTail b then .char (Char.ofNat ((a.toNat - 0xC0) * 0x40 + low6 b)) :: pieces rest
        else .bad .invalidContinuation 1 :: pieces (b :: rest)
    else if a.toNat < 0xF0 then
      match rest with
      | [] => [.bad .unexpectedEnd 1]
      | [b] =>
        if isSecondOfThree a b then [.bad .unexpectedEnd 2]
        else .bad .invalidContinuation 1 :: pieces [b]
      | b :: c :: rest =>
        if isSecondOfThree a b then
          if isTail c then
            .char (Char.ofNat ((a.toNat - 0xE0) * 0x1000 + low6 b * 0x40 + low6 c)) :: pieces rest
          else .bad .invalidContinuation 2 :: pieces (c :: rest)
        else .bad .invalidContinuation 1 :: pieces (b :: c :: rest)
    else if a.toNat < 0xF5 then
      match rest with
      | [] => [.bad .unexpectedEnd 1]
      | [b] =>
        if isSecondOfFour a b then [.bad .unexpectedEnd 2]
        else .bad .invalidContinuation 1 :: pieces [b]
      | [b, c] =>
        if isSecondOfFour a b then
          if isTail c then [.bad .unexpectedEnd 3] else .bad .invalidContinuation 2 :: pieces [c]
        else .bad .invalidContinuation 1 :: pieces [b, c]
      | b :: c :: d :: rest =>
        if isSecondOfFour a b then
          if isTail c then
            if isTail d then
              .char (Char.ofNat
                ((a.toNat - 0xF0) * 0x40000 + low6 b * 0x1000 + low6 c * 0x40 + low6 d)) :: pieces rest
            else .bad .invalidContinuation 3 :: pieces (d :: rest)
          else .bad .invalidContinuation 2 :: pieces (c :: d :: rest)
        else .bad .invalidContinuation 1 :: pieces (b :: c :: d :: rest)
    else .bad .invalidStart 1 :: pieces rest

/-! ## Reading -/

/-- The first defect of an octet string: where it starts, how long it is, and its first octet. -/
structure DecodeError where
  defect : Defect
  position : Nat
  length : Nat
  octet : UInt8
  deriving DecidableEq, Repr

/-- Collects the characters of pieces that start at a position of the whole string. -/
def collect (whole : Bytes) : Nat → List Piece → Except DecodeError (List Char)
  | _, [] => .ok []
  | start, .char c :: ps => do
    let cs ← collect whole (start + (encodeNat c.toNat).length) ps
    return c :: cs
  | start, .bad defect length :: _ => .error ⟨defect, start, length, whole.getD start 0⟩

/-- Strict reading: the characters, or the first defect. -/
def decode (bs : Bytes) : Except DecodeError (List Char) := collect bs 0 (pieces bs)

/-- The half of a surrogate pair that the octets at the front are written like. -/
def half? : Bytes → Option Letter
  | a :: b :: c :: _ =>
    if a = 0xED ∧ 0xA0 ≤ b.toNat ∧ b.toNat ≤ 0xBF ∧ isTail c then
      some (.ofNat (0xD000 + low6 b * 0x40 + low6 c))
    else none
  | _ => none

/-- Collects letters like `collect`, but lets halves of surrogate pairs pass. -/
def collectPassing (whole : Bytes) : Nat → List Piece → Except DecodeError (List Letter)
  | _, [] => .ok []
  | start, .char c :: ps => do
    let ls ← collectPassing whole (start + (encodeNat c.toNat).length) ps
    return .char c :: ls
  | start, .bad defect length :: _ :: _ :: ps =>
    match half? (whole.drop start) with
    | some l => do
      let ls ← collectPassing whole (start + 3) ps
      return l :: ls
    | none => .error ⟨defect, start, length, whole.getD start 0⟩
  | start, .bad defect length :: _ => .error ⟨defect, start, length, whole.getD start 0⟩

/-- Strict reading that lets halves of surrogate pairs pass. -/
def decodePassing (bs : Bytes) : Except DecodeError (List Letter) := collectPassing bs 0 (pieces bs)

/-- The character of a piece, U+FFFD for an ill-formed beginning. -/
def Piece.lossy : Piece → Char
  | .char c => c
  | .bad _ _ => '\uFFFD'

/-- Lenient reading: each longest ill-formed beginning becomes one U+FFFD. -/
def decodeLossy (bs : Bytes) : List Char := (pieces bs).map Piece.lossy

end Freebox.Utf8
