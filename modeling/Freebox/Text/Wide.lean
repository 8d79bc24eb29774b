import Freebox.Text.Basic
import Freebox.Text.Front

/-!
# `Freebox.Text.Wide` — UTF-16 and UTF-32

Units of two or four octets in either byte order. A unit cut off at the end is a defect, and so is a UTF-32 unit
above U+10FFFF. A surrogate of UTF-16 that has no partner, and a surrogate in UTF-32, is the half of a pair.

## Contents
- `ByteOrder`, and the number that a group of octets stands for.
- `Wide.decode16`, `Wide.decode32`: strict reading with located defects, in which halves of surrogate pairs pass.
- `Wide.front16`, `Wide.front32`: the fronts of texts without surrogates. `Wide.ordered16`, `Wide.ordered32`: the byte
  order that a mark tells.
-/

namespace Freebox.Wide

/-- Which octet of a unit comes first: the lowest or the highest. -/
inductive ByteOrder where
  | little
  | big
  deriving DecidableEq, Repr

/-- The number a group of octets stands for. -/
def ByteOrder.number : ByteOrder → Bytes → Nat
  | .big, bs => bs.foldl (fun n b => n * 0x100 + b.toNat) 0
  | .little, bs => bs.foldr (fun b n => n * 0x100 + b.toNat) 0

/-- What is wrong with an octet string, and where. -/
inductive DecodeError where
  /-- The octets from this position to the end are no whole unit. -/
  | truncated (position length : Nat) (octet : UInt8)
  /-- The four octets from this position stand for no code point. -/
  | outOfRange (position : Nat)
  deriving DecidableEq, Repr

/-- First halves of a surrogate pair. -/
def isHigh (n : Nat) : Bool := 0xD800 ≤ n && n ≤ 0xDBFF

/-- Second halves of a surrogate pair. -/
def isLow (n : Nat) : Bool := 0xDC00 ≤ n && n ≤ 0xDFFF

/-- The code point of a surrogate pair. -/
def join (high low : Nat) : Nat := 0x10000 + (high - 0xD800) * 0x400 + (low - 0xDC00)

/-- The letters of UTF-16 units: the halves of a surrogate pair are joined. -/
def joinUnits : List Nat → List Letter
  | [] => []
  | [n] => [.ofNat n]
  | n :: m :: rest =>
    if isHigh n && isLow m then .char (Char.ofNat (join n m)) :: joinUnits rest
    else .ofNat n :: joinUnits (m :: rest)

/-- The units of two octets, from a position on. -/
def units16 (order : ByteOrder) : Nat → Bytes → Except DecodeError (List Nat)
  | _, [] => .ok []
  | position, [a] => .error (.truncated position 1 a)
  | position, a :: b :: rest => do
    let ns ← units16 order (position + 2) rest
    return order.number [a, b] :: ns

/-- Reads UTF-16 from a position on. -/
def decode16 (order : ByteOrder) (position : Nat) (bs : Bytes) : Except DecodeError (List Letter) :=
  (units16 order position bs).map joinUnits

/-- Reads UTF-32 from a position on. -/
def decode32 (order : ByteOrder) : Nat → Bytes → Except DecodeError (List Letter)
  | _, [] => .ok []
  | position, a :: b :: c :: d :: rest => do
    let n := order.number [a, b, c, d]
    if 0x10FFFF < n then throw (.outOfRange position)
    let ls ← decode32 order (position + 4) rest
    return .ofNat n :: ls
  | position, a :: rest => .error (.truncated position (rest.length + 1) a)

/-! ## Fronts -/

/-- The front of a text in UTF-16. A surrogate without its partner is a stranger, but not if the text ends there. -/
def front16 (order : ByteOrder) (a : UInt8) : Bytes → Front
  | [] => .cut
  | b :: rest =>
    let n := order.number [a, b]
    if isHigh n then
      match rest with
      | c :: d :: _ =>
        let m := order.number [c, d]
        if isLow m then .char (Char.ofNat (join n m)) 3 else .stranger 1
      | _ => .cut
    else if isLow n then .stranger 1
    else .char (Char.ofNat n) 1

/-- The front of a text in UTF-32. -/
def front32 (order : ByteOrder) (a : UInt8) : Bytes → Front
  | b :: c :: d :: _ =>
    let n := order.number [a, b, c, d]
    if 0x10FFFF < n ∨ isHigh n ∨ isLow n then .stranger 3 else .char (Char.ofNat n) 3
  | _ => .cut

/-- The byte order that a mark of UTF-16 tells, and the text behind it. -/
def ordered16 : Bytes → Option ByteOrder × Bytes
  | 0xFE :: 0xFF :: bs => (some .big, bs)
  | 0xFF :: 0xFE :: bs => (some .little, bs)
  | bs => (none, bs)

/-- The byte order that a mark of UTF-32 tells, and the text behind it. -/
def ordered32 : Bytes → Option ByteOrder × Bytes
  | 0x00 :: 0x00 :: 0xFE :: 0xFF :: bs => (some .big, bs)
  | 0xFF :: 0xFE :: 0x00 :: 0x00 :: bs => (some .little, bs)
  | bs => (none, bs)

end Freebox.Wide
