import Freebox.Text.Bytes

/-!
# `Freebox.Digest.Sha1` — the SHA-1 digest

The message is padded to whole blocks of sixty-four octets: a one bit, noughts, and the length in bits as eight
octets. Each block is stretched to eighty words and folded into five chaining words by eighty rounds.

## Contents
- `Sha1.pad`: whole blocks.
- `Sha1.schedule`, `Sha1.compress`: one block.
- `Sha1.digest`: the twenty octets of a message.
-/

namespace Freebox.Sha1

/-! ## Padding -/

/-- The octets of a number, highest first, in a given count. -/
def bigEndian : Nat → Nat → Bytes
  | 0, _ => []
  | count + 1, n => bigEndian count (n / 0x100) ++ [UInt8.ofNat (n % 0x100)]

/-- The message with its padding: a multiple of sixty-four octets. -/
def pad (message : Bytes) : Bytes :=
  let fill := (119 - message.length % 64) % 64
  message ++ 0x80 :: List.replicate fill 0 ++ bigEndian 8 (8 * message.length)

/-- The first so many blocks of sixty-four octets. -/
def blocks : Nat → Bytes → List Bytes
  | 0, _ => []
  | n + 1, bs => bs.take 64 :: blocks n (bs.drop 64)

/-- Groups of four octets as words, highest octet first. -/
def words : Bytes → List UInt32
  | a :: b :: c :: d :: rest =>
    UInt32.ofNat (((a.toNat * 0x100 + b.toNat) * 0x100 + c.toNat) * 0x100 + d.toNat) :: words rest
  | _ => []

/-! ## One block -/

/-- Rotation to the left. -/
def rotate (x : UInt32) (n : UInt32) : UInt32 := (x <<< n) ||| (x >>> (32 - n))

/-- Stretches a schedule, kept with its last word first, by so many words. -/
def stretch : Nat → List UInt32 → List UInt32
  | 0, ws => ws
  | n + 1, ws =>
    let w := rotate (ws.getD 2 0 ^^^ ws.getD 7 0 ^^^ ws.getD 13 0 ^^^ ws.getD 15 0) 1
    stretch n (w :: ws)

/-- The eighty words of a block. -/
def schedule (block : Bytes) : List UInt32 := (stretch 64 (words block).reverse).reverse

/-- The five chaining words. -/
structure Chain where
  a : UInt32
  b : UInt32
  c : UInt32
  d : UInt32
  e : UInt32
  deriving DecidableEq, Repr

/-- The choice of the round function and its constant, by the number of the round. -/
def mix (round : Nat) (b c d : UInt32) : UInt32 :=
  if round < 20 then ((b &&& c) ||| (~~~b &&& d)) + 0x5A827999
  else if round < 40 then (b ^^^ c ^^^ d) + 0x6ED9EBA1
  else if round < 60 then ((b &&& c) ||| (b &&& d) ||| (c &&& d)) + 0x8F1BBCDC
  else (b ^^^ c ^^^ d) + 0xCA62C1D6

/-- The rounds over the words of a schedule, counted from a number on. -/
def rounds : Nat → Chain → List UInt32 → Chain
  | _, s, [] => s
  | round, s, w :: ws =>
    let a := rotate s.a 5 + mix round s.b s.c s.d + s.e + w
    rounds (round + 1) ⟨a, s.a, rotate s.b 30, s.c, s.d⟩ ws

/-- Folds a block into the chaining words. -/
def compress (s : Chain) (block : Bytes) : Chain :=
  let t := rounds 0 s (schedule block)
  ⟨s.a + t.a, s.b + t.b, s.c + t.c, s.d + t.d, s.e + t.e⟩

/-! ## Messages -/

/-- The chaining words at the start. -/
def start : Chain := ⟨0x67452301, 0xEFCDAB89, 0x98BADCFE, 0x10325476, 0xC3D2E1F0⟩

/-- The twenty octets of a message's digest. -/
def digest (message : Bytes) : Bytes :=
  let padded := pad message
  let s := (blocks (padded.length / 64) padded).foldl compress start
  [s.a, s.b, s.c, s.d, s.e].flatMap (fun w => bigEndian 4 w.toNat)

end Freebox.Sha1
