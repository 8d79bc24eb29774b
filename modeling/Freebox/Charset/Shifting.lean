import Freebox.Charset.EastAsian
import Freebox.Charset.Iso8859

/-!
# `Freebox.Charset.Shifting` — charsets that shift between sets of characters

In these charsets all octets are below 80. Some sequences of octets stand for no character but choose the set to which
the next ones belong, so what an octet stands for depends on what came before it.

## Contents
- `Shifting.Step` and `Shifting.readFrom`: reading by steps that may change the state.
- `Hz.front`: ASCII and GB 2312, chosen by tildes.
- `GraphicSet`, `Iso2022` and `Iso2022.front`: sets chosen by escape sequences, for one of three places.
- `Shifting`, the charsets, with `Shifting.read`, `Shifting.isBroken` and `Shifting.pending`.
-/

namespace Freebox

namespace Shifting

/-- What the front of an octet string is in a state: characters or gaps, mostly one, how many octets after the first are
used up, and the state behind them. -/
structure Step (σ : Type) where
  out : List (Option Char)
  more : Nat
  next : σ
  deriving Repr

/-- Reads on from a state, after so many octets that are used up: characters and gaps, the rest of the text from where
there is no step, because something begins there that has no end, and the state there. -/
def readFrom {σ : Type} (front : σ → UInt8 → Bytes → Option (Step σ)) :
    σ → Nat → Bytes → List (Option Char) × Bytes × σ
  | s, _, [] => ([], [], s)
  | s, n + 1, _ :: bs => readFrom front s n bs
  | s, 0, b :: bs =>
    match front s b bs with
    | some step =>
      let (out, rest) := readFrom front step.next step.more bs
      (step.out ++ out, rest)
    | none => ([], b :: bs, s)

end Shifting

/-! ## Tildes -/

namespace Hz

open Shifting (Step)

/-- What a tilde does with the octet after it, in ASCII or in GB 2312. -/
def tilde (chinese : Bool) (b : UInt8) : Step Bool :=
  if !chinese && b = 0x7E then ⟨[some '~'], 1, false⟩
  else if !chinese && b = 0x7B then ⟨[], 1, true⟩
  else if !chinese && b = 0x0A then ⟨[], 1, false⟩
  else if chinese && b = 0x7D then ⟨[], 1, false⟩
  else ⟨[none], 0, chinese⟩

/-- A pair of octets in GB 2312. -/
def pair (a b : UInt8) : Step Bool :=
  match if b.toNat < 0x80 then EastAsian.plane? EastAsian.gb2312Rows (a.toNat + 0x80) (b.toNat + 0x80) else none with
  | some c => ⟨[some c], 1, true⟩
  | none => ⟨[none], 0, true⟩

/-- The front of an octet string, in ASCII or in GB 2312. -/
def front (chinese : Bool) (a : UInt8) (bs : Bytes) : Option (Step Bool) :=
  if a = 0x7E then bs.head?.map (tilde chinese)
  else if 0x80 ≤ a.toNat then some ⟨[none], 0, chinese⟩
  else if chinese then bs.head?.map (pair a)
  else some ⟨[some (Char.ofNat a.toNat)], 0, chinese⟩

end Hz

/-! ## Sets of characters -/

/-- The sets that escape sequences choose from. -/
inductive GraphicSet where
  | ascii
  | japaneseRoman
  | halfWidth
  | jisC6226
  | jisX0208
  | jisX0212
  | jisX0213First (revised : Bool)
  | jisX0213Second
  | gb2312
  | ksX1001
  | latin1
  | greek
  deriving DecidableEq, Repr

namespace GraphicSet

/-- The number of octets of a character. -/
def width : GraphicSet → Nat
  | jisC6226 | jisX0208 | jisX0212 | jisX0213First _ | jisX0213Second | gb2312 | ksX1001 => 2
  | _ => 1

/-- The set that the last letter of an escape sequence names among those of pairs, or among those of single octets. -/
def ofLetter? (pairs : Bool) (letter : Char) : Option GraphicSet :=
  if pairs then
    [('@', jisC6226), ('B', jisX0208), ('D', jisX0212), ('O', jisX0213First false), ('Q', jisX0213First true),
      ('P', jisX0213Second), ('A', gb2312), ('C', ksX1001)].lookup letter
  else [('B', ascii), ('J', japaneseRoman), ('I', halfWidth), ('A', latin1), ('F', greek)].lookup letter

/-- The character of an octet of the upper half in ISO 8859-7 as it was before 2003. -/
def greekUpper? (a : Nat) : Option Char :=
  if a = 0xA4 ∨ a = 0xA5 ∨ a = 0xAA then none else CodePage.iso8859Part7.char? (UInt8.ofNat a)

/-- The character of an octet below 80, and of a second one in sets of pairs. The sets of the upper half have none. -/
def char? (set : GraphicSet) (a b : Nat) : Option Char :=
  let pair := fun t => if b < 0x80 then EastAsian.plane? t (a + 0x80) (b + 0x80) else none
  match set with
  | ascii => some (Char.ofNat a)
  | japaneseRoman => some (EastAsian.roman a)
  | halfWidth => if 0x21 ≤ a ∧ a ≤ 0x5F then some (EastAsian.halfWidth (a + 0x80)) else none
  | jisC6226 | jisX0208 => pair EastAsian.jisX0208
  | jisX0212 => pair EastAsian.jisX0212
  | jisX0213Second => if b < 0x80 then EastAsian.secondPlane? true (a + 0x80) (b + 0x80) else none
  | gb2312 => pair EastAsian.gb2312Rows
  | ksX1001 => pair EastAsian.ksX1001
  | jisX0213First _ | latin1 | greek => none

/-- The characters of an octet below 80 and a second one, or a gap: the first plane of JIS X 0213 has cells for two. -/
def read (set : GraphicSet) (a b : Nat) : List (Option Char) :=
  match set with
  | jisX0213First revised =>
    match if b < 0x80 then EastAsian.firstPlane? revised (a + 0x80) (b + 0x80) else none with
    | some cs => cs.map some
    | none => [none]
  | _ => [set.char? a b]

/-- The character of an octet that is lifted into the upper half, or lowered from there. -/
def lifted? (set : GraphicSet) (b : Nat) : Option Char :=
  match set with
  | latin1 => if b < 0x80 then some (Char.ofNat (b + 0x80)) else none
  | greek => if b < 0x80 then greekUpper? (b + 0x80) else some (Char.ofNat (b - 0x80))
  | ascii => if b < 0x80 then some (Char.ofNat b) else none
  | _ => none

end GraphicSet

/-! ## Escape sequences -/

/-- The charsets of ISO 2022: Korean, and Japanese with more and more sets. -/
inductive Iso2022 where
  | korean
  | japanese
  | japaneseSupplementary
  | japaneseMultilingual
  | japaneseExtended
  /-- With JIS X 0213, of 2000 or revised. -/
  | japaneseLevels (revised : Bool)
  deriving DecidableEq, Repr

namespace Iso2022

open Shifting (Step)

/-- The sets besides ASCII that a charset has. -/
def sets : Iso2022 → List GraphicSet
  | korean => [.ksX1001]
  | japanese => [.jisC6226, .jisX0208, .japaneseRoman]
  | japaneseSupplementary => [.jisC6226, .jisX0208, .jisX0212, .japaneseRoman]
  | japaneseMultilingual =>
    [.jisC6226, .jisX0208, .jisX0212, .ksX1001, .gb2312, .japaneseRoman, .latin1, .greek]
  | japaneseExtended => [.jisC6226, .jisX0208, .jisX0212, .japaneseRoman, .halfWidth]
  | japaneseLevels revised => [.jisX0208, .jisX0213First revised, .jisX0213Second]

/-- Whether a charset has a set. -/
def has (charset : Iso2022) (set : GraphicSet) : Bool := set = .ascii || charset.sets.contains set

/-- Whether there is a third place, for single characters. -/
def hasThird (charset : Iso2022) : Bool := charset = .japaneseMultilingual

/-- The sets in the three places, whether octets belong to the second place, whether they are passed on one by one
because an unknown escape sequence has begun, and whether the charset itself has failed. -/
structure Places where
  first : GraphicSet := .ascii
  second : GraphicSet := .ascii
  third : GraphicSet := .ascii
  shifted : Bool := false
  unknown : Bool := false
  broken : Bool := false
  deriving DecidableEq, Repr

/-- A place for a set. -/
inductive Place where
  | first
  | second
  | third
  deriving DecidableEq, Repr

/-- The places after a choice. -/
def Places.choose (p : Places) (set : GraphicSet) : Place → Places
  | .first => { p with first := set }
  | .second => { p with second := set }
  | .third => { p with third := set }

/-- Whether an octet ends an escape sequence. -/
def isLast (b : UInt8) : Bool := 0x40 ≤ b.toNat && b.toNat ≤ 0x5A

/-- How an escape sequence goes on. -/
inductive Ending where
  /-- It ends after so many octets. -/
  | after (octets : Nat)
  | tooLong
  | cut
  deriving DecidableEq, Repr

/-- The end of an escape sequence, after some octets to pass over and some that are counted. It has at most fifteen
octets after its first. The announcement of a revision, where it is known, is passed over with the octet behind it. -/
def ending (announced : Bool) : Nat → Nat → Bytes → Ending
  | _, n, [] => if 15 ≤ n then .tooLong else .cut
  | k + 1, n, _ :: bs => ending announced k n bs
  | 0, n, b :: bs =>
    if 15 ≤ n then .tooLong
    else if isLast b then .after (n + 1)
    else if announced && b = 0x26 && bs.head? = some 0x40 then ending announced 2 (n + 3) bs
    else ending announced 0 (n + 1) bs

/-- The place and the set that an escape sequence chooses. -/
def designation? (charset : Iso2022) (sequence : Bytes) : Option (Place × GraphicSet) :=
  match sequence.map (fun b => Char.ofNat b.toNat) with
  | ['$', c] => (GraphicSet.ofLetter? true c).map (.first, ·)
  | ['(', c] => (GraphicSet.ofLetter? false c).map (.first, ·)
  | [')', c] => (GraphicSet.ofLetter? false c).map (.second, ·)
  | ['.', c] => if charset.hasThird then (GraphicSet.ofLetter? false c).map (.third, ·) else none
  | ['$', '(', c] => (GraphicSet.ofLetter? true c).map (.first, ·)
  | ['$', ')', c] => (GraphicSet.ofLetter? true c).map (.second, ·)
  | [_, _, '\x1B', '$', 'B'] => if charset.has .jisX0208 then some (.first, .jisX0208) else none
  | _ => none

/-- An escape sequence, by the octets after its first. -/
def escape (charset : Iso2022) (p : Places) (bs : Bytes) : Option (Step Places) :=
  match ending (charset.has .jisX0208) 0 0 bs with
  | .cut => none
  | .tooLong => some ⟨[none], 0, p⟩
  | .after n =>
    match (designation? charset (bs.take n)).filter (fun (_, set) => charset.has set) with
    | some (place, set) => some ⟨[], n, p.choose set place⟩
    | none => some ⟨[none], n, p⟩

/-- A single character of the third place. The Roman letters of Japan can be chosen for it, but not read. -/
def third (p : Places) (c : UInt8) : Step Places :=
  if p.third = .japaneseRoman then ⟨[], 2, { p with broken := true }⟩ else ⟨[p.third.lifted? c.toNat], 2, p⟩

/-- What follows the first octet of an escape sequence: a choice, a single character of the third place, or something
unknown. -/
def escaped (charset : Iso2022) (p : Places) : Bytes → Option (Step Places)
  | [] => none
  | b :: bs =>
    if [0x28, 0x29, 0x24, 0x2E, 0x26].contains b then escape charset p (b :: bs)
    else if charset.hasThird && b = 0x4E then bs.head?.map (third p)
    else some ⟨[some '\x1B'], 0, { p with unknown := true }⟩

/-- An octet from 20 on. -/
def graphic (p : Places) (a : UInt8) (bs : Bytes) : Option (Step Places) :=
  let set := if p.shifted then p.second else p.first
  if 0x80 ≤ a.toNat then some ⟨[none], 0, p⟩
  else if set.width = 2 then bs.head?.map fun b => ⟨set.read a.toNat b.toNat, 1, p⟩
  else some ⟨set.read a.toNat 0, 0, p⟩

/-- The front of an octet string. Only Korean shifts between the first two places, and a line begins in the first. There
is no step behind a failure. -/
def front (charset : Iso2022) (p : Places) (a : UInt8) (bs : Bytes) : Option (Step Places) :=
  let plain := [some (Char.ofNat a.toNat)]
  if p.broken then none
  else if p.unknown then some ⟨plain, 0, { p with unknown := !isLast a }⟩
  else if a = 0x1B then escaped charset p bs
  else if charset = .korean ∧ a = 0x0F then some ⟨[], 0, { p with shifted := false }⟩
  else if charset = .korean ∧ a = 0x0E then some ⟨[], 0, { p with shifted := true }⟩
  else if a = 0x0A then some ⟨plain, 0, { p with shifted := false }⟩
  else if a.toNat < 0x20 then some ⟨plain, 0, p⟩
  else graphic p a bs

end Iso2022

/-! ## Charsets -/

/-- The charsets that shift. -/
inductive Shifting where
  | hz
  | iso2022 (charset : Iso2022)
  deriving DecidableEq, Repr

namespace Shifting

/-- The characters and gaps of an octet string, a rest that has no end or was not read, and whether the charset itself
has failed there. -/
def split : Shifting → Bytes → List (Option Char) × Bytes × Bool
  | hz, bs => let (out, rest, _) := readFrom Hz.front false 0 bs; (out, rest, false)
  | iso2022 charset, bs => let (out, rest, places) := readFrom charset.front {} 0 bs; (out, rest, places.broken)

/-- The characters and gaps of an octet string, with one gap for a rest that has no end. Behind a failure nothing is
read. -/
def read (charset : Shifting) (bs : Bytes) : List (Option Char) :=
  let (out, rest, broken) := charset.split bs
  if broken || rest.isEmpty then out else out ++ [none]

/-- Whether the charset itself fails at an octet string. -/
def isBroken (charset : Shifting) (bs : Bytes) : Bool := (charset.split bs).2.2

/-- The number of octets that wait for their end at the end of an octet string. -/
def pending (charset : Shifting) (bs : Bytes) : Nat := (charset.split bs).2.1.length

end Shifting

end Freebox
