import Freebox.Charset.Big5
import Freebox.Charset.Chinese
import Freebox.Charset.HongKong
import Freebox.Charset.Japanese
import Freebox.Charset.JisX0213
import Freebox.Charset.Korean

/-!
# `Freebox.Charset.EastAsian` — charsets of one, two or more octets

Octets below 80 stand for ASCII, but for two signs in some charsets. The others start a character of two octets, in some charsets of one, three, four or
eight. An octet whose successors do not fit it is a stranger by itself.

## Contents
- `EastAsian`: the charsets.
- `EastAsian.front`: the front of an octet string.
-/

namespace Freebox

/-- The charsets of mainland China, Taiwan, Hong Kong, Korea and Japan. Those with JIS X 0213 are of 2000, or revised. -/
inductive EastAsian where
  | gb2312
  | gbk
  | gb18030
  | big5
  | big5Windows
  | hongKong
  | korean
  | koreanUnified
  | koreanCombining
  | shiftJis
  | shiftJisWindows
  | shiftJisExtended (revised : Bool)
  | japaneseUnix
  | japaneseUnixExtended (revised : Bool)
  deriving DecidableEq, Repr

namespace EastAsian

/-! ## Tables -/

/-- The character of a pair of octets among runs. -/
def run? (runs : List (Nat × String)) (a b : Nat) : Option Char := Runs.at? runs (a * 0x100 + b)

/-- The character in a table of 94 columns whose rows and columns start at A1. -/
def plane? (t : CharTable) (a b : Nat) : Option Char :=
  if 0xA1 ≤ a ∧ 0xA1 ≤ b ∧ b ≤ 0xFE then t.at? ((a - 0xA1) * 94 + (b - 0xA1)) else none

/-- The characters of a cell that has more than one. -/
def several? (cells : List (Nat × String)) (a b : Nat) : Option (List Char) :=
  (cells.lookup (a * 0x100 + b)).map String.toList

/-- The column of a second octet from 40 on, without 7F. -/
def column? (b : Nat) : Option Nat :=
  if 0x40 ≤ b ∧ b ≤ 0x7E then some (b - 0x40) else if 0x80 ≤ b ∧ b ≤ 0xFE then some (b - 0x41) else none

/-! ## China -/

/-- The character of a pair in GBK. -/
def gbk? (a b : Nat) : Option Char :=
  (run? gbkRuns a b).orElse fun _ =>
  (plane? gb2312Rows a b).orElse fun _ =>
  (column? b).bind fun column =>
  if a < 0x81 then none
  else if a ≤ 0xA0 then gbkBefore.at? ((a - 0x81) * 190 + column)
  else if b ≤ 0xA0 then gbkBeside.at? ((a - 0xA1) * 96 + column)
  else none

/-- The private characters of GB 18030, in three blocks. -/
def private? (a b : Nat) : Option Char :=
  if 0xAA ≤ a ∧ a ≤ 0xAF ∧ 0xA1 ≤ b ∧ b ≤ 0xFE then some (Char.ofNat (0xE000 + 94 * (a - 0xAA) + (b - 0xA1)))
  else if 0xF8 ≤ a ∧ a ≤ 0xFE ∧ 0xA1 ≤ b ∧ b ≤ 0xFE then some (Char.ofNat (0xE234 + 94 * (a - 0xF8) + (b - 0xA1)))
  else if 0xA1 ≤ a ∧ a ≤ 0xA7 ∧ b ≤ 0xA0 then
    (column? b).map (fun column => Char.ofNat (0xE4C6 + 96 * (a - 0xA1) + column))
  else none

/-- The character of a pair in GB 18030. -/
def gb18030? (a b : Nat) : Option Char :=
  ((gbk? a b).orElse fun _ => private? a b).orElse fun _ => run? gb18030Runs a b

/-- The code point of a number among the ranges: that of the last range that starts at the number or before it. -/
def rangeAt (n : Nat) : Nat :=
  gb18030Ranges.foldl (fun found (first, code) => if first ≤ n then code + (n - first) else found) 0

/-- The character of four octets in GB 18030: the rest of the first plane by ranges, then the other planes in order. -/
def four? (a b c d : Nat) : Option Char :=
  if 0x81 ≤ a ∧ a ≤ 0xFE ∧ 0x81 ≤ c ∧ c ≤ 0xFE ∧ 0x30 ≤ d ∧ d ≤ 0x39 then
    let within := (b - 0x30) * 1260 + (c - 0x81) * 10 + (d - 0x30)
    if a < 0x85 then
      let n := (a - 0x81) * 12600 + within
      if n < 39420 then some (Char.ofNat (rangeAt n)) else none
    else if 0x90 ≤ a then
      let n := 0x10000 + (a - 0x90) * 12600 + within
      if n ≤ 0x10FFFF then some (Char.ofNat n) else none
    else none
  else none

/-- A front in GB 18030: a second octet that is a digit asks for four octets. -/
def front18030 (a : UInt8) : Bytes → Front
  | [] => .cut
  | b :: rest =>
    if 0x30 ≤ b.toNat ∧ b.toNat ≤ 0x39 then
      match rest with
      | c :: d :: _ => .ofChar? 3 (four? a.toNat b.toNat c.toNat d.toNat)
      | _ => .cut
    else .ofChar? 1 (gb18030? a.toNat b.toNat)

/-! ## Taiwan and Hong Kong -/

/-- The character in a table of 157 columns whose rows start somewhere. -/
def bigPlane? (t : CharTable) (first a b : Nat) : Option Char :=
  if a < first then none
  else if 0x40 ≤ b ∧ b ≤ 0x7E then t.at? ((a - first) * 157 + (b - 0x40))
  else if 0xA1 ≤ b ∧ b ≤ 0xFE then t.at? ((a - first) * 157 + (b - 0x62))
  else none

/-- The character of a pair in Big5. -/
def big5? (a b : Nat) : Option Char := bigPlane? big5Rows 0xA1 a b

/-- The character of a pair in the Big5 of Windows. -/
def big5Windows? (a b : Nat) : Option Char := (run? big5WindowsRuns a b).orElse fun _ => big5? a b

/-- The characters of a pair in the Big5 of Hong Kong, which has its own ones from C6A1 to the end of row C8. -/
def hongKong? (a b : Nat) : Option (List Char) :=
  let own := 0xC6A1 ≤ a * 0x100 + b ∧ a ≤ 0xC8
  let single := (if own then none else big5? a b).orElse fun _ =>
    (bigPlane? hongKongBefore 0x87 a b).orElse fun _ => run? hongKongRuns a b
  (single.map ([·])).orElse fun _ => several? hongKongPairs a b

/-! ## Korea -/

/-- The column of a second octet in the unified code. -/
def unifiedColumn? (b : Nat) : Option Nat :=
  if 0x41 ≤ b ∧ b ≤ 0x5A then some (b - 0x41)
  else if 0x61 ≤ b ∧ b ≤ 0x7A then some (b - 0x47)
  else if 0x81 ≤ b ∧ b ≤ 0xFE then some (b - 0x4D)
  else none

/-- The character of a pair in the unified code. -/
def unified? (a b : Nat) : Option Char :=
  (plane? ksX1001 a b).orElse fun _ =>
  (unifiedColumn? b).bind fun column =>
  if a < 0x81 then none
  else if a ≤ 0xA0 then unifiedBefore.at? ((a - 0x81) * 178 + column)
  else if b ≤ 0xA0 then unifiedBeside.at? ((a - 0xA1) * 84 + column)
  else none

/-- A consonant by its column. -/
def jamo? (table : List (Option Nat)) (b : Nat) : Option Nat :=
  if 0xA1 ≤ b then (table[b - 0xA1]?).join else none

/-- The syllable of three letters: a consonant, a vowel, and a consonant or a filler. -/
def syllable? (lead vowel tail : Nat) : Option Char :=
  if 0xBF ≤ vowel ∧ vowel ≤ 0xD3 then
    match jamo? leadJamo lead, if tail = 0xD4 then some 0 else jamo? tailJamo tail with
    | some l, some t => some (Char.ofNat (0xAC00 + l * 588 + (vowel - 0xBF) * 28 + t))
    | _, _ => none
  else none

/-- A front in Korean: a filler starts a syllable that is written letter by letter. -/
def frontKorean (a : UInt8) : Bytes → Front
  | [] => .cut
  | b :: rest =>
    if a = 0xA4 ∧ b = 0xD4 then
      match rest with
      | c :: d :: e :: f :: g :: h :: _ =>
        if c = 0xA4 ∧ e = 0xA4 ∧ g = 0xA4 then .ofChar? 7 (syllable? d.toNat f.toNat h.toNat) else .stranger 0
      | _ => .cut
    else .ofChar? 1 (plane? ksX1001 a.toNat b.toNat)

/-- The letter or syllable of five bits each for a lead, a vowel and a tail: a syllable, or a letter between fillers. -/
def combined? (lead vowel tail : Nat) : Option Char :=
  let filler := '\u3000'
  match combiningLetters.at? lead, combiningLetters.at? (32 + vowel), combiningLetters.at? (64 + tail) with
  | some l, some v, some t =>
    if l = filler ∧ v = filler then some t
    else if l = filler ∧ t = filler then some v
    else if v = filler ∧ t = filler then some l
    else if l = filler ∨ v = filler then none
    else
      -- the numbers of tails have a gap behind the seventeenth
      let last := if t = filler then 0 else if tail ≤ 17 then tail - 1 else tail - 2
      some (Char.ofNat (0xAC00 + (lead - 2) * 588 + (v.toNat - 0x314F) * 28 + last))
  | _, _, _ => none

/-- The character of a pair in the combining code from D8 on: two rows of KS X 1001 share a first octet, and its letters
are left out. -/
def combiningSign? (a b : Nat) : Option Char :=
  if a < 0xD9 ∨ a = 0xDF ∨ 0xF9 < a ∨ (a = 0xDA ∧ 0xA1 ≤ b ∧ b ≤ 0xD3) then none
  else
    let row := if a < 0xE0 then 2 * (a - 0xD9) else 2 * a - 0x197
    if 0x31 ≤ b ∧ b ≤ 0x7E then plane? ksX1001 (0xA1 + row) (0xA1 + (b - 0x31))
    else if 0x91 ≤ b ∧ b ≤ 0xFE then
      let column := b - 0x43
      plane? ksX1001 (0xA1 + row + column / 94) (0xA1 + column % 94)
    else none

/-- The character of a pair in the combining code: below D8 the fifteen lowest bits are three numbers. -/
def combining? (a b : Nat) : Option Char :=
  if a < 0xD8 then combined? (a / 4 % 32) (a % 4 * 8 + b / 32) (b % 32) else combiningSign? a b

/-! ## Japan -/

/-- An octet below 80 in the Roman letters of Japan. -/
def roman (a : Nat) : Char := if a = 0x5C then '¥' else if a = 0x7E then '‾' else Char.ofNat a

/-- A half width letter. -/
def halfWidth (a : Nat) : Char := Char.ofNat (0xFEC0 + a)

/-- Whether an octet starts a pair in Shift JIS. -/
def isShiftLead (a : Nat) : Bool := (0x81 ≤ a && a ≤ 0x9F) || (0xE0 ≤ a && a ≤ 0xFC)

/-- The column of a second octet in Shift JIS. -/
def shiftColumn? (b : Nat) : Option Nat := if b ≤ 0xFC then column? b else none

/-- The character of a pair in Shift JIS: two rows of JIS X 0208 share a first octet. -/
def shiftJis? (a b : Nat) : Option Char :=
  if isShiftLead a then
    (shiftColumn? b).bind fun column =>
    let lead := if a < 0xE0 then a - 0x81 else a - 0xC1
    jisX0208.at? (lead * 188 + column)
  else none

/-- The character of a pair in the Shift JIS of Windows, with private characters for the first octets F0 to F9. -/
def shiftJisWindows? (a b : Nat) : Option Char :=
  (run? japaneseWindowsRuns a b).orElse fun _ =>
  if 0xF0 ≤ a ∧ a ≤ 0xF9 then (shiftColumn? b).map (fun column => Char.ofNat (0xE000 + 188 * (a - 0xF0) + column))
  else shiftJis? a b

/-- A single octet in the Shift JIS of Windows. -/
def shiftJisWindowsSingle? (a : Nat) : Option Char :=
  if a = 0x80 then some '\x80'
  else if a = 0xA0 then some '\uF8F0'
  else if 0xA1 ≤ a ∧ a ≤ 0xDF then some (halfWidth a)
  else if 0xFD ≤ a then some (Char.ofNat (0xF8F1 + (a - 0xFD)))
  else none

/-- A front in a code of Unix: after 8E a half width letter, after 8F a pair of another plane. -/
def frontUnix (plane : Nat → Nat → Front) (other? : Nat → Nat → Option Char) (a : UInt8) : Bytes → Front
  | [] => .cut
  | b :: rest =>
    if a = 0x8E then .ofChar? 1 (if 0xA1 ≤ b.toNat ∧ b.toNat ≤ 0xDF then some (halfWidth b.toNat) else none)
    else if a = 0x8F then
      match rest with
      | c :: _ => .ofChar? 2 (other? b.toNat c.toNat)
      | [] => .cut
    else plane a.toNat b.toNat

/-! ## Japan with JIS X 0213 -/

/-- Whether a cell of the first plane is missing before the revision. -/
def isMissing (revised : Bool) (a b : Nat) : Bool := !revised && jisX0213Added.contains (a * 0x100 + b)

/-- The characters of a cell of the first plane. -/
def firstPlane? (revised : Bool) (a b : Nat) : Option (List Char) :=
  if isMissing revised a b then none
  else
    let single := (plane? jisX0208 a b).orElse fun _ => run? jisX0213First a b
    (single.map ([·])).orElse fun _ => several? jisX0213Pairs a b

/-- The character of a cell of the second plane, one of which was another one before the revision. -/
def secondPlane? (revised : Bool) (a b : Nat) : Option Char :=
  if !revised && a = 0xFD && b = 0xBB then some '鬝' else run? jisX0213Second a b

/-- A cell of the first plane as a front: a missing one is passed over as a whole. -/
def firstPlane (revised : Bool) (cell : Option (List Char)) (a b : Nat) : Front :=
  if isMissing revised a b then .stranger 1 else .ofChars? 1 (cell.orElse fun _ => firstPlane? revised a b)

/-- The rows of the second plane in the order of Shift JIS. -/
def secondRow (n : Nat) : Nat := [0xA1, 0xA8, 0xA3, 0xA4, 0xA5, 0xAC, 0xAD, 0xAE, 0xAF].getD n (0xE5 + n)

/-- A pair in Shift JIS with JIS X 0213: two rows share a first octet, those of the second plane behind the others. -/
def pairShiftExtended (revised : Bool) (a b : Nat) : Front :=
  match shiftColumn? b with
  | none => .stranger 0
  | some column =>
    let row := 2 * (if a < 0xE0 then a - 0x81 else a - 0xC1) + column / 94
    let cell := 0xA1 + column % 94
    if row < 94 then firstPlane revised (if row = 0 ∧ cell = 0xC0 then some ['\\'] else none) (0xA1 + row) cell
    else .ofChar? 1 (secondPlane? revised (secondRow (row - 94)) cell)

/-- A pair in the code of Unix with JIS X 0213. -/
def pairUnixExtended (revised : Bool) (a b : Nat) : Front :=
  firstPlane revised (if a = 0xA2 ∧ b = 0xB2 then some ['～'] else none) a b

/-! ## Fronts -/

/-- A pair of octets that stands for a single character. -/
def single (char? : Nat → Nat → Option Char) (a b : Nat) : Front := .ofChar? 1 (char? a b)

/-- A front that is a pair. -/
def pair (front : Nat → Nat → Front) (a : UInt8) : Bytes → Front
  | [] => .cut
  | b :: _ => front a.toNat b.toNat

/-- A front in a Shift JIS: a half width letter or a pair. -/
def frontShift (front : Nat → Nat → Front) (a : UInt8) (bs : Bytes) : Front :=
  if 0xA1 ≤ a.toNat ∧ a.toNat ≤ 0xDF then .char (halfWidth a.toNat) 0
  else if isShiftLead a.toNat then pair front a bs
  else .stranger 0

/-- The front of an octet string whose first octet is none of ASCII. -/
def frontBeyond (charset : EastAsian) (a : UInt8) (bs : Bytes) : Front :=
  match charset with
  | gb2312 => pair (single (plane? gb2312Rows)) a bs
  | gbk => pair (single gbk?) a bs
  | gb18030 => front18030 a bs
  | big5 => pair (single big5?) a bs
  | big5Windows => pair (single big5Windows?) a bs
  | hongKong => pair (fun a b => .ofChars? 1 (hongKong? a b)) a bs
  | korean => frontKorean a bs
  | koreanUnified => pair (single unified?) a bs
  | koreanCombining => pair (single combining?) a bs
  | shiftJis => frontShift (single shiftJis?) a bs
  | shiftJisWindows =>
    match shiftJisWindowsSingle? a.toNat with
    | some c => .char c 0
    | none => pair (single shiftJisWindows?) a bs
  | shiftJisExtended revised => frontShift (pairShiftExtended revised) a bs
  | japaneseUnix => frontUnix (single (plane? jisX0208)) (plane? jisX0212) a bs
  | japaneseUnixExtended revised =>
    let other? a b := (secondPlane? revised a b).orElse fun _ => plane? jisX0212 a b
    frontUnix (pairUnixExtended revised) other? a bs

/-- The character of an octet below 80. -/
def below (charset : EastAsian) (a : Nat) : Char :=
  match charset with
  | shiftJisExtended _ => roman a
  | _ => Char.ofNat a

/-- The front of an octet string. -/
def front (charset : EastAsian) (a : UInt8) (bs : Bytes) : Front :=
  if a.toNat < 0x80 then .char (charset.below a.toNat) 0 else charset.frontBeyond a bs

end EastAsian

end Freebox
