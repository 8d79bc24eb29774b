import Freebox.Text.Basic
import Freebox.Text.Bytes

/-!
# `Freebox.Text.Escaped` — texts with escapes

Octets stand for the characters of their numbers, but a reverse solidus starts an escape: `u` or `U` and four or eight
hexadecimal digits tell a letter by its number. The full set of escapes has `x` with two digits, one to three octal
digits, the usual letters for controls, and names between braces; no name is known. What is no escape stands for itself.

## Contents
- `Escaped.Place`, `Escaped.step`, `Escaped.finish`: reading octet by octet.
- `Escaped.read`: the letters and gaps of an octet string.
-/

namespace Freebox.Escaped

/-- Where a reading stands. -/
inductive Place where
  | outside
  /-- Behind a reverse solidus. -/
  | opened
  /-- Behind so many hexadecimal digits less than needed, that tell a number so far. -/
  | digits (missing value : Nat)
  /-- Behind octal digits to which so many may be added. -/
  | octal (room value : Nat)
  /-- Behind the letter for a name. -/
  | name
  /-- Between the braces of a name, and whether it has a letter. -/
  | within (named : Bool)
  deriving DecidableEq, Repr

/-- The character of an octet. -/
def charOf (b : UInt8) : Char := Char.ofNat b.toNat

/-- The letter of a number; none above the last. -/
def ofNumber (n : Nat) : Option Letter := if 0x10FFFF < n then none else some (.ofNat n)

/-- An octet outside of escapes. -/
def plain (b : UInt8) : List (Option Letter) × Place :=
  if b = 0x5C then ([], .opened) else ([some (.char (charOf b))], .outside)

/-- An octet behind what came before it. -/
def behind (before : List (Option Letter)) (b : UInt8) : List (Option Letter) × Place :=
  let (out, place) := plain b
  (before ++ out, place)

/-- The escapes of single characters. -/
def shorthands : List (Char × List Char) :=
  [('\n', []), ('\\', ['\\']), ('\x27', ['\x27']), ('\x22', ['\x22']), ('a', ['\x07']), ('b', ['\x08']),
   ('f', ['\x0C']), ('n', ['\n']), ('r', ['\r']), ('t', ['\t']), ('v', ['\x0B'])]

/-- The value of an octal digit. -/
def octalValue? (b : UInt8) : Option Nat :=
  if 0x30 ≤ b.toNat ∧ b.toNat ≤ 0x37 then some (b.toNat - 0x30) else none

/-- The octet behind a reverse solidus. -/
def start (full : Bool) (b : UInt8) : List (Option Letter) × Place :=
  let c := charOf b
  if c = 'u' then ([], .digits 4 0)
  else if c = 'U' then ([], .digits 8 0)
  else if full then
    match shorthands.lookup c, octalValue? b with
    | some cs, _ => (cs.map (fun c => some (.char c)), .outside)
    | none, some v => ([], .octal 2 v)
    | none, none =>
      if c = 'x' then ([], .digits 2 0)
      else if c = 'N' then ([], .name)
      else ([some (.char '\\'), some (.char c)], .outside)
  else ([some (.char '\\'), some (.char c)], .outside)

/-- One octet. -/
def step (full : Bool) : Place → UInt8 → List (Option Letter) × Place
  | .outside, b => plain b
  | .opened, b => start full b
  | .digits missing value, b =>
    match Bytes.hexValue? (charOf b) with
    | some v =>
      if missing ≤ 1 then ([ofNumber (value * 16 + v)], .outside) else ([], .digits (missing - 1) (value * 16 + v))
    | none => behind [none] b
  | .octal room value, b =>
    match octalValue? b with
    | some v =>
      if room ≤ 1 then ([ofNumber (value * 8 + v)], .outside) else ([], .octal (room - 1) (value * 8 + v))
    | none => behind [ofNumber value] b
  | .name, b => if b = 0x7B then ([], .within false) else behind [none] b
  | .within named, b =>
    if b = 0x7D then (if named then [none] else [none, some (.char '\x7D')], .outside) else ([], .within true)

/-- The end of the text. -/
def finish (full : Bool) : Place → List (Option Letter)
  | .outside => []
  | .opened => if full then [none] else [some (.char '\\')]
  | .octal _ value => [ofNumber value]
  | .digits _ _ | .name | .within _ => [none]

/-- The letters and gaps of an octet string, from a place on. -/
def readFrom (full : Bool) : Place → Bytes → List (Option Letter)
  | place, [] => finish full place
  | place, b :: bs =>
    let (out, next) := step full place b
    out ++ readFrom full next bs

/-- The letters and gaps of an octet string, with the full set of escapes or by numbers only. -/
def read (full : Bool) (bs : Bytes) : List (Option Letter) := readFrom full .outside bs

end Freebox.Escaped
