import Freebox.Text.Base64
import Freebox.Text.Wide

/-!
# `Freebox.Text.Utf7` — UTF-7

ASCII stands for itself, but a plus sign starts a run of base64 that holds UTF-16. The run ends before the first
character that is not of base64; a hyphen there is dropped. A plus sign is written as a run that is empty.

## Contents
- `Utf7.Place`, `Utf7.step`, `Utf7.finish`: reading octet by octet.
- `Utf7.read`: the letters and gaps of an octet string.
-/

namespace Freebox.Utf7

/-- A run of base64: bits that fill no unit yet, and a first half of a surrogate pair. -/
structure Run where
  bits : Nat := 0
  buffer : Nat := 0
  high : Option Nat := none
  deriving DecidableEq, Repr

/-- Where a reading stands. -/
inductive Place where
  | outside
  /-- Behind a plus sign. -/
  | opened
  | inside (r : Run)
  deriving DecidableEq, Repr

/-- The number of an octet in base64. -/
def value? (b : UInt8) : Option Nat := Base64.value? (Char.ofNat b.toNat)

/-- An octet outside of runs. -/
def plain (b : UInt8) : List (Option Letter) × Place :=
  if b = 0x2B then ([], .opened)
  else if b.toNat < 0x80 then ([some (.char (Char.ofNat b.toNat))], .outside)
  else ([none], .outside)

/-- A unit of UTF-16 in a run. A half of a surrogate pair without a partner stands alone. -/
def Run.unit (r : Run) (n : Nat) : List (Option Letter) × Run :=
  let alone := fun h : Nat => some (Letter.ofNat h)
  match r.high with
  | some h =>
    if Wide.isLow n then ([some (.char (Char.ofNat (Wide.join h n)))], { r with high := none })
    else if Wide.isHigh n then ([alone h], { r with high := some n })
    else ([alone h, alone n], { r with high := none })
  | none => if Wide.isHigh n then ([], { r with high := some n }) else ([alone n], r)

/-- Six more bits in a run. -/
def Run.push (r : Run) (v : Nat) : List (Option Letter) × Run :=
  let bits := r.bits + 6
  let buffer := r.buffer * 0x40 + v
  if 16 ≤ bits then
    let rest := Nat.pow 2 (bits - 16)
    Run.unit { r with bits := bits - 16, buffer := buffer % rest } (buffer / rest)
  else ([], { r with bits, buffer })

/-- Whether the bits that are left are no padding: a whole character of base64, or bits that are set. -/
def Run.isTorn (r : Run) : Bool := 6 ≤ r.bits || (0 < r.bits && r.buffer != 0)

/-- The octet behind a run. If the run is torn the octet is lost with it. -/
def Run.leave (r : Run) (b : UInt8) : List (Option Letter) × Place :=
  if r.isTorn then ([none], .outside)
  else
    let alone := match r.high with
      | some h => if b.toNat < 0x80 ∧ b ≠ 0x2B then [some (.ofNat h)] else []
      | none => []
    if b = 0x2D then (alone, .outside)
    else
      let (out, place) := plain b
      (alone ++ out, place)

/-- One octet. -/
def step : Place → UInt8 → List (Option Letter) × Place
  | .outside, b => plain b
  | .opened, b =>
    if b = 0x2D then ([some (.char '+')], .outside)
    else match value? b with
      | some v => let (out, r) := Run.push {} v; (out, .inside r)
      | none => ([none], .outside)
  | .inside r, b =>
    match value? b with
    | some v => let (out, r) := r.push v; (out, .inside r)
    | none => r.leave b

/-- The end of the text. -/
def finish : Place → List (Option Letter)
  | .inside r => if r.isTorn || r.high.isSome then [none] else []
  | _ => []

/-- The letters and gaps of an octet string, from a place on. -/
def readFrom : Place → Bytes → List (Option Letter)
  | place, [] => finish place
  | place, b :: bs =>
    let (out, next) := step place b
    out ++ readFrom next bs

/-- The letters and gaps of an octet string. -/
def read (bs : Bytes) : List (Option Letter) := readFrom .outside bs

end Freebox.Utf7
