import Freebox.Json.Display

/-!
# `Freebox.Number.Quantity` — numbers that are an integer or a double

Deadlines and delays are given in seconds, as an integer or as a double, and are shown as they were given.

## Contents
- `Quantity`, its text and its JSON value.
- `Quantity.microseconds`: the whole microseconds of a number of seconds, a half going to the even neighbour.
-/

namespace Freebox

/-- An integer or a double. -/
inductive Quantity where
  | int (n : Int)
  | real (x : Binary64)
  deriving DecidableEq, Repr

namespace Quantity

/-- The JSON value of a number. -/
def toJson : Quantity → Json
  | int n => .int n
  | real x => .real x

/-- The number that a JSON value is. -/
def ofJson? : Json → Option Quantity
  | .int n => some (int n)
  | .real x => some (real x)
  | _ => none

/-- The text of a number. -/
def text (q : Quantity) : String := String.ofList q.toJson.inspected

/-- A double rounded to an integer, a half going to the even neighbour. -/
def rounded : Binary64 → Int
  | .finite negative m e =>
    let (n, d) := Binary64.quotient m e
    Binary64.signed negative (Binary64.roundDiv n d)
  | _ => 0

/-- The microseconds of a number of seconds. The part of a second is first multiplied as a double. -/
def microseconds : Quantity → Int
  | int n => n * 1000000
  | real (.finite negative m e) =>
    let (n, d) := Binary64.quotient m e
    Binary64.signed negative (n / d) * 1000000 + rounded (Binary64.nearest negative (n % d * 1000000) d)
  | real _ => 0

example : microseconds (.real (Binary64.ofDecimal false 25 (-1))) = 2500000 := by decide +kernel

end Quantity

end Freebox
