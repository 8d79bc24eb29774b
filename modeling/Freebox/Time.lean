import Freebox.Number.Whole

/-!
# `Freebox.Time` — instants and their text

An instant is a number of microseconds since the beginning of 1970 in universal time. Its text has the date, the time
of day, the microseconds if there are any, and the offset `+00:00`.

## Contents
- `Instant`, ordered by its microseconds.
- `Instant.civil`: year, month and day of a number of days.
- `Instant.text`: the date and time.
-/

namespace Freebox

/-- A point in time. -/
structure Instant where
  microseconds : Int
  deriving DecidableEq, Repr

namespace Instant

/-- The instant a number of microseconds later. -/
def plus (t : Instant) (microseconds : Int) : Instant := ⟨t.microseconds + microseconds⟩

/-- Whether an instant is reached at another one. -/
def reachedAt (t now : Instant) : Bool := t.microseconds ≤ now.microseconds

/-! ## Calendar -/

/-- Year, month and day of a number of days since the beginning of 1970. Years are counted from March on, in cycles
of four hundred. -/
def civil (days : Int) : Int × Int × Int :=
  let z := days + 719468
  let era := z / 146097
  let day := z - era * 146097
  let yearOfEra := (day - day / 1460 + day / 36524 - day / 146096) / 365
  let dayOfYear := day - (365 * yearOfEra + yearOfEra / 4 - yearOfEra / 100)
  let shifted := (5 * dayOfYear + 2) / 153
  let month := if shifted < 10 then shifted + 3 else shifted - 9
  let year := yearOfEra + era * 400
  (if month ≤ 2 then year + 1 else year, month, dayOfYear - (153 * shifted + 2) / 5 + 1)

example : civil 19723 = (2024, 1, 1) := by decide
example : civil 19782 = (2024, 2, 29) := by decide
example : civil (-1) = (1969, 12, 31) := by decide

/-! ## Text -/

/-- Digits filled with noughts to a width. -/
def padded (width : Nat) (n : Int) : String :=
  let ds := Nat.toDigits 10 n.natAbs
  String.ofList (List.replicate (width - ds.length) '0' ++ ds)

/-- The date and time of an instant. -/
def text (t : Instant) : String :=
  let seconds := t.microseconds / 1000000
  let part := t.microseconds % 1000000
  let (year, month, day) := civil (seconds / 86400)
  let ofDay := seconds % 86400
  padded 4 year ++ "-" ++ padded 2 month ++ "-" ++ padded 2 day ++ "T" ++ padded 2 (ofDay / 3600) ++ ":"
    ++ padded 2 (ofDay / 60 % 60) ++ ":" ++ padded 2 (ofDay % 60)
    ++ (if part = 0 then "" else "." ++ padded 6 part) ++ "+00:00"

end Instant

end Freebox
