import Freebox.Text.Blank
import Freebox.Text.Digit
import Freebox.Text.Quoted
import Freebox.Number.Binary64

/-!
# `Freebox.Number.Whole` — integers written and read

Writing uses decimal digits behind a minus sign. Reading a text drops blanks at its ends, takes one sign, and then
digits of any script with single underscores between them. The information separators U+001C to U+001F are no blanks
here. A text of more than 4300 digits is refused for its length, before what follows the digits is looked at.

## Contents
- `Whole.write`, `Whole.text`: the decimal text of an integer.
- `Whole.read`: the integer of a text, or what is wrong.
-/

namespace Freebox.Whole

open Freebox.Text

/-! ## Writing -/

/-- The decimal text of an integer. -/
def write (n : Int) : List Char :=
  if n < 0 then '-' :: Nat.toDigits 10 n.natAbs else Nat.toDigits 10 n.natAbs

/-- The decimal text of an integer, as a string. -/
def text (n : Int) : String := String.ofList (write n)

/-! ## Reading -/

/-- Why a text is no integer. -/
inductive ReadError where
  /-- The text is not of the form sign and digits. -/
  | malformed (text : Text)
  /-- The text has more digits than may be converted. -/
  | tooManyDigits (count : Nat)
  deriving DecidableEq, Repr

/-- The greatest number of digits that are converted. -/
def maxDigits : Nat := 4300

/-- The wording of a length refusal. -/
def tooManyDigitsMessage (count : Nat) : String :=
  "Exceeds the limit (4300 digits) for integer string conversion: value has " ++ toString count
    ++ " digits; use sys.set_int_max_str_digits() to increase the limit"

/-- The wording of a refusal; at most two hundred characters of the quoted text are shown. -/
def ReadError.message : ReadError → String
  | .malformed t =>
    "invalid literal for int() with base 10: " ++ String.ofList ((Quoted.text t).take 200)
  | .tooManyDigits n => tooManyDigitsMessage n

/-- Blanks around an integer: no information separators. -/
def isPadding (c : Char) : Bool := isBlank c && !(0x1C ≤ c.toNat && c.toNat ≤ 0x1F)

/-- The number of a list of digit values. -/
def ofDigits (ds : List Nat) : Nat := ds.foldl (fun n d => n * 10 + d) 0

/-- Whether a text starts with a digit. -/
def startsWithDigit : List Char → Bool
  | [] => false
  | c :: _ => (digitValue? c).isSome

/-- The leading digits, with single underscores between them, and what follows. Nothing if an underscore that follows
a digit has no digit after it. -/
def digitRun? : Bool → List Char → Option (List Nat × List Char)
  | _, [] => some ([], [])
  | afterDigit, c :: rest =>
    if c = '_' ∧ afterDigit then
      if startsWithDigit rest then digitRun? false rest else none
    else match digitValue? c with
      | some d => (digitRun? true rest).map (fun (ds, r) => (d :: ds, r))
      | none => some ([], c :: rest)

/-- A sign, and what follows it. -/
def sign : List Char → Bool × List Char
  | '-' :: rest => (true, rest)
  | '+' :: rest => (false, rest)
  | s => (false, s)

/-- The integer that a text stands for. -/
def read (text : Text) : Except ReadError Int :=
  let (negative, body) := sign (text.lossy.dropWhile isPadding)
  match digitRun? false body with
  | none => .error (.malformed text)
  | some (ds, rest) =>
    if ds.isEmpty then .error (.malformed text)
    else if maxDigits < ds.length then .error (.tooManyDigits ds.length)
    else if rest.all isPadding then .ok (Binary64.signed negative (ofDigits ds))
    else .error (.malformed text)

end Freebox.Whole
