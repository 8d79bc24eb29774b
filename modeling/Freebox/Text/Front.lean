import Freebox.Text.Bytes

/-!
# `Freebox.Text.Front` — octets read as characters from the front

An encoding in which each character has octets of its own is told by what the front of an octet string is. Reading
goes on from there: an octet that starts nothing is passed over, and a character that is cut off ends the text. What
stands for no character is kept as a gap.

## Contents
- `Front`: what the front of an octet string is.
- `Front.read`: the characters and gaps of an octet string.
-/

namespace Freebox

/-- What the front of an octet string is. -/
inductive Front where
  /-- Characters, seldom more than one, and how many octets they have after the first. -/
  | chars (cs : List Char) (more : Nat)
  /-- No character: the first octet and so many after it are passed over. -/
  | stranger (more : Nat)
  /-- The beginning of a character that has no end. -/
  | cut
  deriving DecidableEq, Repr

namespace Front

/-- A single character. -/
def char (c : Char) (more : Nat) : Front := .chars [c] more

/-- The characters of a table, in so many octets after the first. Without any the first octet is a stranger. -/
def ofChars? (more : Nat) : Option (List Char) → Front
  | some cs => .chars cs more
  | none => .stranger 0

/-- The single character of a table, likewise. -/
def ofChar? (more : Nat) (c : Option Char) : Front := .ofChars? more (c.map ([·]))

/-- The characters and gaps of an octet string, after so many octets that are passed over. -/
def read (front : UInt8 → Bytes → Front) : Nat → Bytes → List (Option Char)
  | _, [] => []
  | n + 1, _ :: bs => read front n bs
  | 0, b :: bs =>
    match front b bs with
    | .chars cs more => cs.map some ++ read front more bs
    | .stranger more => none :: read front more bs
    | .cut => [none]

end Front

end Freebox
