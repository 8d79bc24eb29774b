import Freebox.Text.Front

/-!
# `Freebox.Charset.CharTable` — characters by number

A table lists characters in order, cut into lines of the same length. U+FFFD stands where there is none, and may be left
out at the end of a line. A list of runs tells neighbours by the number of the first.

## Contents
- `CharTable`, and `CharTable.at?`: the character of a number.
- `Runs.at?`: the same for a list of runs.
-/

namespace Freebox

/-- Characters in lines of so many. -/
structure CharTable where
  width : Nat
  lines : List String
  deriving DecidableEq, Repr

/-- The character at a place of a line; U+FFFD is none. -/
def charAt? (line : String) (n : Nat) : Option Char := line.toList[n]?.filter (· != '\uFFFD')

/-- The character of a number. -/
def CharTable.at? (t : CharTable) (n : Nat) : Option Char := (t.lines[n / t.width]?).bind (charAt? · (n % t.width))

/-- The character of a number among runs of neighbours, each told by the number of its first. -/
def Runs.at? (runs : List (Nat × String)) (n : Nat) : Option Char :=
  runs.findSome? (fun (first, cs) => if first ≤ n then cs.toList[n - first]? else none)

end Freebox
