import Freebox.Text.Basic

/-!
# `Freebox.Text.Blank` — white space, and trimming

Blank characters are those of Unicode's white space property together with the four information separators
U+001C to U+001F.

## Contents
- `isBlank`: the test.
- `trim`: characters without the blanks at their ends. `trimmed`: a text without them.
-/

namespace Freebox.Text

/-- The inclusive ranges of blank code points. -/
def blanks : List (Nat × Nat) :=
  [
    (0x9, 0xD), (0x1C, 0x20), (0x85, 0x85), (0xA0, 0xA0), (0x1680, 0x1680), (0x2000, 0x200A),
    (0x2028, 0x2029), (0x202F, 0x202F), (0x205F, 0x205F), (0x3000, 0x3000)
  ]

/-- Characters that count as white space. -/
def isBlank (c : Char) : Bool := blanks.any (fun (lo, hi) => lo ≤ c.toNat && c.toNat ≤ hi)

/-- Characters without the blanks at their end. -/
def trimEnd (s : List Char) : List Char := (s.reverse.dropWhile isBlank).reverse

/-- Characters without the blanks at either end. -/
def trim (s : List Char) : List Char := trimEnd (s.dropWhile isBlank)

/-- Whether a letter is a blank character. -/
def isBlankLetter (l : Letter) : Bool := l.char?.any isBlank

/-- A text without blanks at either end. -/
def trimmed (t : Text) : Text :=
  ⟨((t.letters.dropWhile isBlankLetter).reverse.dropWhile isBlankLetter).reverse⟩

end Freebox.Text
