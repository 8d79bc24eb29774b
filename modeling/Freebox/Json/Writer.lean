import Freebox.Json.Value
import Freebox.Number.Shortest
import Freebox.Number.Whole
import Freebox.Text.Quoted

/-!
# `Freebox.Json.Writer` — writing JSON text

All text is ASCII: other characters are written as code escapes, those beyond U+FFFF as surrogate pairs, and a half of
a surrogate pair by its own number. A style tells the white space after an opening bracket, after a comma and before a
closing bracket.

## Contents
- `Style`, with `Style.line` (one line) and `Style.indented` (two columns a level).
- `Json.write`: the text of a value.
-/

namespace Freebox.Json

/-! ## Texts and numbers -/

/-- A code escape of four digits. -/
def codeText (n : Nat) : List Char := '\\' :: 'u' :: Quoted.hexPadded 4 n

/-- How a character is written inside a text. -/
def charText (c : Char) : List Char :=
  if c = '\x22' then ['\\', '\x22']
  else if c = '\\' then ['\\', '\\']
  else if c = '\n' then ['\\', 'n']
  else if c = '\r' then ['\\', 'r']
  else if c = '\t' then ['\\', 't']
  else if c = '\x0c' then ['\\', 'f']
  else if c = '\x08' then ['\\', 'b']
  else if 0x20 ≤ c.toNat ∧ c.toNat ≤ 0x7E then [c]
  else if c.toNat < 0x10000 then codeText c.toNat
  else
    codeText (0xD800 + (c.toNat - 0x10000) / 0x400) ++ codeText (0xDC00 + (c.toNat - 0x10000) % 0x400)

/-- How a letter is written inside a text. -/
def letterText : Letter → List Char
  | .char c => charText c
  | l => codeText l.code

/-- A text between quotes. -/
def stringText (t : Text) : List Char := '\x22' :: t.letters.flatMap letterText ++ ['\x22']

/-- A double: its shortest text, or one of the names `NaN`, `Infinity` and `-Infinity`. -/
def realText : Binary64 → List Char
  | .nan => ['N', 'a', 'N']
  | .infinite negative =>
    (if negative then ['-'] else []) ++ ['I', 'n', 'f', 'i', 'n', 'i', 't', 'y']
  | x => x.text

/-! ## Values -/

/-- The white space of nested values; the number is the depth of the items. -/
structure Style where
  afterOpening : Nat → List Char
  afterComma : Nat → List Char
  beforeClosing : Nat → List Char

/-- Everything on one line, a space after each comma. -/
def Style.line : Style := ⟨fun _ => [], fun _ => [' '], fun _ => []⟩

/-- A line break, and two spaces for each level. -/
def lineBreak (depth : Nat) : List Char := '\n' :: List.replicate (2 * depth) ' '

/-- Each item on a line of its own, two columns further in for each level. -/
def Style.indented : Style := ⟨lineBreak, lineBreak, fun depth => lineBreak (depth - 1)⟩

mutual

/-- The text of a value whose items are at the given depth. -/
def write (style : Style) (depth : Nat) : Json → List Char
  | null => ['n', 'u', 'l', 'l']
  | bool b => if b then ['t', 'r', 'u', 'e'] else ['f', 'a', 'l', 's', 'e']
  | int n => Whole.write n
  | real x => realText x
  | str t => stringText t
  | arr [] => ['[', ']']
  | arr (v :: vs) =>
    '[' :: style.afterOpening depth ++ write style (depth + 1) v ++ writeItems style depth vs
      ++ style.beforeClosing depth ++ [']']
  | obj [] => ['\x7b', '\x7d']
  | obj ((k, v) :: ms) =>
    '\x7b' :: style.afterOpening depth ++ stringText k ++ ':' :: ' ' :: write style (depth + 1) v
      ++ writeMembers style depth ms ++ style.beforeClosing depth ++ ['\x7d']

/-- The items after the first, a comma before each. -/
def writeItems (style : Style) (depth : Nat) : List Json → List Char
  | [] => []
  | v :: vs => ',' :: style.afterComma depth ++ write style (depth + 1) v ++ writeItems style depth vs

/-- The members after the first, a comma before each. -/
def writeMembers (style : Style) (depth : Nat) : Members → List Char
  | [] => []
  | (k, v) :: ms =>
    ',' :: style.afterComma depth ++ stringText k ++ ':' :: ' ' :: write style (depth + 1) v
      ++ writeMembers style depth ms

end

/-- The text of a value on one line. -/
def line (v : Json) : String := String.ofList (write Style.line 1 v)

/-- The text of a value over several lines. -/
def indented (v : Json) : String := String.ofList (write Style.indented 1 v)

end Freebox.Json
