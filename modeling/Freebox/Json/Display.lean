import Freebox.Json.Value
import Freebox.Number.Shortest
import Freebox.Number.Whole
import Freebox.Text.Quoted

/-!
# `Freebox.Json.Display` — values inside messages

A message shows a value in brackets and braces, with `None`, `True` and `False` for null and the truth values. Texts
inside arrays and objects stand between quotes; a text that is the whole value is shown bare.

## Contents
- `Json.inspected`: the text of a value with texts between quotes.
- `Json.shown`: the same, with a text as it is.
-/

namespace Freebox.Json

mutual

/-- The text of a value, with texts between quotes. -/
def inspected : Json → List Char
  | null => ['N', 'o', 'n', 'e']
  | bool b => if b then ['T', 'r', 'u', 'e'] else ['F', 'a', 'l', 's', 'e']
  | int n => Whole.write n
  | real x => x.text
  | str t => Quoted.text t
  | arr [] => ['[', ']']
  | arr (v :: vs) => '[' :: inspected v ++ inspectedItems vs ++ [']']
  | obj [] => ['\x7b', '\x7d']
  | obj ((k, v) :: ms) =>
    '\x7b' :: Quoted.text k ++ ':' :: ' ' :: inspected v ++ inspectedMembers ms ++ ['\x7d']

/-- The items after the first. -/
def inspectedItems : List Json → List Char
  | [] => []
  | v :: vs => ',' :: ' ' :: inspected v ++ inspectedItems vs

/-- The members after the first. -/
def inspectedMembers : Members → List Char
  | [] => []
  | (k, v) :: ms => ',' :: ' ' :: Quoted.text k ++ ':' :: ' ' :: inspected v ++ inspectedMembers ms

end

/-- The text of a value, with a text as it is. -/
def shown : Json → Text
  | str t => t
  | v => .ofList (inspected v)

end Freebox.Json
