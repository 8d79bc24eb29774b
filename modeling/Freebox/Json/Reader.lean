import Freebox.Json.Value
import Freebox.Number.Whole
import Freebox.Text.Wide

/-!
# `Freebox.Json.Reader` — reading JSON text

The grammar of JSON with three more numbers, `NaN`, `Infinity` and `-Infinity`. A number is as long as its grammar
allows: of `1.` and `1e` only the `1` is read. Two code escapes in a row for the halves of a surrogate pair are one
character; other halves stay halves. Of members with one name the last value counts, at the place of the first. Reading
stops at the first error; it remembers the text from there on, so that its place can be told.

## Contents
- `Json.Problem`, `Json.Stop`: what went wrong, and the text from that place on.
- `Json.text`, `Json.number`, `Json.value`: the parts of the grammar.
- `Json.document`: a whole text.
-/

namespace Freebox.Json

/-! ## Errors -/

/-- What is wrong at a place of the text. -/
inductive Problem where
  | expectedValue
  | expectedName
  | expectedColon
  | expectedComma
  | unterminatedText
  | controlCharacter
  | invalidEscape
  | invalidCode
  | extraData
  | byteOrderMark
  deriving DecidableEq, Repr

/-- The wording of a problem. -/
def Problem.message : Problem → String
  | .expectedValue => "Expecting value"
  | .expectedName => "Expecting property name enclosed in double quotes"
  | .expectedColon => "Expecting ':' delimiter"
  | .expectedComma => "Expecting ',' delimiter"
  | .unterminatedText => "Unterminated string starting at"
  | .controlCharacter => "Invalid control character at"
  | .invalidEscape => "Invalid \\escape"
  | .invalidCode => "Invalid \\uXXXX escape"
  | .extraData => "Extra data"
  | .byteOrderMark => "Unexpected UTF-8 BOM (decode using utf-8-sig)"

/-- Why reading stopped. -/
inductive Stop where
  /-- A problem, with the text from its place on. -/
  | problem (what : Problem) (rest : List Letter)
  /-- An integer of more digits than may be converted. -/
  | tooManyDigits (count : Nat)
  deriving DecidableEq, Repr

/-! ## Lexical parts -/

/-- White space between tokens. -/
def isSpace (l : Letter) : Bool := l == .char ' ' || l == .char '\t' || l == .char '\n' || l == .char '\r'

/-- The text from its first token on. -/
def skip (s : List Letter) : List Letter := s.dropWhile isSpace

/-- Decimal digits of a number. -/
def isDigit (l : Letter) : Bool := 48 ≤ l.code && l.code ≤ 57

/-- The character that a letter after a reverse solidus stands for. -/
def escaped? (l : Letter) : Option Char :=
  l.char?.bind fun c =>
    if c = '\x22' ∨ c = '\\' ∨ c = '/' then some c
    else if c = 'b' then some '\x08'
    else if c = 'f' then some '\x0c'
    else if c = 'n' then some '\n'
    else if c = 'r' then some '\r'
    else if c = 't' then some '\t'
    else none

/-- The value of a hexadecimal digit. -/
def hexValue? (l : Letter) : Option Nat := l.char?.bind Bytes.hexValue?

/-- The number of four hexadecimal digits. -/
def code? (a b c d : Letter) : Option Nat :=
  match hexValue? a, hexValue? b, hexValue? c, hexValue? d with
  | some w, some x, some y, some z => some (((w * 16 + x) * 16 + y) * 16 + z)
  | _, _, _, _ => none

/-- The letters that start with the one of a code escape, if the next is another escape or not: two escapes for the
halves of a surrogate pair are one character. -/
def prependCode (n : Nat) (escapeFollows : Bool) (ls : List Letter) : List Letter :=
  match ls with
  | [] => [.ofNat n]
  | l :: rest =>
    if escapeFollows && Wide.isHigh n && Wide.isLow l.code then .char (Char.ofNat (Wide.join n l.code)) :: rest
    else .ofNat n :: l :: rest

/-- The letters of a text up to its closing quote, and what follows the quote. The `opening` is the text from the
opening quote on. A code escape has something after its four digits. -/
def text (opening : List Letter) : List Letter → Except Stop (List Letter × List Letter)
  | [] => .error (.problem .unterminatedText opening)
  | l :: rest =>
    if l = .char '\x22' then .ok ([], rest)
    else if l = .char '\\' then
      match rest with
      | [] => .error (.problem .unterminatedText opening)
      | .char 'u' :: h1 :: h2 :: h3 :: h4 :: after :: more =>
        match code? h1 h2 h3 h4 with
        | some n => (text opening (after :: more)).map (fun (ls, r) => (prependCode n (after == .char '\\') ls, r))
        | none => .error (.problem .invalidCode rest)
      | e :: more =>
        if e = .char 'u' then .error (.problem .invalidCode rest)
        else match escaped? e with
          | some c => (text opening more).map (fun (ls, r) => (.char c :: ls, r))
          | none => .error (.problem .invalidEscape (l :: rest))
    else if l.code < 0x20 then .error (.problem .controlCharacter (l :: rest))
    else (text opening rest).map (fun (ls, r) => (l :: ls, r))

/-- A text after its opening quote. -/
def quotedText (opening rest : List Letter) : Except Stop (Text × List Letter) :=
  (text opening rest).map (fun (ls, r) => (⟨ls⟩, r))

/-- The digits before the point: a nought alone, or digits that start with another one. -/
def wholePart? : List Letter → Option (List Letter × List Letter)
  | .char '0' :: rest => some ([.char '0'], rest)
  | l :: rest => if isDigit l then some ((l :: rest).span isDigit) else none
  | [] => none

/-- The digits after a point that has some. -/
def fraction : List Letter → List Letter × List Letter
  | .char '.' :: d :: rest => if isDigit d then (d :: rest).span isDigit else ([], .char '.' :: d :: rest)
  | s => ([], s)

/-- A sign of an exponent, and what follows it. -/
def exponentSign : List Letter → Bool × List Letter
  | .char '-' :: rest => (true, rest)
  | .char '+' :: rest => (false, rest)
  | s => (false, s)

/-- The number of a list of decimal digits. -/
def digitsValue (ds : List Letter) : Nat := Whole.ofDigits (ds.map (fun d => d.code - 48))

/-- The exponent, if there is a complete one. -/
def exponent? : List Letter → Option (Int × List Letter)
  | e :: rest =>
    if e = .char 'e' ∨ e = .char 'E' then
      let (negative, s) := exponentSign rest
      let (ds, s) := s.span isDigit
      if ds.isEmpty then none
      else some (Binary64.signed negative (digitsValue ds), s)
    else none
  | [] => none

/-- A minus sign, and what follows it. -/
def minus : List Letter → Bool × List Letter
  | .char '-' :: rest => (true, rest)
  | s => (false, s)

/-- A number: an integer if it has neither fraction nor exponent. -/
def number (s : List Letter) : Except Stop (Json × List Letter) :=
  let (negative, s1) := minus s
  match wholePart? s1 with
  | none => .error (.problem .expectedValue s)
  | some (ds, s2) =>
    let (part, s3) := fraction s2
    match exponent? s3 with
    | some (e, s4) =>
      .ok (.real (Binary64.ofDecimal negative (digitsValue (ds ++ part)) (e - part.length)), s4)
    | none =>
      if part.isEmpty then
        if Whole.maxDigits < ds.length then .error (.tooManyDigits ds.length)
        else .ok (.int (Binary64.signed negative (digitsValue ds)), s3)
      else .ok (.real (Binary64.ofDecimal negative (digitsValue (ds ++ part)) (-part.length)), s3)

/-! ## Values -/

/-- The members of an object given one by one: of equal names the last value counts, at the first place. -/
def ofPairs (pairs : Members) : Members := pairs.foldl (fun ms (k, v) => Members.set ms k v) []

mutual

/-- One value at the start of a text, and what follows it. -/
def value : Nat → List Letter → Except Stop (Json × List Letter)
  | 0, s => .error (.problem .expectedValue s)
  | n + 1, s =>
    match s with
    | .char '\x22' :: rest => (quotedText s rest).map (fun (t, r) => (.str t, r))
    | .char '\x7b' :: rest =>
      match skip rest with
      | .char '\x7d' :: after => .ok (.obj [], after)
      | inside => (members n inside).map (fun (ms, r) => (.obj (ofPairs ms), r))
    | .char '[' :: rest =>
      match skip rest with
      | .char ']' :: after => .ok (.arr [], after)
      | inside => (items n inside).map (fun (vs, r) => (.arr vs, r))
    | .char 'n' :: .char 'u' :: .char 'l' :: .char 'l' :: rest => .ok (.null, rest)
    | .char 't' :: .char 'r' :: .char 'u' :: .char 'e' :: rest => .ok (.bool true, rest)
    | .char 'f' :: .char 'a' :: .char 'l' :: .char 's' :: .char 'e' :: rest => .ok (.bool false, rest)
    | .char 'N' :: .char 'a' :: .char 'N' :: rest => .ok (.real .nan, rest)
    | .char 'I' :: .char 'n' :: .char 'f' :: .char 'i' :: .char 'n' :: .char 'i' :: .char 't' :: .char 'y' :: rest =>
      .ok (.real (.infinite false), rest)
    | .char '-' :: .char 'I' :: .char 'n' :: .char 'f' :: .char 'i' :: .char 'n' :: .char 'i' :: .char 't'
        :: .char 'y' :: rest =>
      .ok (.real (.infinite true), rest)
    | _ => number s

/-- The values of an array up to its closing bracket, and what follows it. -/
def items : Nat → List Letter → Except Stop (List Json × List Letter)
  | 0, s => .error (.problem .expectedValue s)
  | n + 1, s =>
    match value n s with
    | .error e => .error e
    | .ok (v, rest) =>
      match skip rest with
      | .char ']' :: after => .ok ([v], after)
      | .char ',' :: more => (items n (skip more)).map (fun (vs, r) => (v :: vs, r))
      | other => .error (.problem .expectedComma other)

/-- The members of an object up to its closing brace, and what follows it. -/
def members : Nat → List Letter → Except Stop (Members × List Letter)
  | 0, s => .error (.problem .expectedName s)
  | n + 1, s =>
    match s with
    | .char '\x22' :: rest =>
      match quotedText s rest with
      | .error e => .error e
      | .ok (name, afterName) =>
        match skip afterName with
        | .char ':' :: afterColon =>
          match value n (skip afterColon) with
          | .error e => .error e
          | .ok (v, afterValue) =>
            match skip afterValue with
            | .char '\x7d' :: after => .ok ([(name, v)], after)
            | .char ',' :: more => (members n (skip more)).map (fun (ms, r) => ((name, v) :: ms, r))
            | other => .error (.problem .expectedComma other)
        | other => .error (.problem .expectedColon other)
    | other => .error (.problem .expectedName other)

end

/-- A bound on the nesting of calls that reading a text takes: two for each character. -/
def depthBound (s : List Letter) : Nat := 2 * (s.length + 1)

/-- A whole text: one value between white space. -/
def document (s : List Letter) : Except Stop Json :=
  match value (depthBound s) (skip s) with
  | .error e => .error e
  | .ok (v, rest) =>
    match skip rest with
    | [] => .ok v
    | other => .error (.problem .extraData other)

end Freebox.Json
