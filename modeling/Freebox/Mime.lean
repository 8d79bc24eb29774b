import Freebox.Charset.Name
import Freebox.Fault
import Freebox.Text.Blank
import Freebox.Text.Punycode

/-!
# `Freebox.Mime` — parameters of header values

A header value is a list of pieces between semicolons; semicolons between quotes do not count. A piece is a name and
a value around an equals sign, or a bare name. A value may come in numbered segments under one name, and a segment
whose name ends in an asterisk has its octets written by percent signs behind a charset and a language. The first
piece is taken as it is.

## Contents
- `Mime.parameters`: the parameters of a header value.
- `Mime.contentType`, `Mime.filename`, `Mime.charsetName`: what headers tell about a body.
- `Mime.readBody`: a body in the charset of a name.
-/

namespace Freebox

namespace Mime

open Freebox.Text

/-! ## Pieces -/

/-- The pieces between semicolons. A quote toggles, unless a reverse solidus stands before it; between quotes a
semicolon does not count. -/
def pieces : Bool → Bool → List Char → List (List Char)
  | _, _, [] => [[]]
  | quoted, escaped, c :: cs =>
    if c = ';' ∧ ¬ quoted then [] :: pieces false false cs
    else
      match pieces (if c = '\x22' ∧ ¬ escaped then !quoted else quoted) (c = '\\') cs with
      | p :: ps => (c :: p) :: ps
      | [] => [[c]]

/-- Name and value of a piece: around the first equals sign, without blanks; a name before a sign in lower case. -/
def nameAndValue (piece : List Char) : List Char × List Char :=
  match piece.dropWhile (· != '=') with
  | [] => (trim piece, [])
  | _ :: value => ((trim (piece.takeWhile (· != '='))).map Char.toLower, trim value)

/-! ## Quotes -/

/-- Every reverse solidus that is doubled becomes one. -/
def undouble : List Char → List Char
  | '\\' :: '\\' :: cs => '\\' :: undouble cs
  | c :: cs => c :: undouble cs
  | [] => []

/-- Every escaped quote becomes a quote. -/
def unescapeQuotes : List Char → List Char
  | '\\' :: '\x22' :: cs => '\x22' :: unescapeQuotes cs
  | c :: cs => c :: unescapeQuotes cs
  | [] => []

/-- A value without the quotes or angle brackets around it. -/
def unquote (s : List Char) : List Char :=
  if s.length ≤ 1 then s
  else if s.head? = some '\x22' ∧ s.getLast? = some '\x22' then unescapeQuotes (undouble s.tail.dropLast)
  else if s.head? = some '<' ∧ s.getLast? = some '>' then s.tail.dropLast
  else s

/-- Escapes each reverse solidus and each quote. -/
def escape (s : List Char) : List Char :=
  s.flatMap (fun c => if c = '\\' ∨ c = '\x22' then ['\\', c] else [c])

/-- A text between quotes. -/
def quote (s : List Char) : List Char := '\x22' :: s ++ ['\x22']

/-- Characters for their percent signs: two hexadecimal digits tell an octet. -/
def unpercent : List Char → List Char
  | '%' :: a :: b :: cs =>
    match Bytes.hexValue? a, Bytes.hexValue? b with
    | some h, some l => Char.ofNat (16 * h + l) :: unpercent cs
    | _, _ => '%' :: unpercent (a :: b :: cs)
  | c :: cs => c :: unpercent cs
  | [] => []

/-! ## Segments -/

/-- A segment of a value: its number if it has one, its text, and whether its octets are written by percent signs. -/
structure Segment where
  number : Option Nat
  text : List Char
  encoded : Bool
  deriving DecidableEq, Repr

/-- The name of a segment and the digits of its number: a word, an asterisk, and digits that may end in an asterisk. -/
def segmentName? (name : List Char) : Option (List Char × List Char) :=
  let isWord := fun c : Char => c.isAlphanum || c == '_'
  match name.takeWhile isWord, name.dropWhile isWord with
  | [], _ => none
  | word, ['*'] => some (word, [])
  | word, '*' :: rest =>
    let ds := rest.takeWhile Char.isDigit
    let after := rest.dropWhile Char.isDigit
    if ds ≠ [] ∧ (after = [] ∨ after = ['*']) then some (word, ds) else none
  | _, _ => none

/-- The number of a segment, if it has digits. There may be too many of them to be converted. -/
def segmentNumber (digits : List Char) : Except Fault (Option Nat) :=
  if Whole.maxDigits < digits.length then .error (.notInteger (.tooManyDigits digits.length))
  else .ok (if digits = [] then none else some (Whole.ofDigits (digits.map (fun d => d.toNat - 48))))

/-- The order of segments: by number, then by text, then those with percent signs last. -/
def Segment.le (a b : Segment) : Bool :=
  match compare a.number b.number with
  | .lt => true
  | .gt => false
  | .eq =>
    if a.text = b.text then !a.encoded || b.encoded
    else decide (String.ofList a.text < String.ofList b.text)

/-- The segments of one value in order. Numbered ones cannot be told from others in order. -/
def arrange : List Segment → Except Fault (List Segment)
  | [] => .ok []
  | s :: ss =>
    if ss.all (fun t => t.number.isSome == s.number.isSome) then .ok ((s :: ss).mergeSort Segment.le)
    else if s.number.isSome then .error (.unordered .null .int)
    else .error (.unordered .int .null)

/-! ## Parameters -/

/-- A parameter's value: as it is, or with the charset of its octets. -/
inductive Value where
  | plain (s : List Char)
  | extended (charset : Option (List Char)) (s : List Char)
  deriving DecidableEq, Repr

/-- The text around the first two apostrophes: a charset, a language, and the value. -/
def charsetAndText (s : List Char) : Option (List Char) × List Char :=
  let rest := s.dropWhile (· != '\x27')
  match rest with
  | [] => (none, s)
  | _ :: more =>
    match more.dropWhile (· != '\x27') with
    | [] => (none, s)
    | _ :: value => (some (s.takeWhile (· != '\x27')), value)

/-- The value of segments in order. -/
def joined (ss : List Segment) : Value :=
  let whole := escape (ss.flatMap (fun s => if s.encoded then unpercent s.text else s.text))
  if ss.any Segment.encoded then
    let (charset, s) := charsetAndText whole
    .extended charset (quote s)
  else .plain (quote whole)

/-- Adds a segment to those of its name. -/
def addSegment (groups : List (List Char × List Segment)) (name : List Char) (s : Segment) :
    List (List Char × List Segment) :=
  match groups with
  | [] => [(name, [s])]
  | (n, ss) :: rest => if n = name then (n, ss ++ [s]) :: rest else (n, ss) :: addSegment rest name s

/-- Parameters that are sorted out: the plain ones, and the segments of the others. -/
structure Sorted where
  plain : List (List Char × Value) := []
  groups : List (List Char × List Segment) := []
  deriving DecidableEq, Repr

/-- Adds a piece to those that are sorted out. -/
def Sorted.add (sorted : Sorted) (name value : List Char) : Except Fault Sorted :=
  match segmentName? name with
  | none => .ok { sorted with plain := sorted.plain ++ [(name, .plain (quote (escape (unquote value))))] }
  | some (word, digits) =>
    match segmentNumber digits with
    | .error f => .error f
    | .ok number =>
      let segment := ⟨number, unquote value, name.getLast? = some '*'⟩
      .ok { sorted with groups := addSegment sorted.groups word segment }

/-- The parameters of pieces after the first, added to those that are sorted out. -/
def sortOut (sorted : Sorted) : List (List Char × List Char) → Except Fault Sorted
  | [] => .ok sorted
  | (name, value) :: rest =>
    match sorted.add name value with
    | .error f => .error f
    | .ok more => sortOut more rest

/-- The values of segments, group by group. -/
def joinGroups : List (List Char × List Segment) → Except Fault (List (List Char × Value))
  | [] => .ok []
  | (name, ss) :: rest =>
    match arrange ss with
    | .error f => .error f
    | .ok ordered =>
      match joinGroups rest with
      | .error f => .error f
      | .ok more => .ok ((name, joined ordered) :: more)

/-- The parameters of a header value: plain ones first, then those in segments. -/
def parameters (header : List Char) : Except Fault (List (List Char × Value)) :=
  match (pieces false false header).map nameAndValue with
  | [] => .ok []
  | (name, value) :: rest =>
    match sortOut {} rest with
    | .error f => .error f
    | .ok sorted =>
      match joinGroups sorted.groups with
      | .error f => .error f
      | .ok more => .ok ((name, .plain value) :: sorted.plain ++ more)

/-- A value without its quotes. -/
def Value.bare : Value → Value
  | .plain s => .plain (unquote s)
  | .extended charset s => .extended charset (unquote s)

/-- The value of the first parameter of a name. -/
def parameter (name : String) (header : String) : Except Fault (Option Value) :=
  match parameters header.toList with
  | .error f => .error f
  | .ok ps => .ok ((ps.find? (fun p => p.1.map Char.toLower = name.toList)).map (fun p => p.2.bare))

/-! ## What headers tell -/

/-- The media type of a header value: lower case, with exactly one solidus; else that of plain text. -/
def contentType (header : String) : String :=
  let t := (trim (header.toList.takeWhile (· != ';'))).map Char.toLower
  if t.count '/' = 1 then String.ofList t else "text/plain"

/-- The octets of characters below U+0100; others are written as escapes. -/
def rawOctets (s : List Char) : Bytes :=
  s.flatMap (fun c =>
    if c.toNat < 0x100 then [UInt8.ofNat c.toNat]
    else
      let width := if c.toNat < 0x10000 then 4 else 8
      let mark := if c.toNat < 0x10000 then 'u' else 'U'
      let digits := (List.range width).map (fun i => Bytes.hexDigit (c.toNat / Nat.pow 16 (width - 1 - i) % 16))
      ('\\' :: mark :: digits).map (fun d => UInt8.ofNat d.toNat))

/-- What the name of a charset stands for. A name that holds a null cannot be asked for. -/
def coding (name : List Char) : Except Fault (Option Coding) :=
  if name.contains '\x00' then .error .nullInName else .ok (Coding.ofName? name)

/-- A text that ends in insertions, read leniently. -/
def readPunycode (bs : Bytes) : Except Fault Text :=
  (Punycode.lenient bs).mapError (fun (octet, position) => .beyondAscii octet position)

/-- The text of a value, read leniently. Octets without a charset are ASCII; those of an unknown one are kept as they
are. -/
def Value.text : Value → Except Fault Text
  | .plain s => .ok (.ofList (unquote s))
  | .extended charset s =>
    let name := charset.getD "us-ascii".toList
    match coding name with
    | .error f => .error f
    | .ok (some (.text known)) =>
      if known.isBroken (rawOctets s) then .error (.brokenCharsetName (String.ofList name))
      else .ok (known.lenient (rawOctets s))
    | .ok (some .punycode) => readPunycode (rawOctets s)
    | .ok (some (.refusing reason)) =>
      if s = [] then .ok "" else .error (.refusedName (String.ofList name) reason)
    | .ok _ => .ok (.ofList (unquote s))

/-- The name of a file, by the disposition of its body, else by its media type. -/
def filename (disposition type : Option String) : Except Fault (Option Text) := do
  let look (name : String) (header : Option String) : Except Fault (Option Value) :=
    match header with
    | some h => parameter name h
    | none => .ok none
  let found ← match ← look "filename" disposition with
    | some v => pure (some v)
    | none => look "name" type
  match found with
  | some v => return some (trimmed (← v.text))
  | none => return none

/-- The text of a value, read strictly: as it is if it cannot be read. Octets without a charset are ASCII. -/
def Value.name : Value → Except Fault Text
  | .plain s => .ok (.ofList s)
  | .extended charset s =>
    let name := (charset.filter (· != [])).getD "us-ascii".toList
    match coding name with
    | .error f => .error f
    | .ok (some (.text known)) =>
      match known.strict? (rawOctets s) with
      | none => .ok (.ofList s)
      | some t =>
        if known.isBroken (rawOctets s) then .error (.brokenCharsetName (String.ofList name)) else .ok t
    | .ok (some .punycode) => .ok ((Punycode.strict? (rawOctets s)).getD (.ofList s))
    | .ok _ => .ok (.ofList s)

/-- The name of the charset that a media type tells, unless it is beyond ASCII. -/
def charsetName (type : String) : Except Fault (Option (List Char)) := do
  match ← parameter "charset" type with
  | none => return none
  | some v =>
    let name ← v.name
    return if name.letters.all (·.code < 0x80) then some name.lossy else none

/-- A body in the charset of a name, read leniently: in UTF-8 if there is no name or an unknown one. A body that is no
more than the beginning of a mark is empty. -/
def readBody (name : Option (List Char)) (body : Bytes) : Except Fault Text := do
  let known ← match name with
    | some n => coding n
    | none => pure none
  match known with
  | none => return Charset.utf8.lenient body
  | some (.text charset) =>
    match charset.unmarkedWidth? body with
    | some width => throw (.unmarked width)
    | none =>
      if charset.isBroken body then throw .brokenCharset
      if charset.isOverfull body then throw (.refused "pending buffer overflow")
      return if charset.isMarkBegun body then "" else charset.lenient body
  | some .punycode => readPunycode body
  | some (.refusing reason) => throw (.refused reason)
  | some .octets => throw .octetsForText
  | some .letters => throw .octetsForLetters

end Mime

end Freebox
