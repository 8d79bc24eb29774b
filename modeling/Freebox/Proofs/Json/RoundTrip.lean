import Freebox.Proofs.Json.Sound
import Freebox.Proofs.Json.Text

/-!
# `Freebox.Proofs.Json.RoundTrip` — values read back

A value that was written, on one line or over several, is read back as it is, up to halves of surrogate pairs that
stand in a row in a text. It has to be one that reading could have made: no integer has more digits than are converted,
every double is in its one form, and the names of an object are different.

## Contents
- `Json.reread`: what is read where a value was written.
- `Style.Blank`: styles that put nothing but white space between tokens.
- `Json.value_write`: a value written inside a text.
- `Json.parse_indented`, `Json.parse_line`: whole texts.
- `Json.Whole.reread`, `Json.reread_obj`, `Json.has_reread`: what comes back as it is.
-/

namespace Freebox

/-! ## Values -/

namespace Json

mutual

/-- What is read where a value was written: the halves of surrogate pairs in its texts are joined. -/
def reread : Json → Json
  | str t => str t.rejoined
  | arr vs => arr (rereadItems vs)
  | obj ms => obj (ofPairs (rereadMembers ms))
  | v => v

/-- The same of the items of an array. -/
def rereadItems : List Json → List Json
  | [] => []
  | v :: vs => v.reread :: rereadItems vs

/-- The same of the members of an object. -/
def rereadMembers : Members → Members
  | [] => []
  | (k, v) :: ms => (k.rejoined, v.reread) :: rereadMembers ms

end

end Json

/-! ## White space -/

namespace Json

theorem skip_start {l : Letter} (h : isSpace l = false) (s : List Letter) : skip (l :: s) = l :: s := by
  simp [skip, h]

theorem skip_blank {blanks : List Char} (h : ∀ c ∈ blanks, isSpace (.char c) = true) (s : List Letter) :
    skip (blanks.map .char ++ s) = skip s := by
  refine List.dropWhile_append_of_pos fun l here => ?_
  obtain ⟨c, inside, rfl⟩ := List.mem_map.mp here
  exact h c inside

/-- A style puts nothing but white space between tokens. -/
structure Style.Blank (style : Style) : Prop where
  afterOpening : ∀ depth, ∀ c ∈ style.afterOpening depth, isSpace (.char c) = true
  afterComma : ∀ depth, ∀ c ∈ style.afterComma depth, isSpace (.char c) = true
  beforeClosing : ∀ depth, ∀ c ∈ style.beforeClosing depth, isSpace (.char c) = true

theorem lineBreak_blank (depth : Nat) : ∀ c ∈ lineBreak depth, isSpace (.char c) = true := by
  intro c here
  rcases List.mem_cons.mp here with rfl | inside
  · rfl
  · rw [List.eq_of_mem_replicate inside]
    rfl

theorem Style.indented_blank : Style.indented.Blank :=
  ⟨lineBreak_blank, lineBreak_blank, fun depth => lineBreak_blank (depth - 1)⟩

theorem Style.line_blank : Style.line.Blank := by
  refine ⟨fun _ c here => ?_, fun _ c here => ?_, fun _ c here => ?_⟩
  · cases here
  · rw [List.mem_singleton.mp here]
    rfl
  · cases here

/-! ## First characters -/

/-- A text starts with neither white space nor a closing bracket nor a byte order mark. -/
def Starts (s : List Char) : Prop :=
  ∃ c cs, s = c :: cs ∧ isSpace (.char c) = false ∧ c ≠ ']' ∧ c ≠ '\uFEFF'

section
variable {text : List Char} {rest : List Letter}

theorem starts_signed (start : ∃ c cs, text = c :: cs ∧ c.isDigit = true) (negative : Bool) :
    Starts (if negative then '-' :: text else text) := by
  obtain ⟨c, cs, rfl, digit⟩ := start
  have others : ∀ d : Char, d.isDigit = false → c ≠ d := by
    rintro d h rfl
    rw [h] at digit
    cases digit
  cases negative with
  | true => exact ⟨'-', _, rfl, rfl, by decide⟩
  | false => exact ⟨c, cs, rfl, by simp [isSpace, others], others ']' rfl, others '\uFEFF' (by decide)⟩

/-- What starts with a digit, behind a sign or not, is a number. -/
theorem value_number (start : ∃ c cs, text = c :: cs ∧ c.isDigit = true) (negative : Bool) (n : Nat)
    (rest : List Letter) :
    value (n + 1) ((if negative then '-' :: text else text).map .char ++ rest) =
      number ((if negative then '-' :: text else text).map .char ++ rest) := by
  obtain ⟨c, cs, rfl, digit⟩ := start
  have others : ∀ d : Char, d.isDigit = false → c ≠ d := by
    rintro d h rfl
    rw [h] at digit
    cases digit
  rw [value.eq_def]
  cases negative <;> simp [others]

theorem value_array {n : Nat} {l : Letter} {s : List Letter} (inside : skip rest = l :: s) (h : l ≠ .char ']') :
    value (n + 1) (.char '[' :: rest) = (items n (l :: s)).map fun (vs, r) => (.arr vs, r) := by
  rw [value.eq_def]
  simp [inside, h]

theorem stringText_map (t : Text) (rest : List Letter) :
    (stringText t).map .char ++ rest =
      .char '\x22' :: ((t.letters.flatMap letterText).map .char ++ .char '\x22' :: rest) := by
  simp [stringText]

theorem skip_stringText (t : Text) (rest : List Letter) :
    skip ((stringText t).map .char ++ rest) = (stringText t).map .char ++ rest := by
  rw [stringText_map]
  exact skip_start rfl _

theorem value_object {n : Nat} {k : Text} {s : List Letter} (inside : skip rest = (stringText k).map .char ++ s) :
    value (n + 1) (.char '\x7b' :: rest) =
      (members n ((stringText k).map .char ++ s)).map fun (ms, r) => (.obj (ofPairs ms), r) := by
  rw [stringText_map] at inside ⊢
  rw [value.eq_def]
  simp [inside]

/-! ## Numbers and words -/

theorem value_int (m : Int) (n : Nat) (few : (Nat.toDigits 10 m.natAbs).length ≤ Whole.maxDigits)
    (ends : Ends rest) : value (n + 1) ((Whole.write m).map .char ++ rest) = .ok (.int m, rest) := by
  have start := (isWhole_toDigits m.natAbs).start
  rw [← number_write m few ends, Whole.write]
  have read := value_number start (decide (m < 0)) n rest
  simpa only [decide_eq_true_eq] using read

theorem value_real (x : Binary64) (n : Nat) (canonical : x.Canonical) (ends : Ends rest) :
    value (n + 1) ((realText x).map .char ++ rest) = .ok (.real x, rest) := by
  cases x with
  | nan => rw [value.eq_def]; rfl
  | infinite negative => cases negative <;> (rw [value.eq_def]; rfl)
  | finite negative m e =>
    obtain ⟨text, written, start⟩ := realText_start canonical
    rw [← number_realText canonical ends, written]
    exact value_number start negative n rest

theorem value_text (t : Text) (n : Nat) :
    value (n + 1) ((stringText t).map .char ++ rest) = .ok (.str t.rejoined, rest) := by
  rw [stringText_map, value.eq_def]
  simp only [Text.quotedText_write]
  rfl

/-! ## Values -/

variable {style : Style}

theorem write_starts (style : Style) (depth : Nat) (v : Json) (sound : v.Sound) : Starts (write style depth v) := by
  cases v with
  | null => exact ⟨_, _, rfl, rfl, by decide⟩
  | bool b => cases b <;> exact ⟨_, _, rfl, rfl, by decide⟩
  | int m =>
    have starts := starts_signed (isWhole_toDigits m.natAbs).start (decide (m < 0))
    rw [write, Whole.write]
    simpa only [decide_eq_true_eq] using starts
  | real x =>
    cases x with
    | nan => exact ⟨_, _, rfl, rfl, by decide⟩
    | infinite negative => cases negative <;> exact ⟨_, _, rfl, rfl, by decide⟩
    | finite negative m e =>
      obtain ⟨text, written, start⟩ := realText_start sound
      rw [write, written]
      exact starts_signed start negative
  | str t => exact ⟨_, _, rfl, rfl, by decide⟩
  | arr vs => cases vs <;> exact ⟨_, _, rfl, rfl, by decide⟩
  | obj ms => cases ms <;> exact ⟨_, _, rfl, rfl, by decide⟩

/-- What ends an item or a member: white space, and a comma or a closing bracket. -/
theorem ends_of_blank (blanks cs : List Char) (blank : ∀ c ∈ blanks, isSpace (.char c) = true) {c : Char}
    (closes : c = ',' ∨ c = ']' ∨ c = '\x7d') : Ends ((blanks ++ c :: cs).map .char ++ rest) := by
  intro l here
  cases blanks with
  | nil =>
    obtain rfl := Option.some.inj here
    rcases closes with rfl | rfl | rfl <;> decide
  | cons b blanks =>
    obtain rfl := Option.some.inj here
    have space := blank b List.mem_cons_self
    simp only [isSpace, Bool.or_eq_true, beq_iff_eq] at space
    rcases space with ((h | h) | h) | h <;> rw [h] <;> decide

/-- What follows the first item of an array. -/
def itemsTail (style : Style) (depth : Nat) (vs : List Json) (rest : List Letter) : List Letter :=
  (writeItems style depth vs ++ style.beforeClosing depth ++ [']']).map .char ++ rest

/-- What follows the first member of an object. -/
def membersTail (style : Style) (depth : Nat) (ms : Members) (rest : List Letter) : List Letter :=
  (writeMembers style depth ms ++ style.beforeClosing depth ++ ['\x7d']).map .char ++ rest

theorem itemsTail_ends (blank : style.Blank) (depth : Nat) (vs : List Json) : Ends (itemsTail style depth vs rest) := by
  unfold itemsTail
  cases vs with
  | nil => exact ends_of_blank _ [] (blank.beforeClosing depth) (Or.inr (Or.inl rfl))
  | cons v vs => exact ends_of_blank [] _ (by simp) (Or.inl rfl)

theorem membersTail_ends (blank : style.Blank) (depth : Nat) (ms : Members) :
    Ends (membersTail style depth ms rest) := by
  unfold membersTail
  cases ms with
  | nil => exact ends_of_blank _ [] (blank.beforeClosing depth) (Or.inr (Or.inr rfl))
  | cons m ms => exact ends_of_blank [] _ (by simp) (Or.inl rfl)

theorem skip_write (style : Style) (depth : Nat) {v : Json} (sound : v.Sound) (tail : List Letter) :
    skip ((write style depth v).map .char ++ tail) = (write style depth v).map .char ++ tail := by
  obtain ⟨c, cs, start, token, -⟩ := write_starts style depth v sound
  rw [start]
  exact skip_start token _

theorem skip_space {depth : Nat} {v : Json} (sound : v.Sound) (tail : List Letter) :
    skip (.char ' ' :: ((write style depth v).map .char ++ tail)) = (write style depth v).map .char ++ tail := by
  have space : ∀ c ∈ [' '], isSpace (.char c) = true := by simp [isSpace]
  exact (skip_blank space _).trans (skip_write style depth sound tail)

theorem write_pos (style : Style) (depth : Nat) {v : Json} (sound : v.Sound) : 0 < (write style depth v).length := by
  obtain ⟨c, cs, start, -⟩ := write_starts style depth v sound
  rw [start]
  exact Nat.succ_pos _

/-- An array: a bracket, white space, the first item, and the tail that the other items are in. -/
theorem write_array (style : Style) (depth : Nat) (v : Json) (vs : List Json) (rest : List Letter) :
    (write style depth (.arr (v :: vs))).map Letter.char ++ rest =
      .char '[' :: ((style.afterOpening depth).map .char ++ ((write style (depth + 1) v).map .char ++
        itemsTail style depth vs rest)) := by
  simp [write, itemsTail]

theorem length_write_array (style : Style) (depth : Nat) (v : Json) (vs : List Json) :
    (write style (depth + 1) v).length + (writeItems style depth vs).length + 2 ≤
      (write style depth (.arr (v :: vs))).length := by
  simp [write]
  omega

/-- An object: a bracket, white space, the first member, and the tail that the other members are in. -/
theorem write_object (style : Style) (depth : Nat) (k : Text) (v : Json) (ms : Members) (rest : List Letter) :
    (write style depth (.obj ((k, v) :: ms))).map Letter.char ++ rest =
      .char '\x7b' :: ((style.afterOpening depth).map .char ++ ((stringText k).map .char ++ .char ':' ::
        .char ' ' :: ((write style (depth + 1) v).map .char ++ membersTail style depth ms rest))) := by
  simp [write, membersTail]

theorem length_write_object (style : Style) (depth : Nat) (k : Text) (v : Json) (ms : Members) :
    (write style (depth + 1) v).length + (writeMembers style depth ms).length + 2 ≤
      (write style depth (.obj ((k, v) :: ms))).length := by
  simp [write]
  omega

/-- The tail of an array ends it, or goes on with an item. -/
theorem skip_itemsTail (blank : style.Blank) (depth : Nat) (rest : List Letter) :
    skip (itemsTail style depth [] rest) = .char ']' :: rest ∧
      ∀ v vs, skip (itemsTail style depth (v :: vs) rest) = .char ',' :: ((style.afterComma depth).map .char ++
        ((write style (depth + 1) v).map .char ++ itemsTail style depth vs rest)) := by
  constructor
  · simp only [itemsTail, writeItems, List.nil_append, List.map_append, List.append_assoc]
    rw [skip_blank (blank.beforeClosing depth)]
    exact skip_start rfl _
  · intro v vs
    simp only [itemsTail, writeItems, List.map_append, List.map_cons, List.append_assoc, List.cons_append]
    exact skip_start rfl _

/-- The tail of an object ends it, or goes on with a member. -/
theorem skip_membersTail (blank : style.Blank) (depth : Nat) (rest : List Letter) :
    skip (membersTail style depth [] rest) = .char '\x7d' :: rest ∧
      ∀ k v ms, skip (membersTail style depth ((k, v) :: ms) rest) = .char ',' ::
        ((style.afterComma depth).map .char ++ ((stringText k).map .char ++ .char ':' :: .char ' ' ::
          ((write style (depth + 1) v).map .char ++ membersTail style depth ms rest))) := by
  constructor
  · simp only [membersTail, writeMembers, List.nil_append, List.map_append, List.append_assoc]
    rw [skip_blank (blank.beforeClosing depth)]
    exact skip_start rfl _
  · intro k v ms
    simp only [membersTail, writeMembers, List.map_append, List.map_cons, List.append_assoc, List.cons_append]
    exact skip_start rfl _

theorem length_writeItems (style : Style) (depth : Nat) (v : Json) (vs : List Json) :
    (write style (depth + 1) v).length + (writeItems style depth vs).length + 1 ≤
      (writeItems style depth (v :: vs)).length := by
  simp [writeItems]

theorem length_writeMembers (style : Style) (depth : Nat) (k : Text) (v : Json) (ms : Members) :
    (write style (depth + 1) v).length + (writeMembers style depth ms).length + 1 ≤
      (writeMembers style depth ((k, v) :: ms)).length := by
  simp [writeMembers]
  omega

mutual

/-- **A value that was written** is read back, with what follows it left over. A step is used up for a value and one
for its place in an array or an object; both have a character of their own, so two steps for each character are enough.
-/
theorem value_write (blank : style.Blank) :
    ∀ (v : Json) (depth n : Nat) (rest : List Letter), v.Sound → Ends rest →
      2 * (write style depth v).length ≤ n →
      value n ((write style depth v).map .char ++ rest) = .ok (v.reread, rest)
  | .null, _, n + 1, rest, _, _, _ => by rw [value.eq_def]; rfl
  | .bool true, _, n + 1, rest, _, _, _ => by rw [value.eq_def]; rfl
  | .bool false, _, n + 1, rest, _, _, _ => by rw [value.eq_def]; rfl
  | .int m, depth, 0, rest, few, _, fuel => by
    have some_char := write_pos style depth (v := .int m) few
    omega
  | .int m, _, n + 1, rest, few, ends, _ => value_int m n few ends
  | .real x, depth, 0, rest, canonical, _, fuel => by
    have some_char := write_pos style depth (v := .real x) canonical
    omega
  | .real x, _, n + 1, rest, canonical, ends, _ => value_real x n canonical ends
  | .str t, _, n + 1, rest, _, _, _ => value_text t n
  | .arr [], _, n + 1, rest, _, _, _ => by rw [value.eq_def]; rfl
  | .arr (v :: vs), depth, n + 2, rest, ⟨sound, sounds⟩, ends, fuel => by
    have length := length_write_array style depth v vs
    have first := value_write blank v (depth + 1) n (itemsTail style depth vs rest) sound
      (itemsTail_ends blank depth vs) (by omega)
    have all := items_write blank vs depth n rest _ v.reread sounds (by omega) first
    -- the first item does not look like the end of an array
    obtain ⟨c, cs, start, token, other, -⟩ := write_starts style (depth + 1) v sound
    have inside : skip ((style.afterOpening depth).map .char ++ ((write style (depth + 1) v).map .char ++
        itemsTail style depth vs rest)) = .char c :: (cs.map .char ++ itemsTail style depth vs rest) := by
      rw [skip_blank (blank.afterOpening depth), skip_write style _ sound, start]
      rfl
    rw [start] at all
    rw [write_array, value_array inside (by simpa using other)]
    exact congrArg (Except.map _) all
  | .obj [], _, n + 1, rest, _, _, _ => by rw [value.eq_def]; rfl
  | .obj ((k, v) :: ms), depth, n + 2, rest, ⟨_, sound, sounds⟩, ends, fuel => by
    have length := length_write_object style depth k v ms
    have first := value_write blank v (depth + 1) n (membersTail style depth ms rest) sound
      (membersTail_ends blank depth ms) (by omega)
    have all := members_write blank ms depth n rest _ k v.reread sounds (by omega) (skip_space sound _ ▸ first)
    rw [write_object, value_object (by rw [skip_blank (blank.afterOpening depth), skip_stringText])]
    exact congrArg (Except.map _) all

/-- The items after the first, behind it. -/
theorem items_write (blank : style.Blank) :
    ∀ (vs : List Json) (depth n : Nat) (rest s : List Letter) (first : Json), SoundItems vs →
      2 * (writeItems style depth vs).length ≤ n →
      value n s = .ok (first, itemsTail style depth vs rest) →
      items (n + 1) s = .ok (first :: rereadItems vs, rest)
  | [], depth, n, rest, s, first, _, _, read => by
    rw [items, read]
    simp only [(skip_itemsTail blank depth rest).1]
    rfl
  | v :: vs, depth, n + 1, rest, s, first, ⟨sound, sounds⟩, fuel, read => by
    have length := length_writeItems style depth v vs
    have next := value_write blank v (depth + 1) n (itemsTail style depth vs rest) sound
      (itemsTail_ends blank depth vs) (by omega)
    have all := items_write blank vs depth n rest _ v.reread sounds (by omega) next
    have comma := (skip_itemsTail blank depth rest).2 v vs
    rw [items, read]
    simp only [comma, skip_blank (blank.afterComma depth), skip_write style _ sound, all]
    rfl

/-- The members after the first, behind it. -/
theorem members_write (blank : style.Blank) :
    ∀ (ms : Members) (depth n : Nat) (rest s : List Letter) (k : Text) (first : Json), SoundMembers ms →
      2 * (writeMembers style depth ms).length ≤ n →
      value n (skip s) = .ok (first, membersTail style depth ms rest) →
      members (n + 1) ((stringText k).map .char ++ .char ':' :: s) =
        .ok ((k.rejoined, first) :: rereadMembers ms, rest)
  | [], depth, n, rest, s, k, first, _, _, read => by
    have colon : skip (.char ':' :: s) = .char ':' :: s := skip_start rfl s
    rw [stringText_map, members]
    simp only [Text.quotedText_write, colon, read, (skip_membersTail blank depth rest).1]
    rfl
  | (l, v) :: ms, depth, n + 1, rest, s, k, first, ⟨sound, sounds⟩, fuel, read => by
    have length := length_writeMembers style depth l v ms
    have next := value_write blank v (depth + 1) n (membersTail style depth ms rest) sound
      (membersTail_ends blank depth ms) (by omega)
    have all := members_write blank ms depth n rest _ l v.reread sounds (by omega) (skip_space sound _ ▸ next)
    have comma := (skip_membersTail blank depth rest).2 l v ms
    have colon : skip (.char ':' :: s) = .char ':' :: s := skip_start rfl s
    rw [stringText_map, members]
    simp only [Text.quotedText_write, colon, read, comma, skip_blank (blank.afterComma depth), skip_stringText, all]
    rfl

end

end

/-! ## Whole texts -/

/-- **A text that is a value that was written** is read back. -/
theorem parse_write {style : Style} (blank : style.Blank) {v : Json} (sound : v.Sound) :
    parse (String.ofList (write style 1 v)) = .ok v.reread := by
  have letters : (Text.ofString (String.ofList (write style 1 v))).letters = (write style 1 v).map .char := by
    rw [Text.ofString, String.toList_ofList, Text.ofList]
  have bare : skip ((write style 1 v).map .char) = (write style 1 v).map .char := by
    simpa using skip_write style 1 sound []
  have fuel : 2 * (write style 1 v).length ≤ depthBound ((write style 1 v).map .char) := by
    rw [depthBound, List.length_map]
    omega
  have nothing : Ends [] := fun l here => by cases here
  have value_read := value_write blank v 1 _ [] sound nothing fuel
  rw [List.append_nil] at value_read
  have read : readLetters ((write style 1 v).map .char) = .ok v.reread := by
    rw [readLetters, document, bare, value_read]
    rfl
  -- a text with a byte order mark is refused, but no value starts with one
  obtain ⟨c, cs, start, -, -, unmarked⟩ := write_starts style 1 v sound
  rw [parse, Json.read, letters]
  rw [start] at read ⊢
  simpa [unmarked] using read

/-- A value over several lines is read back. -/
theorem parse_indented {v : Json} (sound : v.Sound) : parse v.indented = .ok v.reread :=
  parse_write Style.indented_blank sound

/-- A value on one line is read back. -/
theorem parse_line {v : Json} (sound : v.Sound) : parse v.line = .ok v.reread :=
  parse_write Style.line_blank sound

/-! ## What comes back as it is -/

mutual

/-- No text in a value, and no name, has a first half of a surrogate pair followed by a second one. -/
def Whole : Json → Prop
  | str t => t.Whole
  | arr vs => WholeItems vs
  | obj ms => WholeMembers ms
  | _ => True

/-- The same of the items of an array. -/
def WholeItems : List Json → Prop
  | [] => True
  | v :: vs => v.Whole ∧ WholeItems vs

/-- The same of the members of an object. -/
def WholeMembers : Members → Prop
  | [] => True
  | (k, v) :: ms => k.Whole ∧ v.Whole ∧ WholeMembers ms

end

mutual

/-- **A value without such texts** comes back as it is. -/
theorem Whole.reread : ∀ {v : Json}, v.Whole → v.Sound → v.reread = v
  | .null, _, _ | .bool _, _, _ | .int _, _, _ | .real _, _, _ => rfl
  | .str _, whole, _ => congrArg str (Text.Whole.rejoined whole)
  | .arr _, whole, sound => congrArg arr (WholeItems.reread whole sound)
  | .obj ms, whole, ⟨nodup, sound⟩ => by
    rw [Json.reread, WholeMembers.reread whole sound, ofPairs_of_nodup nodup]

theorem WholeItems.reread : ∀ {vs : List Json}, WholeItems vs → SoundItems vs → rereadItems vs = vs
  | [], _, _ => rfl
  | v :: vs, ⟨whole, wholes⟩, ⟨sound, sounds⟩ => by
    rw [rereadItems, whole.reread sound, WholeItems.reread wholes sounds]

theorem WholeMembers.reread : ∀ {ms : Members}, WholeMembers ms → SoundMembers ms → rereadMembers ms = ms
  | [], _, _ => rfl
  | (k, v) :: ms, ⟨name, whole, wholes⟩, ⟨sound, sounds⟩ => by
    rw [rereadMembers, name.rejoined, whole.reread sound, WholeMembers.reread wholes sounds]

end

/-- All names of an object are strings. -/
def Labelled (ms : Members) : Prop := ∀ k ∈ ms.map Prod.fst, ∃ s : String, k = s

/-- An object whose names are strings comes back with the same names. -/
theorem reread_obj {ms : Members} (labelled : Labelled ms) (nodup : (ms.map Prod.fst).Nodup) :
    (obj ms).reread = obj (ms.map fun m => (m.1, m.2.reread)) := by
  have members : ∀ ms : Members, Labelled ms → rereadMembers ms = ms.map fun m => (m.1, m.2.reread) := by
    intro ms labelled
    induction ms with
    | nil => rfl
    | cons m ms ih =>
      obtain ⟨s, same⟩ := labelled m.1 List.mem_cons_self
      have name : m.1.rejoined = m.1 := by rw [same, Text.rejoined_ofString]
      show (m.1.rejoined, m.2.reread) :: rereadMembers ms = _
      rw [name, ih fun k here => labelled k (List.mem_cons_of_mem _ here)]
      rfl
  rw [reread, members ms labelled, ofPairs_of_nodup]
  rwa [List.map_map]

/-- A value is an object with a member of a name. -/
def Has (v : Json) (name : Text) : Prop := ∃ ms : Members, v = obj ms ∧ name ∈ ms.map Prod.fst

theorem has_obj {ms : Members} {name : Text} : (obj ms).Has name ↔ name ∈ ms.map Prod.fst := by
  refine ⟨?_, fun here => ⟨ms, rfl, here⟩⟩
  rintro ⟨_, same, here⟩
  rwa [Json.obj.inj same]

/-- The same names are there when an object is read back. -/
theorem has_reread {v : Json} (labelled : ∀ ms, v = obj ms → Labelled ms) (sound : v.Sound) {name : Text} :
    v.reread.Has name ↔ v.Has name := by
  cases v with
  | obj ms =>
    rw [reread_obj (labelled ms rfl) sound.1, has_obj, has_obj, List.map_map]
    rfl
  | _ =>
    constructor <;> rintro ⟨_, same, _⟩
    · simp [reread] at same
    · cases same

end Json

end Freebox
