import Freebox.Proofs.Channel.Action
import Freebox.Proofs.Tool.Answer

/-!
# `Freebox.Proofs.Tool.Written` — what is written reads back

Answers of tools are written over several lines, actions for a channel on one. Both are ASCII whatever they hold, and
both are read back as the values that were written, their members in the order that they had. Strings are texts of
characters, or of halves of characters that stand alone: two halves that belong together are written like the character
that they make, and come back as that.

## Contents
- `Ascii`, and how it follows the ways of putting texts together.
- `Json.write_ascii`: every value is written in ASCII.
- `Json.reread_eq_iff`: exactly which values come back as they are.
- `written_reads_back`: answers and actions. `halves_read_back_joined`: one that comes back as another value.
-/

namespace Freebox

/-! ## ASCII -/

/-- All characters are ASCII. -/
def Ascii (s : List Char) : Prop := ∀ c ∈ s, c.toNat < 0x80

section
variable {s t : List Char} {c : Char}

@[simp] theorem ascii_nil : Ascii [] := by simp [Ascii]

@[simp] theorem ascii_cons : Ascii (c :: s) ↔ c.toNat < 0x80 ∧ Ascii s := by simp [Ascii]

@[simp] theorem ascii_append : Ascii (s ++ t) ↔ Ascii s ∧ Ascii t := by simp [Ascii, or_imp, forall_and]

theorem Ascii.subset (h : Ascii t) (inside : s ⊆ t) : Ascii s := fun c here => h c (inside here)

end

/-! ## Texts -/

theorem ascii_hexPadded (width n : Nat) : Ascii (Quoted.hexPadded width n) := by
  have digit : ∀ k < 16, (Bytes.hexDigit k).toNat < 0x80 := by decide
  induction width generalizing n with
  | zero => exact ascii_nil
  | succ width ih => simp [Quoted.hexPadded, ih, digit (n % 16) (Nat.mod_lt n (by decide))]

namespace Json

theorem codeText_ascii (n : Nat) : Ascii (codeText n) := by simp [codeText, ascii_hexPadded]

/-- Characters beyond ASCII are written by their codes. -/
theorem charText_ascii (c : Char) : Ascii (charText c) := by
  unfold charText
  split_ifs with quote solidus feed carriage tab form back plain narrow
  all_goals simp [codeText_ascii]
  -- what is left is a character that is written as it is
  omega

theorem letterText_ascii (l : Letter) : Ascii (letterText l) := by
  cases l with
  | char c => exact charText_ascii c
  | half n => exact codeText_ascii _

theorem stringText_ascii (t : Text) : Ascii (stringText t) := by
  have letters : Ascii (t.letters.flatMap letterText) := by
    intro c here
    obtain ⟨l, -, inside⟩ := List.mem_flatMap.mp here
    exact letterText_ascii l c inside
  simp [stringText, letters]

end Json

/-! ## Numbers -/

theorem ascii_toDigits (n : Nat) : Ascii (Nat.toDigits 10 n) := by
  intro c here
  have digit := Char.isDigit_iff_toNat.mp (Nat.isDigit_of_mem_toDigits (by decide) (by decide) here)
  exact Nat.lt_of_le_of_lt digit.2 (by decide)

theorem Whole.write_ascii (n : Int) : Ascii (write n) := by
  unfold write
  split <;> simp [ascii_toDigits]

namespace Binary64

theorem digits_ascii (m : Nat) (e : Int) : Ascii (Shortest.digits m e).1 := by
  have kept {ds : List Char} (h : Ascii ds) : Ascii (ds.reverse.dropWhile (· == '0')).reverse :=
    h.subset fun c here => List.mem_reverse.mp ((List.dropWhile_sublist _).subset (List.mem_reverse.mp here))
  exact kept (ascii_toDigits _)

theorem replicate_ascii (n : Nat) : Ascii (List.replicate n '0') := by
  intro c here
  rw [List.eq_of_mem_replicate here]
  decide

section
variable {ds : List Char} (digits : Ascii ds)
include digits

theorem positional_ascii (point : Int) : Ascii (positional ds point) := by
  have before : Ascii (ds.take point.toNat) := digits.subset (List.take_subset _ _)
  have behind : Ascii (ds.drop point.toNat) := digits.subset (List.drop_subset _ _)
  unfold positional
  dsimp only
  split_ifs <;> simp [digits, replicate_ascii, before, behind]

theorem scientific_ascii (power : Int) : Ascii (scientific ds power) := by
  have before : Ascii (ds.take 1) := digits.subset (List.take_subset _ _)
  have behind : Ascii ds.tail := digits.subset (List.tail_subset _)
  have exponent : Ascii (exponentDigits power.natAbs) := by
    unfold exponentDigits
    split <;> simp [ascii_toDigits]
  unfold scientific
  dsimp only
  split_ifs <;> simp [before, behind, exponent]

end

theorem text_ascii (x : Binary64) : Ascii x.text := by
  cases x with
  | nan => simp [text]
  | infinite negative => cases negative <;> simp [text]
  | finite negative m e =>
    have positive : Ascii (positiveText m e) := by
      unfold positiveText
      dsimp only
      split
      · exact positional_ascii (digits_ascii m e) _
      · exact scientific_ascii (digits_ascii m e) _
    unfold text
    dsimp only
    split_ifs <;> simp [positive]

end Binary64

/-! ## Values -/

namespace Json

theorem realText_ascii (x : Binary64) : Ascii (realText x) := by
  cases x with
  | nan => simp [realText]
  | infinite negative => cases negative <;> simp [realText]
  | finite negative m e => exact Binary64.text_ascii (.finite negative m e)

/-- White space is ASCII. -/
theorem ascii_of_blank {blanks : List Char} (blank : ∀ c ∈ blanks, isSpace (.char c) = true) : Ascii blanks := by
  intro c here
  have space := blank c here
  simp only [isSpace, Bool.or_eq_true, beq_iff_eq, Letter.char.injEq] at space
  rcases space with ((rfl | rfl) | rfl) | rfl <;> decide

section
variable {style : Style} (blank : style.Blank)
include blank

theorem blank_ascii (depth : Nat) :
    Ascii (style.afterOpening depth) ∧ Ascii (style.afterComma depth) ∧ Ascii (style.beforeClosing depth) :=
  ⟨ascii_of_blank (blank.afterOpening depth), ascii_of_blank (blank.afterComma depth),
    ascii_of_blank (blank.beforeClosing depth)⟩

mutual

/-- **Every value is written in ASCII**, whatever characters are in its texts. -/
theorem write_ascii : ∀ (v : Json) (depth : Nat), Ascii (write style depth v)
  | .null, _ => by simp [write]
  | .bool b, _ => by cases b <;> simp [write]
  | .int n, _ => Whole.write_ascii n
  | .real x, _ => realText_ascii x
  | .str t, _ => stringText_ascii t
  | .arr [], _ => by simp [write]
  | .arr (v :: vs), depth => by
    obtain ⟨opening, -, closing⟩ := blank_ascii blank depth
    simp [write, opening, closing, write_ascii v (depth + 1), writeItems_ascii vs depth]
  | .obj [], _ => by simp [write]
  | .obj ((k, v) :: ms), depth => by
    obtain ⟨opening, -, closing⟩ := blank_ascii blank depth
    simp [write, opening, closing, stringText_ascii k, write_ascii v (depth + 1), writeMembers_ascii ms depth]

theorem writeItems_ascii : ∀ (vs : List Json) (depth : Nat), Ascii (writeItems style depth vs)
  | [], _ => by simp [writeItems]
  | v :: vs, depth => by
    obtain ⟨-, comma, -⟩ := blank_ascii blank depth
    simp [writeItems, comma, write_ascii v (depth + 1), writeItems_ascii vs depth]

theorem writeMembers_ascii : ∀ (ms : Members) (depth : Nat), Ascii (writeMembers style depth ms)
  | [], _ => by simp [writeMembers]
  | (k, v) :: ms, depth => by
    obtain ⟨-, comma, -⟩ := blank_ascii blank depth
    simp [writeMembers, comma, stringText_ascii k, write_ascii v (depth + 1), writeMembers_ascii ms depth]

end

end

end Json

/-! ## What comes back as it is -/

namespace Json

theorem prependCode_length (n : Nat) (follows : Bool) (ls : List Letter) :
    (prependCode n follows ls).length ≤ ls.length + 1 := by
  unfold prependCode
  cases ls with
  | nil => simp
  | cons l rest => dsimp only; split <;> simp

/-- Reading back makes no text longer. -/
theorem rejoin_length (ls : List Letter) : (rejoin ls).length ≤ ls.length := by
  induction ls with
  | nil => exact Nat.le_refl 0
  | cons l ls ih => exact (prependCode_length _ _ _).trans (Nat.succ_le_succ ih)

/-- If no letter is lost, nothing was joined. -/
theorem chain_of_rejoin {ls : List Letter} (same : rejoin ls = ls) :
    ls.IsChain fun l m => ¬ (Wide.isHigh l.code = true ∧ Wide.isLow m.code = true) := by
  induction ls with
  | nil => exact .nil
  | cons l ls ih =>
    have shorter := rejoin_length ls
    rw [rejoin] at same
    cases joined : rejoin ls with
    | nil =>
      rw [joined] at same
      obtain ⟨-, rfl⟩ := List.cons.inj same
      exact .singleton l
    | cons m rest =>
      rw [joined, prependCode] at same
      rw [joined] at shorter
      by_cases pair : (true && Wide.isHigh l.code && Wide.isLow m.code) = true
      · -- a pair would be one letter, and there is none to make up for it
        rw [if_pos pair] at same
        obtain ⟨-, rfl⟩ := List.cons.inj same
        exact absurd shorter (Nat.not_succ_le_self _)
      · rw [if_neg pair] at same
        obtain ⟨-, rfl⟩ := List.cons.inj same
        exact List.isChain_cons_cons.mpr ⟨by simpa using pair, ih joined⟩

end Json

/-- **Exactly which texts come back as they are**: those without a first half followed by a second one. -/
theorem Text.rejoined_eq_iff {t : Text} : t.rejoined = t ↔ t.Whole :=
  ⟨fun same => Json.chain_of_rejoin (congrArg Text.letters same), Whole.rejoined⟩

namespace Json

theorem ofPairs_names_subset (pairs : Members) : (ofPairs pairs).map Prod.fst ⊆ pairs.map Prod.fst := by
  have all : ∀ pairs ms : Members, ∀ k ∈ (pairs.foldl (fun ms m => Members.set ms m.1 m.2) ms).map Prod.fst,
      k ∈ ms.map Prod.fst ∨ k ∈ pairs.map Prod.fst := by
    intro pairs
    induction pairs with
    | nil => exact fun ms k here => Or.inl here
    | cons m pairs ih =>
      intro ms k here
      rw [List.map_cons, List.mem_cons]
      rcases ih _ k here with early | late
      · rw [Members.set_names] at early
        split at early
        · exact Or.inl early
        · rcases List.mem_append.mp early with there | new
          · exact Or.inl there
          · exact Or.inr (Or.inl (List.mem_singleton.mp new))
      · exact Or.inr (Or.inr late)
  exact fun k here => (all pairs [] k here).resolve_left (by simp)

/-- If no member is lost, the names were different. -/
theorem ofPairs_eq_of_length {pairs : Members} (same : (ofPairs pairs).length = pairs.length) :
    ofPairs pairs = pairs := by
  refine ofPairs_of_nodup ?_
  have inside := (ofPairs_nodup pairs).subperm (ofPairs_names_subset pairs)
  have all := inside.perm_of_length_le (by simp [same])
  exact all.nodup (ofPairs_nodup pairs)

theorem rereadMembers_length (ms : Members) : (rereadMembers ms).length = ms.length := by
  induction ms with
  | nil => rfl
  | cons m ms ih => exact congrArg Nat.succ ih

mutual

theorem whole_of_reread : ∀ {v : Json}, v.reread = v → v.Whole
  | .null, _ | .bool _, _ | .int _, _ | .real _, _ => trivial
  | .str _, same => Text.rejoined_eq_iff.mp (Json.str.inj same)
  | .arr _, same => wholeItems_of_reread (Json.arr.inj same)
  | .obj ms, same => by
    have members : ofPairs (rereadMembers ms) = ms := Json.obj.inj same
    -- as many members come back, so no two names have become one
    have kept : ofPairs (rereadMembers ms) = rereadMembers ms := by
      apply ofPairs_eq_of_length
      rw [members, rereadMembers_length]
    exact wholeMembers_of_reread (kept.symm.trans members)

theorem wholeItems_of_reread : ∀ {vs : List Json}, rereadItems vs = vs → WholeItems vs
  | [], _ => trivial
  | _ :: _, same => ⟨whole_of_reread (List.cons.inj same).1, wholeItems_of_reread (List.cons.inj same).2⟩

theorem wholeMembers_of_reread : ∀ {ms : Members}, rereadMembers ms = ms → WholeMembers ms
  | [], _ => trivial
  | (k, v) :: ms, same => by
    obtain ⟨first, rest⟩ := List.cons.inj same
    obtain ⟨name, value⟩ := Prod.mk.inj first
    exact ⟨Text.rejoined_eq_iff.mp name, whole_of_reread value, wholeMembers_of_reread rest⟩

end

/-- **Exactly which values come back as they are**: those in whose texts and names no first half of a surrogate pair is
followed by a second one. -/
theorem reread_eq_iff {v : Json} (sound : v.Sound) : v.reread = v ↔ v.Whole :=
  ⟨whole_of_reread, fun whole => whole.reread sound⟩

end Json

/-! ## Answers and actions -/

/-- The text of an answer is ASCII, and read back as the result that it was written for. -/
theorem answerText_reads_back {v : Json} (sound : v.Sound) (whole : v.Whole) :
    Ascii (answerText (.ok v)).toList ∧ Json.parse (answerText (.ok v)) = .ok v := by
  have ascii := Json.write_ascii Json.Style.indented_blank v 1
  have read := Json.parse_indented sound
  rw [whole.reread sound] at read
  exact ⟨by rwa [answerText, Json.indented, String.toList_ofList], read⟩

/-- The message that an action is sent in is ASCII, and decoded as that action. -/
theorem line_decoded {action : Members} (sound : (Json.obj action).Sound) (whole : (Json.obj action).Whole) :
    Ascii (Json.obj action).line.toList ∧ Channel.decodeMessage (.text (Json.obj action).line) = .ok action := by
  have ascii := Json.write_ascii Json.Style.line_blank (.obj action) 1
  have read : Json.read (.text (Json.obj action).line) = .ok (Json.obj action).reread := Json.parse_line sound
  rw [whole.reread sound] at read
  exact ⟨by rwa [Json.line, String.toList_ofList], by rw [Channel.decodeMessage, read]⟩

/-- **What is written reads back.** Take any value whose integers have no more digits than are converted, whose doubles
are in their one form, whose objects have different names, and whose strings have no half of a character before its
other half. A tool that comes to it is answered by a text that is ASCII and is read back as the value, the members of
objects in their order. If it is an object, then sending it as an action hands over one message, which is ASCII as well
and is decoded as the object. -/
theorem written_reads_back (v : Json) (sound : v.Sound) (whole : v.Whole) :
    Ascii (answerText (.ok v)).toList ∧ Json.parse (answerText (.ok v)) = .ok v ∧
      (∀ (name : String) (arguments : Option Members) (s : State), (runTool name (arguments.getD []) s).1 = .ok v →
        (callTool name arguments s).1 = .ok (answerText (.ok v))) ∧
      ∀ (action : Members) (c : Logged Channel), v = .obj action →
        ∃ message delivered,
          (Channel.sendAction action c).2.log = c.log ++ [.send c.value.number (.text message) delivered] ∧
            Ascii message.toList ∧ Channel.decodeMessage (.text message) = .ok action := by
  obtain ⟨ascii, read⟩ := answerText_reads_back sound whole
  refine ⟨ascii, read, fun name arguments s result => ?answer, fun action c object => ?action⟩
  case answer => rw [callTool_apply, result]
  case action =>
    subst object
    obtain ⟨plain, decoded⟩ := line_decoded sound whole
    refine ⟨(Json.obj action).line, (c.value.failures.lookup (c.value.sends + 1)).isNone, ?_, plain, decoded⟩
    rw [Channel.sendAction_state]
    rfl

/-- An object with nested values, a name with a line break, characters of one, two and four octets, and a half of a
character that stands alone. -/
theorem nested_reads_back :
    let action : Members := [("line\nbreak", .arr [.int (-7), .null, .arr [], .bool true, .str "\"é😀"]),
      ("half", .obj [("", .str ⟨[.half 0x3D, .char 'x']⟩)])]
    let v := Json.obj action
    v.Sound ∧ v.Whole ∧ Ascii (answerText (.ok v)).toList ∧ Json.parse (answerText (.ok v)) = .ok v ∧
      ∃ message delivered,
        (Channel.sendAction action ⟨⟨0, [], [], 0⟩, []⟩).2.log = [.send 0 (.text message) delivered] ∧
          Channel.decodeMessage (.text message) = .ok action := by
  intro action v
  have sound : v.Sound := by
    have few : (Nat.toDigits 10 7).length ≤ Whole.maxDigits := by decide
    exact ⟨by decide, ⟨few, trivial, trivial, trivial, trivial, trivial⟩, ⟨by decide, trivial, trivial⟩, trivial⟩
  have whole : v.Whole := by
    have alone : Text.Whole ⟨[.half 0x3D, .char 'x']⟩ := List.isChain_cons_cons.mpr ⟨by decide, .singleton _⟩
    exact ⟨Text.whole_ofString _, ⟨trivial, trivial, trivial, trivial, Text.whole_ofString _, trivial⟩,
      Text.whole_ofString _, ⟨Text.whole_ofString _, alone, trivial⟩, trivial⟩
  obtain ⟨ascii, read, -, sent⟩ := written_reads_back v sound whole
  obtain ⟨message, delivered, log, -, decoded⟩ := sent action ⟨⟨0, [], [], 0⟩, []⟩ rfl
  exact ⟨sound, whole, ascii, read, message, delivered, log, decoded⟩

/-- **Two halves that come back as one character.** A rule whose comment is two halves that belong together, each a
letter of its own: so does a client read octets that encode them one by one. What the tool answers with and what an
action with that comment is sent as name both codes, and are read back with the character that these make. -/
theorem halves_read_back_joined :
    let client : Client := { Client.create "http://fbx.test" "v8" (some "app") (some "secret") (.int 10) true with
      session := some ⟨"token", ⟨0⟩⟩ }
    let body := Utf8.encode "\x7b\"success\": true, \"result\": [\x7b\"id\": 1, \"comment\": \"".toList
      ++ [0xED, 0xA0, 0xBD, 0xED, 0xB8, 0x80] ++ Utf8.encode "\"\x7d]\x7d".toList
    let peer : Peer := ⟨fun _ _ => .received ⟨200, [], [body], none⟩, fun _ => .refused .closedNormally⟩
    let s : State := { client, network := { peer, now := ⟨0⟩ } }
    let rule (comment : Text) : Members :=
      [("id", .int 1), ("enabled", .bool false), ("comment", .str comment), ("valid", .bool false)]
    let halves : Text := ⟨[.half 0x3D, .half 0x600]⟩
    let v : Json := .arr [.obj (rule halves)]
    v.Sound ∧ (runTool "list_port_forwarding" [] s).1.toOption = some v ∧
      (callTool "list_port_forwarding" none s).1 = .ok (answerText (.ok v)) ∧
      Json.parse (answerText (.ok v)) = .ok (.arr [.obj (rule "😀")]) ∧
      (∃ message, (Channel.sendAction (rule halves) ⟨⟨0, [], [], 0⟩, []⟩).2.log = [.send 0 (.text message) true] ∧
        Channel.decodeMessage (.text message) = .ok (rule "😀")) ∧
      rule "😀" ≠ rule halves := by
  intro client body peer s rule halves v
  have one : (Json.obj (rule halves)).Sound := by
    have few : (Nat.toDigits 10 1).length ≤ Whole.maxDigits := by decide
    exact ⟨by decide, few, trivial, trivial, trivial, trivial⟩
  have sound : v.Sound := ⟨one, trivial⟩
  have joined : (Json.obj (rule halves)).reread = .obj (rule "😀") := by decide +kernel
  have answer : v.reread = .arr [.obj (rule "😀")] := by rw [Json.reread, Json.rereadItems, joined, Json.rereadItems]
  have told : (runTool "list_port_forwarding" [] s).1.toOption = some v := by decide +kernel
  have read : Json.parse (answerText (.ok v)) = .ok v.reread := Json.parse_indented sound
  have decoded : Json.read (.text (Json.obj (rule halves)).line) = .ok (Json.obj (rule halves)).reread :=
    Json.parse_line one
  refine ⟨sound, told, ?answered, by rw [read, answer], ⟨(Json.obj (rule halves)).line, rfl, ?_⟩, by decide⟩
  case answered =>
    have result : (runTool "list_port_forwarding" [] s).1 = .ok v := Attempt.ok_of_toOption told
    rw [callTool_apply, Option.getD, result]
  · rw [Channel.decodeMessage, decoded, joined]

end Freebox
