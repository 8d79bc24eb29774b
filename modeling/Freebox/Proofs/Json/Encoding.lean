import Freebox.Channel
import Freebox.Proofs.Attempt.Guarantee
import Freebox.Proofs.Text.Utf8

/-!
# `Freebox.Proofs.Json.Encoding` — texts and their octets are read alike

What is received comes as a text or as octets, and the octets of a text are those of its UTF-8. Which encoding octets
are in is told by a mark, or guessed from the first four of them. The octets of a text without NUL are never nought,
and never those of a mark of UTF-16 or UTF-32; they start with the mark of UTF-8 only if the text starts with it. So
they are taken for what they are, and come back as the letters of the text. All that is told by letters, places of
errors among it, is the same.

## Contents
- `Utf8.encodeNat_octets`, `Utf8.mark_front`: the octets of characters, and those of a mark.
- `Utf8.decodePassing_encode`, `Utf8.decodeLossy_encode`: they are read back by every reading.
- `Json.detect_encode`, `Json.read_encode`: what they are taken for, and what is read from them.
- `octets_read_alike`: envelopes and messages.
-/

namespace Freebox

/-! ## Octets of characters -/

namespace Utf8

/-- No octet of a character is above those that start four, and none is nought unless the character is NUL. -/
theorem encodeNat_octets {c : Char} (some_code : c ≠ '\x00') :
    ∀ b ∈ encodeNat c.toNat, b.toNat ≠ 0 ∧ b.toNat < 0xF8 := by
  have high := (toNat_bounds c).1
  have positive : c.toNat ≠ 0 := fun nought => some_code (by rw [← Char.ofNat_toNat c, nought])
  have octet {n : Nat} (low : n ≠ 0) (bound : n < 0xF8) :
      (UInt8.ofNat n).toNat ≠ 0 ∧ (UInt8.ofNat n).toNat < 0xF8 := by
    rw [toNat_octet (by omega)]
    exact ⟨low, bound⟩
  unfold encodeNat
  split
  · simpa using octet positive (by omega)
  split
  · simp only [List.forall_mem_cons]
    exact ⟨octet (by omega) (by omega), octet (by omega) (by omega), by simp⟩
  split
  · simp only [List.forall_mem_cons]
    exact ⟨octet (by omega) (by omega), octet (by omega) (by omega), octet (by omega) (by omega), by simp⟩
  · simp only [List.forall_mem_cons]
    exact ⟨octet (by omega) (by omega), octet (by omega) (by omega), octet (by omega) (by omega),
      octet (by omega) (by omega), by simp⟩

theorem encode_octets {cs : List Char} (clean : '\x00' ∉ cs) : ∀ b ∈ encode cs, b.toNat ≠ 0 ∧ b.toNat < 0xF8 := by
  intro b here
  obtain ⟨c, among, octet⟩ := List.mem_flatMap.mp here
  refine encodeNat_octets ?_ b octet
  rintro rfl
  exact clean among

/-- Octets that start with a mark are those of characters that start with it. -/
theorem mark_front {cs : List Char} {rest : Bytes} (front : encode cs = 0xEF :: 0xBB :: 0xBF :: rest) :
    cs.head? = some '\uFEFF' := by
  have mark : (0xEF :: 0xBB :: 0xBF :: rest : Bytes) = encodeNat '\uFEFF'.toNat ++ rest := rfl
  have cut := pieces_encode cs
  rw [front, mark, pieces_encodeNat] at cut
  obtain ⟨c, ds, rfl, same, -⟩ := List.map_eq_cons_iff.mp cut.symm
  rw [List.head?_cons, Piece.char.inj same]

/-! ## Reading them back -/

/-- Where no piece is bad, no half of a surrogate pair is looked for. -/
theorem collectPassing_map_char (whole : Bytes) (cs : List Char) (start : Nat) :
    collectPassing whole start (cs.map .char) = .ok (cs.map .char) := by
  induction cs generalizing start with
  | nil => rfl
  | cons c cs ih =>
    rw [List.map_cons, collectPassing, ih]
    rfl

/-- **What was written** is read back where halves pass. -/
theorem decodePassing_encode (cs : List Char) : decodePassing (encode cs) = .ok (cs.map .char) := by
  unfold decodePassing
  rw [pieces_encode]
  exact collectPassing_map_char _ cs 0

/-- **What was written** is read back leniently, with nothing replaced. -/
theorem decodeLossy_encode (cs : List Char) : decodeLossy (encode cs) = cs := by
  unfold decodeLossy
  rw [pieces_encode, List.map_map]
  exact List.map_id cs

/-- The octets of a string of the language. -/
theorem toUTF8_eq (s : String) : s.toUTF8.data.toList = encode s.toList := by
  have octets : s.toUTF8 = (encode s.toList).toByteArray := by
    rw [← utf8Encode_eq, String.utf8Encode_toList]
    rfl
  rw [octets, List.data_toByteArray, List.toList_toArray]

end Utf8

/-! ## Reading JSON -/

namespace Json

/-- Octets without a mark are taken for UTF-8 if none of them is nought. -/
theorem guess_utf8 {bs : Bytes} (present : ∀ b ∈ bs, b ≠ 0) : guess bs = .utf8 := by
  unfold guess
  split
  · rw [if_neg (present _ (by simp)), if_neg (present _ (by simp))]
  · rw [if_neg (present _ (by simp)), if_neg (present _ (by simp))]
  · rfl

/-- Octets are taken for UTF-8 if they start with no mark and none of them is nought. -/
theorem detect_utf8 {bs : Bytes} (plain : ∀ b ∈ bs, b.toNat ≠ 0 ∧ b.toNat < 0xF8)
    (unmarked : ∀ rest, bs ≠ 0xEF :: 0xBB :: 0xBF :: rest) : detect bs = (.utf8, 0) := by
  have present : ∀ b ∈ bs, b ≠ 0 := fun b here nought => (plain b here).1 (by rw [nought, UInt8.toNat_zero])
  -- a mark of UTF-16 or UTF-32 starts by an octet that is none of UTF-8
  have other {first : UInt8} {mark : Bytes} (foreign : first.toNat = 0 ∨ 0xF8 ≤ first.toNat) :
      ¬ (first :: mark).isPrefixOf bs = true := by
    intro marked
    obtain ⟨rest, rfl⟩ := List.isPrefixOf_iff_prefix.mp marked
    have bounds := plain first (by simp)
    omega
  have no_mark : ¬ [0xEF, 0xBB, 0xBF].isPrefixOf bs = true := by
    intro marked
    obtain ⟨rest, same⟩ := List.isPrefixOf_iff_prefix.mp marked
    exact unmarked rest same.symm
  unfold detect
  rw [if_neg (other (by decide)), if_neg (other (by decide)), if_neg (other (by decide)), if_neg (other (by decide)),
    if_neg no_mark, guess_utf8 present]

/-- **The octets of characters** are taken for what they are. -/
theorem detect_encode {cs : List Char} (clean : '\x00' ∉ cs) (unmarked : cs.head? ≠ some '\uFEFF') :
    detect (Utf8.encode cs) = (.utf8, 0) :=
  detect_utf8 (Utf8.encode_octets clean) fun _ front => unmarked (Utf8.mark_front front)

/-- **A text and its octets** are read alike, whether they hold a value or not. -/
theorem read_encode {s : String} (clean : '\x00' ∉ s.toList) (unmarked : s.toList.head? ≠ some '\uFEFF') :
    read (.octets (Utf8.encode s.toList)) = read (.text s) := by
  have octets : read (.octets (Utf8.encode s.toList)) = readLetters (s.toList.map .char) := by
    unfold read decodeOctets
    simp only [detect_encode clean unmarked, List.drop_zero, Utf8.decodePassing_encode]
    rfl
  have text : read (.text s) = readLetters (s.toList.map .char) := by
    unfold read
    dsimp only [Text.ofString]
    cases letters : s.toList with
    | nil => rfl
    | cons c cs =>
      rw [letters] at unmarked
      split
      · next same =>
        obtain ⟨front, -⟩ := List.cons.inj same
        rw [Letter.char.inj front] at unmarked
        exact absurd rfl unmarked
      · rfl
  rw [octets, text]

end Json

/-! ## Envelopes and messages -/

/-- **Texts and octets are read alike.** A text that holds no NUL and does not start with a byte order mark, and the
octets of its UTF-8, have the same envelope or the same error, down to its wording. As messages of a channel they hold
the same object, or are both refused: for the same problem at the same place, or as values of the same kind. -/
theorem octets_read_alike (s : String) (clean : '\x00' ∉ s.toList) (unmarked : s.toList.head? ≠ some '\uFEFF') :
    let octets : Bytes := s.toUTF8.data.toList
    Envelope.parse (.octets octets) = Envelope.parse (.text s) ∧
      ((∃ ms, Channel.decodeMessage (.octets octets) = .ok ms ∧ Channel.decodeMessage (.text s) = .ok ms) ∨
        (∃ why, Channel.decodeMessage (.octets octets) = .error (.frame (.octets octets) why) ∧
          Channel.decodeMessage (.text s) = .error (.frame (.text s) why)) ∨
        ∃ kind, Channel.decodeMessage (.octets octets) = .error (.messageKind kind) ∧
          Channel.decodeMessage (.text s) = .error (.messageKind kind)) := by
  intro octets
  have written : octets = Utf8.encode s.toList := Utf8.toUTF8_eq s
  have alike : Json.read (.octets octets) = Json.read (.text s) := by
    rw [written]
    exact Json.read_encode clean unmarked
  have shown : Envelope.received (.octets octets) = s := by
    show String.ofList (Utf8.decodeLossy octets) = s
    rw [written, Utf8.decodeLossy_encode, String.ofList_toList]
  constructor
  · unfold Envelope.parse
    rw [alike, shown]
    rfl
  · unfold Channel.decodeMessage
    rw [alike]
    cases Json.read (.text s) with
    | error why => exact .inr (.inl ⟨why, rfl, rfl⟩)
    | ok v =>
      cases v with
      | obj ms => exact .inl ⟨ms, rfl, rfl⟩
      | _ => exact .inr (.inr ⟨_, rfl, rfl⟩)

/-- A text that breaks off behind a character of two octets: its octets are one more than its characters, and the error
is told at the character all the same. -/
theorem octets_read_alike_broken :
    let s := "\x7b\"é\": tru"
    '\x00' ∉ s.toList ∧ s.toList.head? ≠ some '\uFEFF' ∧
      Envelope.parse (.octets s.toUTF8.data.toList) = .error (.body s (.malformed .expectedValue 1 7 6)) := by
  intro s
  have clean : '\x00' ∉ s.toList := by decide
  have unmarked : s.toList.head? ≠ some '\uFEFF' := by decide
  have text : Envelope.parse (.text s) = .error (.body s (.malformed .expectedValue 1 7 6)) :=
    Attempt.failed_of_decide (by decide +kernel)
  exact ⟨clean, unmarked, (octets_read_alike s clean unmarked).1.trans text⟩

end Freebox
