import Freebox.Text.Utf8

/-!
# `Freebox.Proofs.Text.Utf8` — characters that are written and read back

The octets of a character, followed by anything, are cut off as that character. There is one case for each number of
octets; in each of them the bits of the code point are shared out among the octets and put together again. So what was
written is read without a defect, character by character. Nothing else is: the octets that a character is read from are
the ones that it is written by, so strict reading accepts exactly the octet strings that are valid UTF-8.

## Contents
- `Utf8.pieces_encodeNat`: one character at the front of an octet string.
- `Utf8.pieces_encode`, `Utf8.decode_encode`: all of them.
- `Utf8.encodeNat_one` to `Utf8.encodeNat_four`, `Utf8.encode_of_pieces`: what characters are read from.
- `Utf8.decode_ok_iff`, `Utf8.decode_fromUTF8`: exactly what is read, by the writing and by the strings of the language.
-/

namespace Freebox.Utf8

/-! ## Octets of a character -/

/-- The code point of a character is below the last one, and no half of a surrogate pair. -/
theorem toNat_bounds (c : Char) : c.toNat < 0x110000 ∧ ¬ (0xD800 ≤ c.toNat ∧ c.toNat ≤ 0xDFFF) := by
  have valid := c.valid
  simp only [UInt32.isValidChar, Nat.isValidChar] at valid
  simp only [Char.toNat]
  omega

/-- A continuation octet has six bits of its own. -/
theorem tail_octet {n : Nat} (h : n < 0x40) :
    isTail (UInt8.ofNat (0x80 + n)) = true ∧ low6 (UInt8.ofNat (0x80 + n)) = n := by
  have octet : (UInt8.ofNat (0x80 + n)).toNat = 0x80 + n := toNat_octet (by omega)
  unfold isTail low6
  rw [octet]
  constructor
  · simp only [Bool.and_eq_true, decide_eq_true_eq]
    omega
  · omega

/-- The second of three octets: the bounds after E0 and ED are those of the code points that need three octets. -/
theorem second_of_three {n : Nat} (low : 0x800 ≤ n) (high : n < 0x10000) (whole : ¬ (0xD800 ≤ n ∧ n ≤ 0xDFFF)) :
    isSecondOfThree (UInt8.ofNat (0xE0 + n / 0x1000)) (UInt8.ofNat (0x80 + n / 0x40 % 0x40)) = true := by
  have lead : (UInt8.ofNat (0xE0 + n / 0x1000)).toNat = 0xE0 + n / 0x1000 := toNat_octet (by omega)
  have second : (UInt8.ofNat (0x80 + n / 0x40 % 0x40)).toNat = 0x80 + n / 0x40 % 0x40 := toNat_octet (by omega)
  have continues := (tail_octet (n := n / 0x40 % 0x40) (by omega)).1
  unfold isSecondOfThree
  rw [continues, lead, second]
  simp only [Bool.true_and, Bool.and_eq_true, Bool.or_eq_true, bne_iff_ne, decide_eq_true_eq]
  omega

/-- The second of four octets: the bounds after F0 and F4 are those of the code points that need four octets. -/
theorem second_of_four {n : Nat} (low : 0x10000 ≤ n) (high : n < 0x110000) :
    isSecondOfFour (UInt8.ofNat (0xF0 + n / 0x40000)) (UInt8.ofNat (0x80 + n / 0x1000 % 0x40)) = true := by
  have lead : (UInt8.ofNat (0xF0 + n / 0x40000)).toNat = 0xF0 + n / 0x40000 := toNat_octet (by omega)
  have second : (UInt8.ofNat (0x80 + n / 0x1000 % 0x40)).toNat = 0x80 + n / 0x1000 % 0x40 := toNat_octet (by omega)
  have continues := (tail_octet (n := n / 0x1000 % 0x40) (by omega)).1
  unfold isSecondOfFour
  rw [continues, lead, second]
  simp only [Bool.true_and, Bool.and_eq_true, Bool.or_eq_true, bne_iff_ne, decide_eq_true_eq]
  omega

/-! ## Reading back -/

/-- **One character** at the front is cut off as that character, whatever follows. -/
theorem pieces_encodeNat (c : Char) (rest : Bytes) : pieces (encodeNat c.toNat ++ rest) = .char c :: pieces rest := by
  obtain ⟨high, whole⟩ := toNat_bounds c
  have back : Char.ofNat c.toNat = c := Char.ofNat_toNat c
  generalize c.toNat = n at high whole back
  -- the cases are those of the writing: one octet, two, three or four
  unfold encodeNat
  by_cases one : n < 0x80
  · have octet : (UInt8.ofNat n).toNat = n := toNat_octet (by omega)
    rw [if_pos one, List.singleton_append, pieces.eq_def]
    dsimp only
    rw [octet, if_pos one, back]
  rw [if_neg one]
  by_cases two : n < 0x800
  · have lead : (UInt8.ofNat (0xC0 + n / 0x40)).toNat = 0xC0 + n / 0x40 := toNat_octet (by omega)
    obtain ⟨continues, low⟩ := tail_octet (n := n % 0x40) (by omega)
    have together : (0xC0 + n / 0x40 - 0xC0) * 0x40 + n % 0x40 = n := by omega
    rw [if_pos two]
    show pieces (_ :: _ :: rest) = _
    rw [pieces.eq_def]
    dsimp only
    rw [lead, if_neg (by omega), if_neg (by omega), if_pos (by omega)]
    simp only [continues, low, together, back, if_true]
  rw [if_neg two]
  by_cases three : n < 0x10000
  · have lead : (UInt8.ofNat (0xE0 + n / 0x1000)).toNat = 0xE0 + n / 0x1000 := toNat_octet (by omega)
    have second := second_of_three (by omega) three whole
    have middle := (tail_octet (n := n / 0x40 % 0x40) (by omega)).2
    obtain ⟨continues, low⟩ := tail_octet (n := n % 0x40) (by omega)
    have together : (0xE0 + n / 0x1000 - 0xE0) * 0x1000 + n / 0x40 % 0x40 * 0x40 + n % 0x40 = n := by omega
    rw [if_pos three]
    show pieces (_ :: _ :: _ :: rest) = _
    rw [pieces.eq_def]
    dsimp only
    rw [lead, if_neg (by omega), if_neg (by omega), if_neg (by omega), if_pos (by omega)]
    simp only [second, middle, continues, low, together, back, if_true]
  · have lead : (UInt8.ofNat (0xF0 + n / 0x40000)).toNat = 0xF0 + n / 0x40000 := toNat_octet (by omega)
    have second := second_of_four (by omega) high
    have upper := (tail_octet (n := n / 0x1000 % 0x40) (by omega)).2
    obtain ⟨third, middle⟩ := tail_octet (n := n / 0x40 % 0x40) (by omega)
    obtain ⟨continues, low⟩ := tail_octet (n := n % 0x40) (by omega)
    have together : (0xF0 + n / 0x40000 - 0xF0) * 0x40000 + n / 0x1000 % 0x40 * 0x1000 + n / 0x40 % 0x40 * 0x40
        + n % 0x40 = n := by omega
    rw [if_neg three]
    show pieces (_ :: _ :: _ :: _ :: rest) = _
    rw [pieces.eq_def]
    dsimp only
    rw [lead, if_neg (by omega), if_neg (by omega), if_neg (by omega), if_neg (by omega), if_pos (by omega)]
    simp only [second, upper, third, middle, continues, low, together, back, if_true]

theorem pieces_encode (cs : List Char) : pieces (encode cs) = cs.map .char := by
  induction cs with
  | nil => rw [encode, List.flatMap_nil, pieces, List.map_nil]
  | cons c cs ih =>
    have front : encode (c :: cs) = encodeNat c.toNat ++ encode cs := rfl
    rw [front, pieces_encodeNat, ih, List.map_cons]

/-- Where no piece is bad, all characters are collected, wherever one starts to count. -/
theorem collect_map_char (whole : Bytes) (cs : List Char) (start : Nat) :
    collect whole start (cs.map .char) = .ok cs := by
  induction cs generalizing start with
  | nil => rfl
  | cons c cs ih =>
    rw [List.map_cons, collect, ih]
    rfl

/-- **What was written** is read back. -/
theorem decode_encode (cs : List Char) : decode (encode cs) = .ok cs := by
  unfold decode
  rw [pieces_encode]
  exact collect_map_char _ cs 0

/-! ## Only what is written is read -/

/-- The code point of a character is the number that it was made of, if that is no half of a surrogate pair. -/
theorem toNat_ofNat {n : Nat} (high : n < 0x110000) (whole : ¬ (0xD800 ≤ n ∧ n ≤ 0xDFFF)) :
    (Char.ofNat n).toNat = n := by
  have valid : n.isValidChar := by
    unfold Nat.isValidChar
    omega
  rw [Char.ofNat, dif_pos valid]
  rfl

theorem isTail_iff (b : UInt8) : isTail b = true ↔ 0x80 ≤ b.toNat ∧ b.toNat ≤ 0xBF := by
  simp [isTail]

theorem encodeNat_one {a : UInt8} (lead : a.toNat < 0x80) : encodeNat (Char.ofNat a.toNat).toNat = [a] := by
  rw [toNat_ofNat (by omega) (by omega), encodeNat, if_pos lead, UInt8.ofNat_toNat]

/-- A lead octet from C2 on leaves no overlong form to two octets. -/
theorem encodeNat_two {a b : UInt8} (low : ¬ a.toNat < 0xC2) (high : a.toNat < 0xE0) (tail : isTail b = true) :
    encodeNat (Char.ofNat ((a.toNat - 0xC0) * 0x40 + low6 b)).toNat = [a, b] := by
  rw [isTail_iff] at tail
  unfold low6
  rw [toNat_ofNat (by omega) (by omega), encodeNat, if_neg (by omega), if_pos (by omega),
    octet_of_eq (a := a) (by omega), octet_of_eq (a := b) (by omega)]

/-- The bounds of the second octet leave no overlong form to three octets, and no half of a surrogate pair. -/
theorem encodeNat_three {a b c : UInt8} (low : ¬ a.toNat < 0xE0) (high : a.toNat < 0xF0)
    (second : isSecondOfThree a b = true) (tail : isTail c = true) :
    encodeNat (Char.ofNat ((a.toNat - 0xE0) * 0x1000 + low6 b * 0x40 + low6 c)).toNat = [a, b, c] := by
  simp only [isSecondOfThree, Bool.and_eq_true, Bool.or_eq_true, bne_iff_ne, decide_eq_true_eq, isTail_iff] at second
  rw [isTail_iff] at tail
  unfold low6
  rw [toNat_ofNat (by omega) (by omega), encodeNat, if_neg (by omega), if_neg (by omega), if_pos (by omega),
    octet_of_eq (a := a) (by omega), octet_of_eq (a := b) (by omega), octet_of_eq (a := c) (by omega)]

/-- The bounds of the second octet leave no overlong form to four octets, and nothing above the last code point. -/
theorem encodeNat_four {a b c d : UInt8} (low : ¬ a.toNat < 0xF0) (high : a.toNat < 0xF5)
    (second : isSecondOfFour a b = true) (third : isTail c = true) (tail : isTail d = true) :
    encodeNat (Char.ofNat ((a.toNat - 0xF0) * 0x40000 + low6 b * 0x1000 + low6 c * 0x40 + low6 d)).toNat
      = [a, b, c, d] := by
  simp only [isSecondOfFour, Bool.and_eq_true, Bool.or_eq_true, bne_iff_ne, decide_eq_true_eq, isTail_iff] at second
  rw [isTail_iff] at third tail
  unfold low6
  rw [toNat_ofNat (by omega) (by omega), encodeNat, if_neg (by omega), if_neg (by omega), if_neg (by omega),
    octet_of_eq (a := a) (by omega), octet_of_eq (a := b) (by omega), octet_of_eq (a := c) (by omega),
    octet_of_eq (a := d) (by omega)]

/-- A character at the front of pieces that are all characters. -/
theorem encode_front {c : Char} {ps : List Piece} {cs : List Char} {octets rest : Bytes}
    (whole : .char c :: ps = cs.map .char) (written : encodeNat c.toNat = octets)
    (behind : ∀ {ds : List Char}, ps = ds.map .char → encode ds = rest) : encode cs = octets ++ rest := by
  obtain ⟨d, ds, rfl, same, left⟩ := List.map_eq_cons_iff.mp whole.symm
  obtain rfl : d = c := Piece.char.inj same
  rw [encode, List.flatMap_cons, written, ← behind left.symm]
  rfl

theorem bad_ne_map_char {defect : Defect} {n : Nat} {ps : List Piece} {cs : List Char} :
    .bad defect n :: ps ≠ cs.map .char := by
  intro h
  obtain ⟨d, ds, -, same, -⟩ := List.map_eq_cons_iff.mp h.symm
  cases same

/-- Octets whose pieces are all characters are those that these are written by. -/
theorem encode_of_pieces {bs : Bytes} {cs : List Char} (whole : pieces bs = cs.map .char) : encode cs = bs := by
  -- along the cutting: four ways to cut a character, and many to find a defect
  fun_induction pieces bs generalizing cs with
  | case1 =>
    rw [List.map_eq_nil_iff.mp whole.symm]
    rfl
  | case2 a rest one ih => exact encode_front whole (encodeNat_one one) ih
  | case5 a _ low high b rest tail ih => exact encode_front whole (encodeNat_two low high tail) ih
  | case10 a _ _ low high b c rest second tail ih =>
    exact encode_front whole (encodeNat_three low high second tail) ih
  | case19 a _ _ _ low high b c d rest second third tail ih =>
    exact encode_front whole (encodeNat_four low high second third tail) ih
  | _ => exact absurd whole bad_ne_map_char

/-- Characters are collected where all pieces are characters, and there only. -/
theorem collect_ok_iff (whole : Bytes) (start : Nat) (ps : List Piece) (cs : List Char) :
    collect whole start ps = .ok cs ↔ ps = cs.map .char := by
  refine ⟨fun collected => ?_, fun same => same ▸ collect_map_char whole cs start⟩
  induction ps generalizing start cs with
  | nil =>
    obtain rfl : [] = cs := Except.ok.inj collected
    rfl
  | cons p ps ih =>
    cases p with
    | bad defect n => cases collected
    | char c =>
      rw [collect] at collected
      cases left : collect whole (start + (encodeNat c.toNat).length) ps with
      | error e =>
        rw [left] at collected
        cases collected
      | ok ds =>
        rw [left] at collected
        obtain rfl : c :: ds = cs := Except.ok.inj collected
        rw [List.map_cons, ← ih _ _ left]

/-- **Exactly what is read**: the octets that characters are written by. -/
theorem decode_ok_iff (bs : Bytes) (cs : List Char) : decode bs = .ok cs ↔ encode cs = bs := by
  constructor
  · intro read
    exact encode_of_pieces ((collect_ok_iff bs 0 (pieces bs) cs).mp read)
  · rintro rfl
    exact decode_encode cs

/-! ## Strings of the language -/

/-- The octets of a character are those that it has in a string. -/
theorem utf8EncodeChar_eq (c : Char) : String.utf8EncodeChar c = encodeNat c.toNat := by
  have high := (toNat_bounds c).1
  have code : c.val.toNat = c.toNat := rfl
  unfold String.utf8EncodeChar encodeNat
  rw [code]
  by_cases one : c.toNat < 0x80
  · rw [if_pos (by omega), if_pos one]
  rw [if_neg (by omega), if_neg one]
  by_cases two : c.toNat < 0x800
  · rw [if_pos (by omega), if_pos two, Nat.mod_eq_of_lt (a := c.toNat / 64) (by omega), Nat.add_comm _ 192,
      Nat.add_comm _ 128]
  rw [if_neg (by omega), if_neg two]
  by_cases three : c.toNat < 0x10000
  · rw [if_pos (by omega), if_pos three, Nat.mod_eq_of_lt (a := c.toNat / 4096) (by omega), Nat.add_comm _ 224,
      Nat.add_comm _ 128, Nat.add_comm _ 128]
  · rw [if_neg (by omega), if_neg three, Nat.mod_eq_of_lt (a := c.toNat / 262144) (by omega), Nat.add_comm _ 240,
      Nat.add_comm _ 128, Nat.add_comm _ 128, Nat.add_comm _ 128]

theorem utf8Encode_eq (cs : List Char) : cs.utf8Encode = (encode cs).toByteArray := by
  have octets : String.utf8EncodeChar = fun c => encodeNat c.toNat := funext utf8EncodeChar_eq
  rw [List.utf8Encode, octets]
  rfl

/-- **Strict reading is that of the language**: octets are read exactly if they are valid UTF-8, and as the string that
they are. -/
theorem decode_fromUTF8 (bs : Bytes) (s : String) :
    decode bs = .ok s.toList ↔ String.fromUTF8? bs.toByteArray = some s := by
  have octets : s.toByteArray = (encode s.toList).toByteArray := by
    rw [← utf8Encode_eq, String.utf8Encode_toList]
  rw [decode_ok_iff, ← List.toByteArray_inj, ← octets, String.fromUTF8?]
  constructor
  · intro same
    rw [dif_pos (same ▸ s.isValidUTF8)]
    simp only [← same]
    rfl
  · intro read
    split at read
    next valid =>
      obtain rfl : String.fromUTF8 bs.toByteArray valid = s := Option.some.inj read
      rfl
    · cases read

end Freebox.Utf8
