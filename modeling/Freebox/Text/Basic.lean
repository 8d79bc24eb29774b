/-!
# `Freebox.Text.Basic` — texts that may hold halves of surrogate pairs

The code points from U+D800 to U+DFFF stand for halves of surrogate pairs and for no characters. JSON can name each of
them by an escape, also where its partner is missing, and octets can be written like it. Such a half is kept as it came:
a text is a list of letters, and a letter is a character or a half.

## Contents
- `Letter`: characters and halves, by their code points.
- `Text`: lists of letters. Every string is a text; `Text.ofString_inj` says that no two strings are the same one.
- `Text.lossy`: the characters of a text, with U+FFFD for each half.
-/

namespace Freebox

/-! ## Letters -/

/-- A character, or a half of a surrogate pair by its number among the halves. -/
inductive Letter where
  | char (c : Char)
  | half (n : Fin 0x800)
  deriving DecidableEq, Repr, Inhabited

namespace Letter

/-- The code point of a letter. -/
def code : Letter → Nat
  | char c => c.toNat
  | half n => 0xD800 + n.val

/-- The letter of a code point. -/
def ofNat (n : Nat) : Letter :=
  if h : 0xD800 ≤ n ∧ n ≤ 0xDFFF then half ⟨n - 0xD800, by omega⟩ else char (Char.ofNat n)

/-- The character that a letter is. -/
def char? : Letter → Option Char
  | char c => some c
  | half _ => none

/-- A letter as a character: U+FFFD for a half. -/
def lossy : Letter → Char
  | char c => c
  | half _ => '\uFFFD'

/-- Whether a letter is a half. -/
def isHalf : Letter → Bool
  | char _ => false
  | half _ => true

theorem ofNat_code : ∀ l : Letter, ofNat l.code = l
  | char c => by
    have := c.valid
    have h : ¬ (0xD800 ≤ c.toNat ∧ c.toNat ≤ 0xDFFF) := by
      simp only [UInt32.isValidChar, Nat.isValidChar] at this
      simp only [Char.toNat]
      omega
    simp [ofNat, code, h, Char.ofNat_toNat]
  | half n => by
    have h : 0xD800 ≤ 0xD800 + n.val ∧ 0xD800 + n.val ≤ 0xDFFF := by omega
    simp [ofNat, code, h]

end Letter

/-! ## Texts -/

/-- A list of letters. -/
structure Text where
  letters : List Letter
  deriving DecidableEq, Repr, Inhabited

namespace Text

/-- The text of some characters. -/
def ofList (cs : List Char) : Text := ⟨cs.map .char⟩

/-- The text of a string. -/
@[coe] def ofString (s : String) : Text := ofList s.toList

instance : Coe String Text := ⟨ofString⟩

instance : Append Text := ⟨fun s t => ⟨s.letters ++ t.letters⟩⟩

@[simp] theorem ofList_inj {as bs : List Char} : ofList as = ofList bs ↔ as = bs := by
  simp only [ofList, Text.mk.injEq]
  exact List.map_inj_right (fun _ _ h => Letter.char.inj h)

@[simp] theorem ofString_inj {s t : String} : ofString s = ofString t ↔ s = t := by
  simp [ofString, String.toList_inj]

/-- The number of letters. -/
def length (t : Text) : Nat := t.letters.length

/-- The text of one letter. -/
def singleton (l : Letter) : Text := ⟨[l]⟩

/-- The characters of a text, with U+FFFD for each half. -/
def lossy (t : Text) : List Char := t.letters.map Letter.lossy

@[simp] theorem lossy_ofList (cs : List Char) : (ofList cs).lossy = cs := by
  simp [lossy, ofList, Function.comp_def, Letter.lossy]

@[simp] theorem lossy_ofString (s : String) : (ofString s).lossy = s.toList := by simp [ofString]

/-- Texts in a row, with a string between neighbours. -/
def intercalate (between : String) : List Text → Text
  | [] => ""
  | [t] => t
  | t :: ts => t ++ between ++ intercalate between ts

end Text

end Freebox
