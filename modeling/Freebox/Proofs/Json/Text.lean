import Freebox.Json.Reader
import Freebox.Json.Writer
import Mathlib.Data.List.Chain

/-!
# `Freebox.Proofs.Json.Text` — texts read back

A text that was written is read back as it is, with one exception: a first and a second half of a surrogate pair in a
row come back as the character of the pair.

## Contents
- `Json.rejoin`, `Text.rejoined`: what is read where a text was written.
- `Json.text_write`, `Json.quotedText_write`: texts read back.
- `Text.Whole`, `Text.Whole.rejoined`: the texts that come back as they are, strings among them.
-/

namespace Freebox

/-- Characters are no halves of pairs. -/
theorem Letter.char_single (c : Char) : Wide.isHigh c.toNat = false ∧ Wide.isLow c.toNat = false := by
  have valid := c.valid
  simp only [UInt32.isValidChar, Nat.isValidChar] at valid
  simp only [Wide.isHigh, Wide.isLow, Char.toNat, Bool.and_eq_false_iff, decide_eq_false_iff_not]
  omega

theorem Letter.code_ofNat_half {n : Nat} (h : 0xD800 ≤ n ∧ n ≤ 0xDFFF) : (Letter.ofNat n).code = n := by
  simp only [Letter.ofNat, h, and_self, ↓reduceDIte, Letter.code]
  omega

namespace Json

/-- The letters that are read where some were written. -/
def rejoin : List Letter → List Letter
  | [] => []
  | l :: ls => prependCode l.code true (rejoin ls)

/-! ## Codes -/

section
variable {opening rest ls : List Letter}

/-- Codes that are no first half of a pair stand for themselves. -/
theorem prependCode_single {n : Nat} (h : Wide.isHigh n = false) (follows : Bool) (ls : List Letter) :
    prependCode n follows ls = .ofNat n :: ls := by
  cases ls with
  | nil => rfl
  | cons l ls => simp [prependCode, h]

theorem prependCode_char (c : Char) (follows : Bool) (ls : List Letter) :
    prependCode c.toNat follows ls = .char c :: ls := by
  rw [prependCode_single (Letter.char_single c).1]
  exact congrArg (· :: ls) (Letter.ofNat_code (.char c))

@[simp] theorem rejoin_char (c : Char) (ls : List Letter) : rejoin (.char c :: ls) = .char c :: rejoin ls :=
  prependCode_char c true (rejoin ls)

theorem hexValue?_hexDigit (n : Nat) : hexValue? (.char (Bytes.hexDigit (n % 16))) = some (n % 16) := by
  have all : ∀ k < 16, Bytes.hexValue? (Bytes.hexDigit k) = some k := by decide
  exact all (n % 16) (Nat.mod_lt _ (by decide))

/-- A code escape is read as the code. -/
theorem text_code {n : Nat} (small : n < 0x10000) (after : Letter) (more : List Letter) :
    text opening ((codeText n).map .char ++ after :: more) =
      (text opening (after :: more)).map fun (ls, r) => (prependCode n (after == .char '\\') ls, r) := by
  have read : code? (.char (Bytes.hexDigit (n / 16 / 16 / 16 % 16))) (.char (Bytes.hexDigit (n / 16 / 16 % 16)))
      (.char (Bytes.hexDigit (n / 16 % 16))) (.char (Bytes.hexDigit (n % 16))) = some n := by
    simp only [code?, hexValue?_hexDigit]
    congr 1
    omega
  simp only [codeText, Quoted.hexPadded, List.nil_append, List.cons_append, List.map_cons, List.map_nil]
  rw [text.eq_def]
  simp [read]

/-! ## Letters -/

/-- A character of two escapes is read from behind: the second half, then the pair. -/
theorem text_pair {c : Char} (wide : ¬ c.toNat < 0x10000) (after : Letter) (more : List Letter) :
    text opening ((codeText (0xD800 + (c.toNat - 0x10000) / 0x400) ++
        codeText (0xDC00 + (c.toNat - 0x10000) % 0x400)).map .char ++ after :: more) =
      (text opening (after :: more)).map fun (ls, r) => (.char c :: ls, r) := by
  have bound : c.toNat < 0x110000 := by
    have valid := c.valid
    simp only [UInt32.isValidChar, Nat.isValidChar] at valid
    simp only [Char.toNat]
    omega
  generalize high_def : 0xD800 + (c.toNat - 0x10000) / 0x400 = high
  generalize low_def : 0xDC00 + (c.toNat - 0x10000) % 0x400 = low
  have second (follows : Bool) (ls : List Letter) : prependCode low follows ls = .ofNat low :: ls := by
    refine prependCode_single ?_ follows ls
    simp [Wide.isHigh]
    omega
  have pair (ls : List Letter) : prependCode high true (.ofNat low :: ls) = .char c :: ls := by
    have halves : Wide.isHigh high = true ∧ Wide.isLow low = true := by
      simp [Wide.isHigh, Wide.isLow]
      omega
    have joined : Wide.join high low = c.toNat := by
      unfold Wide.join
      omega
    simp [prependCode, Letter.code_ofNat_half (n := low) (by omega), halves, joined, Char.ofNat_toNat]
  have start : (codeText low).map Letter.char ++ after :: more =
      .char '\\' :: (('u' :: Quoted.hexPadded 4 low).map .char ++ after :: more) := rfl
  rw [List.map_append, List.append_assoc, start, text_code (by omega), ← start, text_code (by omega)]
  cases text opening (after :: more) with
  | error stop => rfl
  | ok read => simp [Except.map, second, pair]

/-- What starts with a character is read as it starts with it. -/
theorem text_char (c : Char) (after : Letter) (more : List Letter) :
    text opening ((charText c).map .char ++ after :: more) =
      (text opening (after :: more)).map fun (ls, r) => (.char c :: ls, r) := by
  have short (l : Char) (simple : escaped? (.char l) = some c) (other : l ≠ 'u') :
      text opening (.char '\\' :: .char l :: after :: more) =
        (text opening (after :: more)).map fun (ls, r) => (.char c :: ls, r) := by
    rw [text.eq_def]
    simp [simple, other]
  unfold charText
  by_cases quote : c = '\x22'
  · subst quote; exact short '\x22' rfl (by decide)
  by_cases solidus : c = '\\'
  · subst solidus; exact short '\\' rfl (by decide)
  rw [if_neg quote, if_neg solidus]
  by_cases feed : c = '\n'
  · subst feed; exact short 'n' rfl (by decide)
  by_cases carriage : c = '\r'
  · subst carriage; exact short 'r' rfl (by decide)
  by_cases tab : c = '\t'
  · subst tab; exact short 't' rfl (by decide)
  rw [if_neg feed, if_neg carriage, if_neg tab]
  by_cases form : c = '\x0C'
  · subst form; exact short 'f' rfl (by decide)
  by_cases back : c = '\x08'
  · subst back; exact short 'b' rfl (by decide)
  rw [if_neg form, if_neg back]
  by_cases plain : 0x20 ≤ c.toNat ∧ c.toNat ≤ 0x7E
  · rw [if_pos plain, List.map_cons, List.map_nil, List.singleton_append, text.eq_def]
    simp [quote, solidus, Letter.code, Nat.not_lt.mpr plain.1]
  rw [if_neg plain]
  by_cases narrow : c.toNat < 0x10000
  · rw [if_pos narrow, text_code narrow]
    simp only [prependCode_char]
  · rw [if_neg narrow]
    exact text_pair narrow after more

/-- Behind a code escape it is enough to know the letters, since only an escape is read as the second half of a
pair. -/
theorem written_follows (ls rest : List Letter) :
    ∃ after more, (ls.flatMap letterText).map .char ++ .char '\x22' :: rest = after :: more ∧
      ∀ n, prependCode n (after == .char '\\') (rejoin ls) = prependCode n true (rejoin ls) := by
  cases ls with
  | nil => exact ⟨_, _, rfl, fun _ => rfl⟩
  | cons l ls =>
    cases l with
    | half h => exact ⟨_, _, rfl, fun _ => rfl⟩
    | char c =>
      have single : Wide.isLow (Letter.char c).code = false := (Letter.char_single c).2
      have same (n : Nat) (follows : Bool) :
          prependCode n follows (rejoin (.char c :: ls)) = .ofNat n :: .char c :: rejoin ls := by
        simp [prependCode, single]
      have written : charText c ≠ [] := by
        unfold charText
        repeat' split
        all_goals simp [codeText]
      obtain ⟨first, others, start⟩ := List.exists_cons_of_ne_nil written
      have spelled : letterText (.char c) = first :: others := start
      exact ⟨.char first, _, by rw [List.flatMap_cons, spelled]; rfl, fun n => by rw [same, same]⟩

/-- The letters of a text are read up to its closing quote. -/
theorem text_write (ls : List Letter) :
    text opening ((ls.flatMap letterText).map .char ++ .char '\x22' :: rest) = .ok (rejoin ls, rest) := by
  induction ls with
  | nil =>
    rw [text.eq_def]
    rfl
  | cons l ls ih =>
    obtain ⟨after, more, start, follows⟩ := written_follows ls rest
    rw [List.flatMap_cons, List.map_append, List.append_assoc]
    rw [start] at ih ⊢
    cases l with
    | char c =>
      rw [letterText, text_char, ih, rejoin_char]
      rfl
    | half h =>
      have small : (Letter.half h).code < 0x10000 := by simp only [Letter.code]; omega
      rw [show letterText (.half h) = codeText (Letter.half h).code from rfl, text_code small, ih]
      exact congrArg (fun ls => Except.ok (ls, rest)) (follows _)

end

end Json

/-! ## Texts -/

namespace Text

/-- What is read where a text was written. -/
def rejoined (t : Text) : Text := ⟨Json.rejoin t.letters⟩

/-- **A text that was written** is read back, its halves of pairs joined. -/
theorem quotedText_write (opening rest : List Letter) (t : Text) :
    Json.quotedText opening ((t.letters.flatMap Json.letterText).map .char ++ .char '\x22' :: rest) =
      .ok (t.rejoined, rest) := by
  rw [Json.quotedText, Json.text_write]
  rfl

/-- No first half of a surrogate pair is followed by a second one. -/
def Whole (t : Text) : Prop := t.letters.IsChain fun l m => ¬ (Wide.isHigh l.code = true ∧ Wide.isLow m.code = true)

theorem Whole.rejoined {t : Text} (h : t.Whole) : t.rejoined = t := by
  obtain ⟨ls⟩ := t
  refine congrArg Text.mk ?_
  unfold Whole at h
  induction ls with
  | nil => rfl
  | cons l ls ih =>
    rw [Json.rejoin, ih h.tail]
    cases ls with
    | nil => exact congrArg (· :: []) l.ofNat_code
    | cons m ls =>
      have apart := (List.isChain_cons_cons.mp h).1
      rw [Json.prependCode, Bool.true_and, if_neg (by rwa [Bool.and_eq_true]), l.ofNat_code]

theorem whole_ofString (s : String) : (s : Text).Whole := by
  unfold Whole ofString ofList
  rw [List.isChain_map]
  refine List.Pairwise.isChain (List.pairwise_of_forall fun c d halves => ?_)
  exact Bool.false_ne_true ((Letter.char_single c).1.symm.trans halves.1)

@[simp] theorem rejoined_ofString (s : String) : (s : Text).rejoined = s := (whole_ofString s).rejoined

end Text

end Freebox
