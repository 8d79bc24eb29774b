import Freebox.Path
import Freebox.Proofs.Text.Base64Reading
import Freebox.Proofs.Text.Utf8

/-!
# `Freebox.Proofs.Text.Path` — exactly which values are paths

A path is read in two layers: its text has to be base64, and the octets that it stands for have to be UTF-8. Both layers
are known by themselves, so the values that are paths can be told without either reader. Every other value is an error
of decoding that says what came instead.

## Contents
- `Text.ofList_lossy`: texts that are ASCII have no halves of surrogate pairs.
- `Path.Denotes`, `Path.decode_ok_iff`: the texts that denote paths.
- `Path.decodeValue_iff`: what becomes of every value.
-/

namespace Freebox

/-- A text whose characters are all ASCII is the text of these: a half of a surrogate pair would show as U+FFFD. -/
theorem Text.ofList_lossy {t : Text} (ascii : ∀ c ∈ t.lossy, c.toNat < 0x80) : Text.ofList t.lossy = t := by
  obtain ⟨ls⟩ := t
  rw [Text.ofList, Text.mk.injEq]
  change ∀ c ∈ ls.map Letter.lossy, c.toNat < 0x80 at ascii
  change (ls.map Letter.lossy).map Letter.char = ls
  induction ls with
  | nil => rfl
  | cons l ls ih =>
    rw [List.map_cons, List.forall_mem_cons] at ascii
    rw [List.map_cons, List.map_cons, ih ascii.2]
    cases l with
    | char c => rfl
    | half n =>
      have above : ¬ '\uFFFD'.toNat < 0x80 := by decide
      exact absurd ascii.1 above

namespace Path

/-- A text denotes a path: it is base64, and the octets that it stands for are valid UTF-8 and encode the path. -/
def Denotes (t : Text) (path : String) : Prop :=
  ∃ (cs : List Char) (bs : Bytes), t = Text.ofList cs ∧ Base64.StandsFor cs bs ∧
    String.fromUTF8? bs.toByteArray = some path

/-- The path of a text is the one that it denotes. -/
theorem decode_ok_iff (t : Text) (path : String) : decode t = .ok path ↔ Denotes t path := by
  unfold decode
  constructor
  · intro read
    cases octets : Base64.decode t.lossy with
    | error e => simp [octets] at read
    | ok bs =>
      simp only [octets] at read
      cases letters : Utf8.decode bs with
      | error e => simp [letters] at read
      | ok cs =>
        simp only [letters] at read
        obtain rfl := Except.ok.inj read
        have ascii := ((Base64.decode_eq_ok_iff _ bs).mp octets).1
        refine ⟨t.lossy, bs, (Text.ofList_lossy ascii).symm, (Base64.decode_ok_iff _ bs).mp octets, ?_⟩
        rw [← Utf8.decode_fromUTF8, String.toList_ofList, letters]
  · rintro ⟨cs, bs, rfl, stands, utf8⟩
    rw [← Base64.decode_ok_iff] at stands
    rw [← Utf8.decode_fromUTF8] at utf8
    simp only [Text.lossy_ofList, stands, utf8, String.ofList_toList]

/-- **Exactly which values are paths.** A string is the path that it denotes. A string that denotes none, and a value
that is neither a string nor null, is an error of decoding. -/
theorem decodeValue_iff :
    (∀ (t : Text) (path : String), decodeValue (.str t) = .ok (some path) ↔ Denotes t path) ∧
      (∀ t : Text, (∃ path, Denotes t path) ∨ ∃ why, decodeValue (.str t) = .error (.path t why)) ∧
      ∀ v : Json, v = .null ∨ (∃ t, v = .str t) ∨ decodeValue v = .error (.pathKind v.kind) := by
  have strings (t : Text) (path : String) : decodeValue (.str t) = .ok (some path) ↔ decode t = .ok path := by
    rw [decodeValue]
    cases decode t <;> simp
  refine ⟨fun t path => (strings t path).trans (decode_ok_iff t path), fun t => ?_, fun v => ?_⟩
  · cases read : decode t with
    | ok path => exact Or.inl ⟨path, (decode_ok_iff t path).mp read⟩
    | error why =>
      right
      refine ⟨why, ?_⟩
      rw [decodeValue, read]
  · cases v with
    | null => exact Or.inl rfl
    | str t => exact Or.inr (Or.inl ⟨t, rfl⟩)
    | bool _ | int _ | real _ | arr _ | obj _ => exact Or.inr (Or.inr rfl)

/-- The last bits of a shorter group are ignored, and so is padding behind a whole one. -/
example : ["QQ==", "QR==", "L0Zi", "L0Zi==="].map (fun s : String => (decode s).toOption)
    = [some "A", some "A", some "/Fb", some "/Fb"] := by decide +kernel

end Path

end Freebox
