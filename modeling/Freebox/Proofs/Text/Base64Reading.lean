import Freebox.Proofs.Text.Base64
import Mathlib.Algebra.Group.Nat.Defs

/-!
# `Freebox.Proofs.Text.Base64Reading` — exactly which texts are base64

Reading goes through a text once, with the open group, the padding and an early end to look after. What it accepts can
be told without any of them: characters of the alphabet with padding behind, where the number of the former says how
much there may be of the latter. What it makes of them can be told without groups: the bits of the octets are the bits
of the characters, without those at the end that fill no octet.

## Contents
- `Base64.alphabet`, `Base64.value?_iff`: the alphabet as a list.
- `Base64.bits`, `Base64.octetBits`, `Base64.dataBits`, `Base64.bits_octets`: octets and characters as bits.
- `Base64.Fills`, `Base64.read_pads`, `Base64.read_ok_iff`: what a reading accepts.
- `Base64.StandsFor`, `Base64.decode_ok_iff`: texts and the octets that they stand for.
-/

namespace Freebox.Base64

/-! ## The alphabet -/

/-- The characters of the alphabet, in the order of their numbers. -/
def alphabet : List Char := "ABCDEFGHIJKLMNOPQRSTUVWXYZabcdefghijklmnopqrstuvwxyz0123456789+/".toList

theorem alphabet_eq : alphabet = (List.range 64).map symbol := by decide

theorem idxOf_symbol : ∀ n < 64, alphabet.idxOf (symbol n) = n := by decide

theorem mem_alphabet_iff (c : Char) : c ∈ alphabet ↔ ∃ n < 64, symbol n = c := by
  simp [alphabet_eq]

theorem char_of_eq {n : Nat} {c : Char} (h : n = c.toNat) : Char.ofNat n = c := by
  rw [h]
  exact Char.ofNat_toNat c

/-- A character has a number exactly if it is the one of that number. -/
theorem value?_iff (c : Char) (n : Nat) : value? c = some n ↔ n < 64 ∧ symbol n = c := by
  refine ⟨fun known => ?_, fun ⟨small, same⟩ => same ▸ value?_symbol n small⟩
  -- the ranges of the alphabet in turn: capital letters, small letters, digits, and the last two
  unfold value? at known
  dsimp only at known
  split at known
  · obtain rfl := Option.some.inj known
    refine ⟨by omega, ?_⟩
    rw [symbol, if_pos (by omega)]
    exact char_of_eq (by omega)
  split at known
  · obtain rfl := Option.some.inj known
    refine ⟨by omega, ?_⟩
    rw [symbol, if_neg (by omega), if_pos (by omega)]
    exact char_of_eq (by omega)
  split at known
  · obtain rfl := Option.some.inj known
    refine ⟨by omega, ?_⟩
    rw [symbol, if_neg (by omega), if_neg (by omega), if_pos (by omega)]
    exact char_of_eq (by omega)
  split at known
  next plus =>
    obtain rfl := Option.some.inj known
    exact ⟨by omega, plus.symm⟩
  split at known
  next slash =>
    obtain rfl := Option.some.inj known
    exact ⟨by omega, slash.symm⟩
  · cases known

/-! ## Bits -/

/-- The lowest bits of a number, highest first. -/
def bits : Nat → Nat → List Nat
  | 0, _ => []
  | width + 1, n => n / 2 ^ width % 2 :: bits width n

/-- The bits of octets. -/
def octetBits (bs : Bytes) : List Nat := bs.flatMap fun b => bits 8 b.toNat

/-- The bits of characters of the alphabet, six each. -/
def dataBits (data : List Char) : List Nat := data.flatMap fun c => bits 6 (alphabet.idxOf c)

theorem length_bits (width n : Nat) : (bits width n).length = width := by
  induction width with
  | zero => rfl
  | succ width ih => rw [bits, List.length_cons, ih]

/-- Bits tell a number, as far as they go. -/
theorem mod_of_bits {width m n : Nat} (same : bits width m = bits width n) : m % 2 ^ width = n % 2 ^ width := by
  induction width with
  | zero => simp [Nat.mod_one]
  | succ width ih =>
    obtain ⟨top, below⟩ := List.cons.inj same
    rw [Nat.mod_pow_succ, Nat.mod_pow_succ, ih below, top]

/-- Octets are told by their bits. -/
theorem octetBits_inj {as bs : Bytes} (same : octetBits as = octetBits bs) : as = bs := by
  induction as generalizing bs with
  | nil =>
    cases bs with
    | nil => rfl
    | cons b bs => simp [octetBits, bits] at same
  | cons a as ih =>
    cases bs with
    | nil => simp [octetBits, bits] at same
    | cons b bs =>
      have widths : (bits 8 a.toNat).length = (bits 8 b.toNat).length := by rw [length_bits, length_bits]
      obtain ⟨front, behind⟩ := List.append_inj same widths
      have octets := mod_of_bits front
      rw [Nat.mod_eq_of_lt a.toNat_lt, Nat.mod_eq_of_lt b.toNat_lt] at octets
      rw [UInt8.toNat_inj.mp octets, ih behind]

/-- Two sextets have the bits of an octet, and some more. -/
theorem bits_first {a b : Nat} (ha : a < 64) (hb : b < 64) :
    bits 8 (UInt8.ofNat (a * 4 + b / 16)).toNat = bits 6 a ++ (bits 6 b).take 2 := by
  rw [toNat_octet (by omega)]
  simp [bits]
  omega

theorem bits_second {b c : Nat} (hc : c < 64) :
    bits 8 (UInt8.ofNat (b % 16 * 16 + c / 4)).toNat = (bits 6 b).drop 2 ++ (bits 6 c).take 4 := by
  rw [toNat_octet (by omega)]
  simp [bits]
  omega

theorem bits_third {c d : Nat} (hd : d < 64) :
    bits 8 (UInt8.ofNat (c % 4 * 64 + d)).toNat = (bits 6 c).drop 4 ++ bits 6 d := by
  rw [toNat_octet (by omega)]
  simp [bits]
  omega

/-- **The bits of octets** are those of the sextets that they are made of, without the last ones if these fill no
octet. -/
theorem octetBits_octets (ns : List Nat) (small : ∀ n ∈ ns, n < 64) :
    octetBits (octets ns) = (ns.flatMap (bits 6)).take (ns.length * 6 / 8 * 8) := by
  induction ns using octets.induct with
  | case1 a b c d rest ih =>
    simp only [List.forall_mem_cons] at small
    obtain ⟨ha, hb, hc, hd, small⟩ := small
    -- a whole group has as many bits as three octets, so the cut is in the rest
    have cut : (a :: b :: c :: d :: rest).length * 6 / 8 * 8 = 24 + rest.length * 6 / 8 * 8 := by
      simp only [List.length_cons]
      omega
    have group : (bits 6 a ++ bits 6 b ++ bits 6 c ++ bits 6 d).length = 24 := by simp [length_bits]
    have front : octetBits (octets (a :: b :: c :: d :: rest))
        = bits 6 a ++ bits 6 b ++ bits 6 c ++ bits 6 d ++ octetBits (octets rest) := by
      rw [octets]
      simp only [octetBits, List.flatMap_cons, bits_first ha hb, bits_second hc, bits_third hd]
      simp [bits]
    rw [front, ih small, cut]
    simp only [List.flatMap_cons, ← List.append_assoc]
    rw [← group, List.take_length_add_append]
  | case2 a b c =>
    simp only [List.forall_mem_cons] at small
    obtain ⟨ha, hb, hc, -⟩ := small
    simp only [octets, octetBits, List.flatMap_cons, List.flatMap_nil, bits_first ha hb, bits_second hc]
    simp [bits]
  | case3 a b =>
    simp only [List.forall_mem_cons] at small
    obtain ⟨ha, hb, -⟩ := small
    simp only [octets, octetBits, List.flatMap_cons, List.flatMap_nil, bits_first ha hb]
    simp [bits]
  | case4 ns group three two =>
    -- one sextet fills no octet, and none does not either
    rcases ns with _ | ⟨a, _ | ⟨b, _ | ⟨c, _ | ⟨d, rest⟩⟩⟩⟩
    · rfl
    · simp [octets, octetBits]
    · exact absurd rfl (two a b)
    · exact absurd rfl (three a b c)
    · exact absurd rfl (group a b c d rest)

theorem dataBits_symbols (ns : List Nat) (small : ∀ n ∈ ns, n < 64) :
    dataBits (ns.map symbol) = ns.flatMap (bits 6) := by
  induction ns with
  | nil => rfl
  | cons n ns ih =>
    rw [List.forall_mem_cons] at small
    rw [List.map_cons, dataBits, List.flatMap_cons, List.flatMap_cons, idxOf_symbol n small.1, ← ih small.2]
    rfl

/-! ## Reading -/

/-- So much padding fills up a group with so many characters and so much padding before. A group without characters
needs none, and takes any. -/
def Fills (filled before pads : Nat) : Prop := filled = 0 ∨ (2 ≤ filled ∧ filled + before + pads = 4)

theorem filled_lt (p : Progress) : p.filled < 4 := Nat.mod_lt _ (by omega)

/-- Padding at the end of a text is accepted if it fills up the group that it stands behind, by induction on it. -/
theorem read_pads (p : Progress) (k : Nat) (room : 2 ≤ p.filled → p.filled + p.pads < 4) (ns : List Nat) :
    read p (List.replicate k '=') = .ok ns ↔ p.data.reverse = ns ∧ Fills p.filled p.pads k := by
  induction k generalizing p with
  | zero =>
    rw [List.replicate_zero, read, Fills]
    by_cases none : p.filled = 0
    · simp [none]
    · have short : 2 ≤ p.filled → p.filled + p.pads ≠ 4 := fun two => by have := room two; omega
      by_cases one : p.filled = 1
      · simp [one]
      · simp only [none, one, if_false, false_or]
        simpa using fun _ => short
  | succ k ih =>
    have below := filled_lt p
    rw [List.replicate_succ, read, if_pos rfl, Fills]
    by_cases two : 2 ≤ p.filled
    · have some : p.filled ≠ 0 := by omega
      have space := room two
      rw [if_pos two]
      by_cases full : 4 ≤ p.filled + p.pads + 1
      · -- this character fills the group up, so it is the last one
        have last : p.filled + p.pads + (k + 1) = 4 ↔ k = 0 := by omega
        rw [if_pos full]
        cases k <;> simp [some, two, last]
      · have next : p.filled + (p.pads + 1) + k = 4 ↔ p.filled + p.pads + (k + 1) = 4 := by omega
        rw [if_neg full, ih { p with pads := p.pads + 1, padded := true }]
        · show _ ∧ (p.filled = 0 ∨ (2 ≤ p.filled ∧ p.filled + (p.pads + 1) + k = 4)) ↔ _
          rw [next]
        · intro _
          show p.filled + (p.pads + 1) < 4
          omega
    · rw [if_neg two, ih { p with padded := true } (fun h => absurd h two)]
      show _ ∧ (p.filled = 0 ∨ (2 ≤ p.filled ∧ p.filled + p.pads + k = 4)) ↔ _
      simp [two]

/-- Behind padding nothing but padding is accepted. -/
theorem only_pads {p : Progress} {cs : List Char} {ns : List Nat} (padded : p.padded = true)
    (accepted : read p cs = .ok ns) : ∃ k, cs = List.replicate k '=' := by
  induction cs generalizing p with
  | nil => exact ⟨0, rfl⟩
  | cons c rest ih =>
    rw [read] at accepted
    by_cases pad : c = '='
    · rw [if_pos pad] at accepted
      subst pad
      have more (k : Nat) (h : rest = List.replicate k '=') : ∃ k, '=' :: rest = List.replicate k '=' :=
        ⟨k + 1, by rw [h, List.replicate_succ]⟩
      split at accepted
      · split at accepted
        · -- the group is full, so nothing may follow
          cases rest with
          | nil => exact more 0 rfl
          | cons d rest => cases accepted
        · obtain ⟨k, h⟩ := ih rfl accepted
          exact more k h
      · obtain ⟨k, h⟩ := ih rfl accepted
        exact more k h
    · rw [if_neg pad, padded] at accepted
      cases number : value? c <;> simp [number] at accepted

/-- What is accepted is data characters with padding behind. -/
theorem data_and_pads {data : List Nat} {cs : List Char} {ns : List Nat}
    (accepted : read ⟨data, 0, false⟩ cs = .ok ns) :
    ∃ (ms : List Nat) (k : Nat), (∀ m ∈ ms, m < 64) ∧ cs = ms.map symbol ++ List.replicate k '=' := by
  induction cs generalizing data with
  | nil => exact ⟨[], 0, by simp, rfl⟩
  | cons c rest ih =>
    by_cases pad : c = '='
    · subst pad
      have padded : read ⟨data, 0, true⟩ ('=' :: rest) = .ok ns := by
        rw [read] at accepted ⊢
        exact accepted
      obtain ⟨k, h⟩ := only_pads rfl padded
      exact ⟨[], k, by simp, h⟩
    · rw [read, if_neg pad] at accepted
      cases number : value? c with
      | none => simp [number] at accepted
      | some n =>
        obtain ⟨small, rfl⟩ := (value?_iff c n).mp number
        simp only [number, Bool.false_eq_true, if_false] at accepted
        obtain ⟨ms, k, smalls, rfl⟩ := ih accepted
        exact ⟨n :: ms, k, by simpa using ⟨small, smalls⟩, rfl⟩

/-- **Exactly what a reading accepts**: sextets with padding behind that fills up their last group. -/
theorem read_ok_iff (cs : List Char) (ns : List Nat) :
    read ⟨[], 0, false⟩ cs = .ok ns ↔
      (∀ n ∈ ns, n < 64) ∧ ∃ k, cs = ns.map symbol ++ List.replicate k '=' ∧ Fills (ns.length % 4) 0 k := by
  have split (ms : List Nat) (k : Nat) (small : ∀ m ∈ ms, m < 64) :
      read ⟨[], 0, false⟩ (ms.map symbol ++ List.replicate k '=') = .ok ns ↔ ms = ns ∧ Fills (ms.length % 4) 0 k := by
    have behind := read_pads ⟨ms.reverse, 0, false⟩ k (fun _ => filled_lt _) ns
    rw [read_symbols small, List.append_nil, behind, List.reverse_reverse, Progress.filled, List.length_reverse]
  constructor
  · intro accepted
    obtain ⟨ms, k, small, rfl⟩ := data_and_pads accepted
    obtain ⟨rfl, fills⟩ := (split ms k small).mp accepted
    exact ⟨small, k, rfl, fills⟩
  · rintro ⟨small, k, rfl, fills⟩
    exact (split ns k small).mpr ⟨rfl, fills⟩

/-! ## Texts -/

/-- So much padding may stand behind so many data characters: any behind whole groups, if there are some, none if there
are not, and as much as fills up a last group of two or three. -/
def Padded (count pads : Nat) : Prop :=
  (count % 4 = 0 ∧ (count = 0 → pads = 0)) ∨ (count % 4 = 2 ∧ pads = 2) ∨ (count % 4 = 3 ∧ pads = 1)

/-- The octets that a text stands for: it is data characters with padding behind, and the bits of the octets are those
of the data characters, as many as fill octets. -/
def StandsFor (cs : List Char) (bs : Bytes) : Prop :=
  ∃ (data : List Char) (pads : Nat), cs = data ++ List.replicate pads '=' ∧ (∀ c ∈ data, c ∈ alphabet) ∧
    Padded data.length pads ∧ octetBits bs = (dataBits data).take (data.length * 6 / 8 * 8)

theorem padded_iff (count pads : Nat) : Padded count pads ↔ Fills (count % 4) 0 pads ∧ (count = 0 → pads = 0) := by
  unfold Padded Fills
  omega

/-- Data characters are those of sextets. -/
theorem exists_sextets {data : List Char} (known : ∀ c ∈ data, c ∈ alphabet) :
    ∃ ns : List Nat, (∀ n ∈ ns, n < 64) ∧ data = ns.map symbol := by
  induction data with
  | nil => exact ⟨[], by simp, rfl⟩
  | cons c data ih =>
    rw [List.forall_mem_cons] at known
    obtain ⟨n, small, rfl⟩ := (mem_alphabet_iff c).mp known.1
    obtain ⟨ns, smalls, rfl⟩ := ih known.2
    exact ⟨n :: ns, by simpa using ⟨small, smalls⟩, rfl⟩

theorem symbols_known {ns : List Nat} (small : ∀ n ∈ ns, n < 64) : ∀ c ∈ ns.map symbol, c ∈ alphabet := by
  intro c here
  obtain ⟨n, there, same⟩ := List.mem_map.mp here
  exact (mem_alphabet_iff c).mpr ⟨n, small n there, same⟩

/-- What a text stands for, by its sextets. -/
theorem standsFor_symbols {ns : List Nat} (small : ∀ n ∈ ns, n < 64) (bs : Bytes) :
    octetBits bs = (dataBits (ns.map symbol)).take ((ns.map symbol).length * 6 / 8 * 8) ↔ octets ns = bs := by
  rw [dataBits_symbols ns small, List.length_map, ← octetBits_octets ns small]
  exact ⟨fun same => (octetBits_inj same).symm, fun same => same ▸ rfl⟩

/-- A text is read if it is ASCII, does not start with padding and is accepted. -/
theorem decode_eq_ok_iff (cs : List Char) (bs : Bytes) :
    decode cs = .ok bs ↔ (∀ c ∈ cs, c.toNat < 0x80) ∧ (∀ rest, cs ≠ '=' :: rest) ∧
      ∃ ns, read ⟨[], 0, false⟩ cs = .ok ns ∧ octets ns = bs := by
  unfold decode
  by_cases ascii : ∀ c ∈ cs, c.toNat < 0x80
  · have none : cs.any (fun c => 0x80 ≤ c.toNat) = false := by simpa using ascii
    rw [none, if_neg (by simp)]
    split
    next rest => simp
    next unpadded =>
      have front : ∀ rest, cs ≠ '=' :: rest := fun rest same => unpadded rest same
      cases read ⟨[], 0, false⟩ cs with
      | error e => simp [Except.map]
      | ok ns => simpa [Except.map, ascii, front] using fun _ => ascii
  · have some : cs.any (fun c => 0x80 ≤ c.toNat) = true := by simpa using ascii
    rw [some, if_pos rfl]
    simp [ascii]

/-- **Exactly which texts are base64**, and of which octets. -/
theorem decode_ok_iff (cs : List Char) (bs : Bytes) : decode cs = .ok bs ↔ StandsFor cs bs := by
  rw [decode_eq_ok_iff]
  constructor
  · rintro ⟨-, front, ns, accepted, same⟩
    obtain ⟨small, k, rfl, fills⟩ := (read_ok_iff cs ns).mp accepted
    refine ⟨ns.map symbol, k, rfl, symbols_known small, ?_, (standsFor_symbols small bs).mpr same⟩
    rw [List.length_map, padded_iff]
    refine ⟨fills, fun none => ?_⟩
    -- padding without data would be at the front
    obtain rfl := List.length_eq_zero_iff.mp none
    cases k with
    | zero => rfl
    | succ k => exact absurd rfl (front (List.replicate k '='))
  · rintro ⟨data, k, rfl, known, padded, same⟩
    obtain ⟨ns, small, rfl⟩ := exists_sextets known
    rw [List.length_map, padded_iff] at padded
    refine ⟨?_, ?_, ns, (read_ok_iff _ ns).mpr ⟨small, k, rfl, padded.1⟩, (standsFor_symbols small bs).mp same⟩
    · intro c here
      rcases List.mem_append.mp here with data | pad
      · obtain ⟨n, there, rfl⟩ := List.mem_map.mp data
        exact symbol_ascii n (small n there)
      · rw [List.eq_of_mem_replicate pad]
        decide
    · intro rest front
      cases ns with
      | nil =>
        rw [padded.2 rfl] at front
        cases front
      | cons n ns => exact symbol_ne_pad n (small n (by simp)) (List.cons.inj front).1

end Freebox.Base64
