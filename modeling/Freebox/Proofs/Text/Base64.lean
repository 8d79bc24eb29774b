import Freebox.Text.Base64

/-!
# `Freebox.Proofs.Text.Base64` — octets that are written in base64 and read back

Writing turns each group of three octets into four sextets, and a shorter last group into two or three of them with
padding behind. Reading takes the sextets in order; at the border of a group nothing of the groups before matters but
their sextets, so a text is read group by group as it was written.

## Contents
- `Base64.sextets`: the numbers that an octet string is written by. `Base64.octets_sextets`: they stand for its octets.
- `Base64.read_symbol`, `Base64.read_symbols`: one data character, and several of them.
- `Base64.read_encode`, `Base64.decode_encode`: all that was written.
-/

namespace Freebox.Base64

/-! ## Sextets -/

/-- The numbers that octets are written by, without the padding. -/
def sextets : Bytes → List Nat
  | [] => []
  | [a] => [a.toNat / 4, a.toNat % 4 * 16]
  | [a, b] => [a.toNat / 4, a.toNat % 4 * 16 + b.toNat / 16, b.toNat % 16 * 4]
  | a :: b :: c :: rest =>
    a.toNat / 4 :: (a.toNat % 4 * 16 + b.toNat / 16) :: (b.toNat % 16 * 4 + c.toNat / 64) :: c.toNat % 64
      :: sextets rest

/-- The padding behind a last group. -/
def padding : Bytes → List Char
  | [] => []
  | [_] => ['=', '=']
  | [_, _] => ['=']
  | _ :: _ :: _ :: rest => padding rest

theorem encode_eq (bs : Bytes) : encode bs = (sextets bs).map symbol ++ padding bs := by
  induction bs using sextets.induct with
  | case1 | case2 | case3 => rfl
  | case4 a b c rest ih => simp only [encode, sextets, padding, ih, List.map_cons, List.cons_append]

theorem sextets_lt (bs : Bytes) : ∀ n ∈ sextets bs, n < 64 := by
  have octet (a : UInt8) : a.toNat < 256 := a.toNat_lt
  induction bs using sextets.induct with
  | case1 => simp [sextets]
  | case2 a =>
    have ha := octet a
    simp only [sextets, List.forall_mem_cons, List.not_mem_nil, false_implies, implies_true, and_true]
    omega
  | case3 a b =>
    have ha := octet a
    have hb := octet b
    simp only [sextets, List.forall_mem_cons, List.not_mem_nil, false_implies, implies_true, and_true]
    omega
  | case4 a b c rest ih =>
    have ha := octet a
    have hb := octet b
    have hc := octet c
    simp only [sextets, List.forall_mem_cons]
    exact ⟨by omega, by omega, by omega, by omega, ih⟩

/-- The octets that sextets stand for are those that they were made of. -/
theorem octets_sextets (bs : Bytes) : octets (sextets bs) = bs := by
  have octet (a : UInt8) : a.toNat < 256 := a.toNat_lt
  induction bs using sextets.induct with
  | case1 => rfl
  | case2 a =>
    have ha := octet a
    rw [sextets, octets, octet_of_eq (a := a) (by omega)]
  | case3 a b =>
    have ha := octet a
    have hb := octet b
    rw [sextets, octets, octet_of_eq (a := a) (by omega), octet_of_eq (a := b) (by omega)]
  | case4 a b c rest ih =>
    have ha := octet a
    have hb := octet b
    have hc := octet c
    rw [sextets, octets, octet_of_eq (a := a) (by omega), octet_of_eq (a := b) (by omega),
      octet_of_eq (a := c) (by omega), ih]

/-! ## Reading -/

theorem symbol_ne_pad : ∀ n < 64, symbol n ≠ '=' := by decide

theorem symbol_ascii : ∀ n < 64, (symbol n).toNat < 0x80 := by decide

/-- A data character that is not behind padding is taken. -/
theorem read_symbol {n : Nat} (small : n < 64) (data : List Nat) (rest : List Char) :
    read ⟨data, 0, false⟩ (symbol n :: rest) = read ⟨n :: data, 0, false⟩ rest := by
  rw [read, if_neg (symbol_ne_pad n small), value?_symbol n small]
  rfl

/-- Data characters are taken in order. -/
theorem read_symbols {ns : List Nat} (small : ∀ n ∈ ns, n < 64) (data : List Nat) (rest : List Char) :
    read ⟨data, 0, false⟩ (ns.map symbol ++ rest) = read ⟨ns.reverse ++ data, 0, false⟩ rest := by
  induction ns generalizing data with
  | nil => rfl
  | cons n ns ih =>
    rw [List.forall_mem_cons] at small
    rw [List.map_cons, List.cons_append, read_symbol small.1, ih small.2, List.reverse_cons, List.append_assoc]
    rfl

/-- Padding fills the last group up: how much there is depends on the number of sextets alone. -/
theorem read_padding (bs : Bytes) (data : List Nat) (filled : data.length % 4 = (sextets bs).length % 4) :
    read ⟨data, 0, false⟩ (padding bs) = .ok data.reverse := by
  induction bs using sextets.induct with
  | case1 =>
    have none_open : data.length % 4 = 0 := filled
    simp [padding, read, Progress.filled, none_open]
  | case2 a =>
    have two_open : data.length % 4 = 2 := filled
    simp [padding, read, Progress.filled, two_open]
  | case3 a b =>
    have three_open : data.length % 4 = 3 := filled
    simp [padding, read, Progress.filled, three_open]
  | case4 a b c rest ih =>
    have group : (sextets (a :: b :: c :: rest)).length = (sextets rest).length + 4 := rfl
    exact ih (by omega)

theorem read_encode (bs : Bytes) : read ⟨[], 0, false⟩ (encode bs) = .ok (sextets bs) := by
  rw [encode_eq, read_symbols (sextets_lt bs), List.append_nil]
  have padded := read_padding bs (sextets bs).reverse (by rw [List.length_reverse])
  rwa [List.reverse_reverse] at padded

/-! ## Written texts -/

theorem encode_ascii (bs : Bytes) : ∀ c ∈ encode bs, c.toNat < 0x80 := by
  intro c here
  rw [encode_eq, List.mem_append] at here
  rcases here with data | pad
  · obtain ⟨n, there, rfl⟩ := List.mem_map.mp data
    exact symbol_ascii n (sextets_lt bs n there)
  · have only_pads : c = '=' := by
      induction bs using sextets.induct with
      | case1 => simp [padding] at pad
      | case2 | case3 => simpa [padding] using pad
      | case4 a b c rest ih => exact ih pad
    rw [only_pads]
    decide

/-- What is written does not start with padding. -/
theorem encode_head (bs : Bytes) (rest : List Char) : encode bs ≠ '=' :: rest := by
  intro padded
  have small := sextets_lt bs
  rw [encode_eq] at padded
  cases written : sextets bs with
  | nil =>
    -- octets that are written by no sextets are none, and these are not padded
    have none_there : bs = [] := by rw [← octets_sextets bs, written]; rfl
    rw [none_there] at padded
    cases padded
  | cons n ns =>
    rw [written] at padded small
    exact symbol_ne_pad n (small n List.mem_cons_self) (List.head_eq_of_cons_eq padded)

/-- **What was written** is read back. -/
theorem decode_encode (bs : Bytes) : decode (encode bs) = .ok bs := by
  have ascii : (encode bs).any (fun c => 0x80 ≤ c.toNat) = false := by
    rw [List.any_eq_false]
    intro c here
    have small := encode_ascii bs c here
    simpa using small
  unfold decode
  rw [ascii, if_neg (by decide)]
  split
  next rest padded => exact absurd padded (encode_head bs rest)
  · rw [read_encode]
    exact congrArg Except.ok (octets_sextets bs)

end Freebox.Base64
