import Freebox.Endpoint
import Mathlib.Data.List.DropRight

/-!
# `Freebox.Proofs.Network.Endpoint` — what addresses are normalized to

An address gets a scheme if it has none, and then the solidi at its end are dropped. If the address names a host, that
leaves a scheme with something behind it, and doing it again changes nothing. If it names none, then the solidi of the
scheme are dropped as well: what is left is the name of the scheme with its colon. That does not count as a scheme, so
doing it again puts another one in front.

## Contents
- `Scheme`: the schemes of addresses, and those of channels. `Hostless`: addresses that name no host.
- `withoutSlashes_append`, `withoutSlashes_front`: what is dropped at the end of an address.
- `normalize_hostless`, `normalize_hosted`: the two kinds of endpoints. `normalize_end`: how no endpoint ends.
- `Hosted`, `hosted_normalize_iff`, `normalize_again_iff`: what becomes of addresses that name a host, and only of them.
- `channel_scheme`: the address of a channel.
-/

namespace Freebox.Endpoint

/-! ## Schemes -/

/-- The schemes of addresses. -/
inductive Scheme where
  | http
  | https
  deriving DecidableEq, Repr

namespace Scheme

/-- The name of a scheme. -/
def name : Scheme → String
  | http => "http"
  | https => "https"

/-- The name of the scheme of channels that goes with a scheme. -/
def channel : Scheme → String
  | http => "ws"
  | https => "wss"

/-- What an address of a scheme starts by. -/
def front (s : Scheme) : String := s.name ++ "://"

end Scheme

/-- So many solidi. -/
def slashes (n : Nat) : String := String.ofList (List.replicate n '/')

/-- An address names no host: there are solidi at most, alone or behind a scheme. -/
def Hostless (address : String) : Prop := ∃ n, address = slashes n ∨ ∃ s : Scheme, address = s.front ++ slashes n

variable {address : String} {s t : Scheme} {cs rest other : List Char}

theorem front_toList : s.front.toList = s.name.toList ++ [':', '/', '/'] := by cases s <;> rfl

theorem hasScheme_iff : hasScheme cs = true ↔ ∃ (s : Scheme) (rest : List Char), cs = s.front.toList ++ rest := by
  unfold hasScheme
  rw [Bool.or_eq_true, List.isPrefixOf_iff_prefix, List.isPrefixOf_iff_prefix]
  constructor
  · rintro (⟨rest, same⟩ | ⟨rest, same⟩)
    · exact ⟨.http, rest, same.symm⟩
    · exact ⟨.https, rest, same.symm⟩
  · rintro ⟨s, rest, rfl⟩
    cases s with
    | http => exact Or.inl ⟨rest, rfl⟩
    | https => exact Or.inr ⟨rest, rfl⟩

/-- What is behind the scheme of an address is known from the address. -/
theorem front_inj (same : s.front.toList ++ rest = t.front.toList ++ other) : rest = other := by
  cases s with
  | http =>
    cases t with
    | http => exact List.append_cancel_left same
    | https => simp [front_toList, Scheme.name] at same
  | https =>
    cases t with
    | http => simp [front_toList, Scheme.name] at same
    | https => exact List.append_cancel_left same

/-! ## Addresses that name no host -/

theorem all_slashes_iff : (∀ c ∈ cs, c = '/') ↔ ∃ n, cs = List.replicate n '/' := by
  constructor
  · intro all
    exact ⟨cs.length, List.eq_replicate_iff.mpr ⟨rfl, all⟩⟩
  · rintro ⟨n, rfl⟩ c here
    exact List.eq_of_mem_replicate here

/-- An address with a scheme names no host if nothing but solidi follow. -/
theorem hostless_front (whole : address.toList = s.front.toList ++ rest) : Hostless address ↔ ∀ c ∈ rest, c = '/' := by
  rw [all_slashes_iff]
  unfold Hostless
  refine exists_congr fun n => ⟨?_, fun same => Or.inr ⟨s, ?_⟩⟩
  · rintro (alone | ⟨t, behind⟩)
    · -- a scheme has letters
      have letter : 'h' ∈ address.toList := by
        rw [whole]
        cases s <;> simp [front_toList, Scheme.name]
      rw [alone, slashes, String.toList_ofList] at letter
      exact absurd (List.eq_of_mem_replicate letter) (by decide)
    · rw [behind, slashes, String.toList_append, String.toList_ofList] at whole
      exact (front_inj whole).symm
  · rw [← String.toList_inj, whole, same, slashes, String.toList_append, String.toList_ofList]

/-- An address without a scheme names no host if there is nothing in it but solidi. -/
theorem hostless_bare (bare : hasScheme address.toList = false) : Hostless address ↔ ∀ c ∈ address.toList, c = '/' := by
  rw [all_slashes_iff]
  unfold Hostless
  refine exists_congr fun n => ⟨?_, fun same => Or.inl ?_⟩
  · rintro (alone | ⟨s, behind⟩)
    · rw [alone, slashes, String.toList_ofList]
    · have scheme : hasScheme address.toList = true := by
        rw [hasScheme_iff, behind, String.toList_append]
        exact ⟨s, _, rfl⟩
      rw [bare] at scheme
      cases scheme
  · rw [← String.toList_inj, same, slashes, String.toList_ofList]

/-! ## The end of an address -/

theorem withoutSlashes_append (xs : List Char) {ys : List Char} (other : ¬ ∀ c ∈ ys, c = '/') :
    withoutSlashes (xs ++ ys) = xs ++ withoutSlashes ys := by
  have kept : ¬ (ys.reverse.dropWhile (fun c => decide (c = '/'))).isEmpty = true := by
    simpa using other
  unfold withoutSlashes
  rw [List.reverse_append, List.dropWhile_append, if_neg kept, List.reverse_append, List.reverse_reverse]

theorem withoutSlashes_append_slashes (xs : List Char) {ys : List Char} (all : ∀ c ∈ ys, c = '/') :
    withoutSlashes (xs ++ ys) = withoutSlashes xs := by
  have dropped : (ys.reverse.dropWhile (fun c => decide (c = '/'))).isEmpty = true := by
    simpa using all
  unfold withoutSlashes
  rw [List.reverse_append, List.dropWhile_append, if_pos dropped]

theorem withoutSlashes_again (cs : List Char) : withoutSlashes (withoutSlashes cs) = withoutSlashes cs :=
  List.rdropWhile_idempotent _ cs

/-- The solidi of a scheme are dropped as well if there is nothing else behind it. -/
theorem withoutSlashes_front (s : Scheme) (all : ∀ c ∈ rest, c = '/') :
    withoutSlashes (s.front.toList ++ rest) = s.name.toList ++ [':'] := by
  rw [withoutSlashes_append_slashes _ all]
  cases s <;> rfl

/-- No solidus is left at the end. -/
theorem withoutSlashes_end (cs front : List Char) : withoutSlashes cs ≠ front ++ ['/'] := by
  intro ends
  have kept := withoutSlashes_again cs
  rw [ends, withoutSlashes_append_slashes front (by simp)] at kept
  have shorter : (withoutSlashes front).length ≤ front.length := (List.rdropWhile_prefix _ front).length_le
  have lengths := congrArg List.length kept
  rw [List.length_append, List.length_singleton] at lengths
  omega

/-! ## Endpoints -/

/-- An endpoint has a scheme with something behind it. -/
def Hosted (endpoint : String) : Prop := ∃ (s : Scheme) (rest : String), rest ≠ "" ∧ endpoint = s.front ++ rest

/-- An address with a scheme is only shortened. -/
theorem normalize_front (s : Scheme) (rest : List Char) :
    normalize (s.front ++ String.ofList rest) = String.ofList (withoutSlashes (s.front.toList ++ rest)) := by
  have scheme : hasScheme (s.front.toList ++ rest) = true := hasScheme_iff.mpr ⟨s, rest, rfl⟩
  unfold normalize
  dsimp only
  rw [String.toList_append, String.toList_ofList, if_pos scheme]

/-- An address is shortened behind its scheme, the one that it has or the one that is meant. -/
theorem normalize_split (address : String) :
    ∃ (s : Scheme) (rest : List Char), normalize address = String.ofList (withoutSlashes (s.front.toList ++ rest)) ∧
      (Hostless address ↔ ∀ c ∈ rest, c = '/') := by
  unfold normalize
  dsimp only
  cases scheme : hasScheme address.toList with
  | true =>
    obtain ⟨s, rest, whole⟩ := hasScheme_iff.mp scheme
    exact ⟨s, rest, by rw [if_pos rfl, whole], hostless_front whole⟩
  | false => exact ⟨.http, address.toList, rfl, hostless_bare scheme⟩

/-- **The endpoint of an address that names no host** is the name of a scheme with a colon. -/
theorem normalize_hostless (hostless : Hostless address) : ∃ s : Scheme, normalize address = s.name ++ ":" := by
  obtain ⟨s, rest, shortened, all⟩ := normalize_split address
  refine ⟨s, ?_⟩
  rw [shortened, withoutSlashes_front s (all.mp hostless), String.ofList_append, String.ofList_toList]

/-- **The endpoint of an address that names a host** is a scheme and something behind it that is not shortened again. -/
theorem normalize_hosted (hosted : ¬ Hostless address) :
    ∃ (s : Scheme) (rest : List Char), withoutSlashes rest = rest ∧ rest ≠ [] ∧
      normalize address = s.front ++ String.ofList rest := by
  obtain ⟨s, rest, shortened, all⟩ := normalize_split address
  rw [all] at hosted
  refine ⟨s, withoutSlashes rest, withoutSlashes_again rest, ?_, ?_⟩
  · intro dropped
    have slashes := List.rdropWhile_eq_nil_iff.mp dropped
    exact hosted fun c here => by simpa using slashes c here
  · rw [shortened, withoutSlashes_append _ hosted, String.ofList_append, String.ofList_toList]

theorem hosted_normalize_iff (address : String) : Hosted (normalize address) ↔ ¬ Hostless address := by
  constructor
  · rintro ⟨s, rest, -, whole⟩ hostless
    obtain ⟨t, short⟩ := normalize_hostless hostless
    have chars := congrArg String.toList (short.symm.trans whole)
    rw [String.toList_append, String.toList_append, front_toList] at chars
    -- what is left of the other scheme ends by its colon
    cases s <;> cases t <;> simp [Scheme.name] at chars
  · intro hosted
    obtain ⟨s, rest, -, filled, whole⟩ := normalize_hosted hosted
    refine ⟨s, String.ofList rest, ?_, whole⟩
    intro empty
    exact filled (by simpa using congrArg String.toList empty)

/-- No endpoint ends by a solidus. -/
theorem normalize_end (address front : String) : normalize address ≠ front ++ "/" := by
  obtain ⟨s, rest, shortened, -⟩ := normalize_split address
  intro ends
  have chars := congrArg String.toList (shortened.symm.trans ends)
  rw [String.toList_ofList, String.toList_append] at chars
  exact withoutSlashes_end _ _ chars

/-- **Endpoints are their own endpoints**, if they are those of addresses that name a host. -/
theorem normalize_again_iff (address : String) :
    normalize (normalize address) = normalize address ↔ ¬ Hostless address := by
  constructor
  · intro again hostless
    obtain ⟨s, short⟩ := normalize_hostless hostless
    rw [short] at again
    cases s with
    | http => exact absurd again (by decide +kernel)
    | https => exact absurd again (by decide +kernel)
  · intro hosted
    obtain ⟨s, rest, kept, filled, whole⟩ := normalize_hosted hosted
    have some_other : ¬ ∀ c ∈ rest, c = '/' := by
      intro all
      have dropped : withoutSlashes rest = [] :=
        List.rdropWhile_eq_nil_iff.mpr fun c here => by simpa using all c here
      exact filled (kept.symm.trans dropped)
    rw [whole, normalize_front, withoutSlashes_append _ some_other, kept, String.ofList_append, String.ofList_toList]

/-! ## Channels -/

/-- An endpoint starts by the name of a scheme, whatever is left of the address. -/
theorem normalize_scheme (address : String) :
    ∃ (s : Scheme) (rest : String), normalize address = s.name ++ ":" ++ rest := by
  by_cases hostless : Hostless address
  · obtain ⟨s, short⟩ := normalize_hostless hostless
    exact ⟨s, "", by rw [short, String.append_empty]⟩
  · obtain ⟨s, rest, -, -, whole⟩ := normalize_hosted hostless
    refine ⟨s, "//" ++ String.ofList rest, ?_⟩
    rw [whole, ← String.append_assoc]
    cases s <;> rfl

/-- **The address of a channel** has the scheme of channels, and is the same otherwise. -/
theorem channel_scheme (s : Scheme) (rest : String) : channel (s.name ++ ":" ++ rest) = s.channel ++ ":" ++ rest := by
  unfold channel
  rw [← String.toList_inj]
  simp only [String.toList_append]
  cases s <;> simp [Scheme.name, Scheme.channel]

end Freebox.Endpoint
