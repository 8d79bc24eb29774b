import Freebox.Proofs.Attempt.Guarantee
import Freebox.Reply
import Freebox.Resource.Layout

/-!
# `Freebox.Proofs.Envelope.Reading` — where what is read comes from

If a reply is read as an envelope, its status and its body both told success. If a result is read as a record, it was an
object, and its members had what the fields of the layout need.

## Contents
- `Envelope.parse_ok`, `Received.envelope_ok`: envelopes.
- `Layout.decode_ok`, `Layout.decodeFields_cons`, `Field.text_read`: records, their fields, and fields that are texts.
-/

namespace Freebox

/-! ## Envelopes -/

/-- An envelope is read from an object. -/
theorem Envelope.parse_ok {body : Raw} {e : Envelope} (h : Envelope.parse body = .ok e) :
    ∃ ms : Members, Json.read body = .ok (.obj ms) ∧ e = Envelope.ofMembers ms := by
  unfold Envelope.parse at h
  cases read : Json.read body with
  | error failed => simp [read] at h
  | ok v =>
    cases v with
    | obj ms => exact ⟨ms, rfl, by simpa [read] using h.symm⟩
    | _ => simp [read] at h

/-- An envelope comes from a reply whose status and body both tell success. -/
theorem Received.envelope_ok {r : Received} {e : Envelope} (h : r.envelope = .ok e) :
    isSuccess r.status = true ∧ ∃ ms : Members, Json.read (.octets r.body) = .ok (.obj ms) ∧
      ms.get? "success" = some (.bool true) ∧ e = Envelope.ofMembers ms := by
  unfold envelope at h
  cases parsed : Envelope.parse (.octets r.body) with
  | error failed =>
    rw [parsed] at h
    cases h
  | ok told =>
    obtain ⟨ms, read, rfl⟩ := Envelope.parse_ok parsed
    rw [parsed] at h
    dsimp only at h
    by_cases success : (Envelope.ofMembers ms).success = true
    · rw [if_pos success] at h
      by_cases status : isSuccess r.status = true
      · rw [if_pos status] at h
        exact ⟨status, ms, read, of_decide_eq_true success, (Except.ok.inj h).symm⟩
      · rw [if_neg status] at h
        cases h
    · rw [if_neg success] at h
      split at h <;> cases h

/-! ## Records -/

/-- The member of a field that has to be a text. -/
theorem Field.text_read {name : String} {otherwise : Json.Kind → DecodingError} {v : Option Json} {w : Json}
    (h : (Field.text name otherwise).read v = .ok w) : ∃ t, v = some (.str t) ∧ w = .str t := by
  rcases v with _ | v
  · cases h
  · cases v with
    | str t =>
      obtain rfl : Json.str t = w := Except.ok.inj h
      exact ⟨t, rfl, rfl⟩
    | _ => cases h

/-- Fields are read one after the other. -/
theorem Layout.decodeFields_cons {ms fields : Members} {f : Field} {fs : List Field} :
    Layout.decodeFields ms (f :: fs) = .ok fields ↔
      ∃ v rest, f.read (ms.get? f.key) = .ok v ∧ Layout.decodeFields ms fs = .ok rest ∧
        fields = ((f.name : Text), v) :: rest := by
  rw [Layout.decodeFields]
  cases f.read (ms.get? f.key) with
  | error e => simp
  | ok v =>
    cases Layout.decodeFields ms fs with
    | error e => simp
    | ok rest => simp [eq_comm]

/-- A record comes from the members of an object. -/
theorem Layout.decode_ok {l : Layout} {v : Json} {record : Record} (h : l.decode v = .ok record) :
    ∃ ms : Members, v = .obj ms ∧ Layout.decodeFields ms l.fields = .ok record.fields := by
  cases v with
  | obj ms =>
    have members : l.ofMembers ms = .ok record := Attempt.value_of_mapError h
    unfold Layout.ofMembers at members
    cases decoded : Layout.decodeFields ms l.fields with
    | error e =>
      rw [decoded] at members
      cases members
    | ok fields =>
      rw [decoded] at members
      cases members
      exact ⟨ms, rfl, decoded⟩
  | _ => cases h

end Freebox
