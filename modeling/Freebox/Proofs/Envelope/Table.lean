import Freebox.Proofs.Envelope.Reading
import Freebox.Proofs.Envelope.Refusal

/-!
# `Freebox.Proofs.Envelope.Table` — the table of replies

Three facts decide what a reply is: whether its status tells success, what object its body is if it is one, and whether
that object reports success, or has a code or a message. The table has one row for each way that these meet. Where
nothing but the status is left to be told, the body is told with it as a text, and a body without a text is a fault.

## Contents
- `Received.Holds`, `Received.Reported`, `Received.parse_error_iff`: the object that a body is, if it is one.
- `Received.envelope_garbled`, `Received.envelope_reported`: replies whose body is no object, or reports success.
- `Received.OnlyStatus`: when nothing but the status is left to be told.
- `Received.Row`, `Received.row_iff`: the table, and that it tells what a reply is.
- `Received.text_of_untyped`: bodies that have a text in any case.
- `Received.envelope_table`: when a reply is an envelope, an error of decoding, a status, or a refusal.
- `Received.unmarked_body_fault`: a body without a text.
-/

namespace Freebox

namespace Received

variable {r : Received} {ms : Members}

/-! ## Bodies -/

/-- The body of a reply is an object with these members. -/
def Holds (r : Received) (ms : Members) : Prop := Json.read (.octets r.body) = .ok (.obj ms)

/-- An object reports success. -/
def Reported (ms : Members) : Prop := ms.get? "success" = some (.bool true)

theorem Holds.parse (h : r.Holds ms) : Envelope.parse (.octets r.body) = .ok (Envelope.ofMembers ms) := by
  unfold Holds at h
  rw [Envelope.parse, h]

/-- A body is no envelope if and only if it is no object. -/
theorem parse_error_iff :
    (∃ e, Envelope.parse (.octets r.body) = .error e) ↔ ∀ ms, ¬ r.Holds ms := by
  constructor
  · rintro ⟨e, failed⟩ ms holds
    rw [holds.parse] at failed
    cases failed
  · intro none_held
    unfold Envelope.parse
    cases read : Json.read (.octets r.body) with
    | error e => exact ⟨_, rfl⟩
    | ok v =>
      cases v with
      | obj ms => exact absurd read (none_held ms)
      | _ => exact ⟨_, rfl⟩

/-! ## Bodies and statuses -/

/-- A body that is no object is an error of decoding, or leaves the status to be told. -/
theorem envelope_garbled {e : DecodingError} (parsed : Envelope.parse (.octets r.body) = .error e) :
    r.envelope = .error (if isSuccess r.status then .ofDecoding e else r.statusFailure (some (.decoding e))) := by
  unfold envelope
  rw [parsed]

/-- An object that reports success is an envelope, or leaves the status to be told. -/
theorem envelope_reported (holds : r.Holds ms) (reported : Reported ms) :
    r.envelope = if isSuccess r.status then .ok (Envelope.ofMembers ms) else .error (r.statusFailure none) := by
  have success : (Envelope.ofMembers ms).success = true := decide_eq_true reported
  unfold envelope
  rw [holds.parse]
  dsimp only
  rw [if_pos success]

/-! ## The table -/

/-- Nothing but the status is left to be told: the body is no object, which is then the cause, or it reports a success
against the status, or it has no code and no message. -/
inductive OnlyStatus (r : Received) : Option BoxError → Prop
  | garbled {e : DecodingError} (parsed : Envelope.parse (.octets r.body) = .error e) :
    OnlyStatus r (some (.decoding e))
  | success {ms : Members} (holds : r.Holds ms) (reported : Reported ms) : OnlyStatus r none
  | bare {ms : Members} (holds : r.Holds ms) (code : ms.get "error_code" = .null) (message : ms.get "msg" = .null) :
    OnlyStatus r none

/-- What a reply is by its status and its body. -/
inductive Row (r : Received) : Except Failure Envelope → Prop
  | success {ms : Members} (told : isSuccess r.status = true) (holds : r.Holds ms) (reported : Reported ms) :
    Row r (.ok (Envelope.ofMembers ms))
  | garbled {e : DecodingError} (told : isSuccess r.status = true)
      (parsed : Envelope.parse (.octets r.body) = .error e) : Row r (.error (.ofDecoding e))
  | status {cause : Option BoxError} (failed : isSuccess r.status = false) (only : r.OnlyStatus cause) :
    Row r (.error (r.statusFailure cause))
  | refused {ms : Members} (holds : r.Holds ms) (unreported : ¬ Reported ms) (full : ¬ r.Bare ms) :
    Row r (.error ((Envelope.ofMembers ms).refused (some r.status)))

/-- Every reply is in the table. -/
theorem row (r : Received) : r.Row r.envelope := by
  cases parsed : Envelope.parse (.octets r.body) with
  | error e =>
    rw [envelope_garbled parsed]
    cases told : isSuccess r.status with
    | true => exact .garbled told parsed
    | false => exact .status told (.garbled parsed)
  | ok e =>
    obtain ⟨ms, holds, rfl⟩ := Envelope.parse_ok parsed
    by_cases reported : Reported ms
    · rw [envelope_reported holds reported]
      cases told : isSuccess r.status with
      | true => exact .success told holds reported
      | false => exact .status told (.success holds reported)
    · rw [envelope_refused holds reported]
      by_cases bare : r.Bare ms
      · rw [if_pos bare]
        exact .status bare.1 (.bare holds bare.2.1 bare.2.2)
      · rw [if_neg bare]
        exact .refused holds reported bare

/-- Where only the status is left, the reply is what the status tells. -/
theorem OnlyStatus.envelope {cause : Option BoxError} (only : r.OnlyStatus cause)
    (failed : isSuccess r.status = false) : r.envelope = .error (r.statusFailure cause) := by
  cases only with
  | garbled parsed =>
    rw [envelope_garbled parsed, failed]
    rfl
  | success holds reported =>
    rw [envelope_reported holds reported, failed]
    rfl
  | @bare ms holds code message =>
    -- without a code and a message it does not matter whether success is reported
    by_cases reported : Reported ms
    · rw [envelope_reported holds reported, failed]
      rfl
    · rw [envelope_refused holds reported, if_pos ⟨failed, code, message⟩]

/-- Every row tells what the reply is. -/
theorem Row.envelope {x : Except Failure Envelope} (row : r.Row x) : r.envelope = x := by
  cases row with
  | success told holds reported => rw [envelope_reported holds reported, if_pos told]
  | garbled told parsed => rw [envelope_garbled parsed, if_pos told]
  | status failed only => exact only.envelope failed
  | refused holds unreported full => rw [envelope_refused holds unreported, if_neg full]

/-- So a reply is what its row tells, and nothing else. -/
theorem row_iff {x : Except Failure Envelope} : r.Row x ↔ r.envelope = x :=
  ⟨Row.envelope, fun same => same ▸ r.row⟩

/-! ## Failures told apart -/

theorem statusFailure_status_iff {cause told : Option BoxError} {status : Int} {body : Text} :
    r.statusFailure cause = .box (.status status body) told ↔
      status = r.status ∧ r.text = .ok body ∧ told = cause := by
  unfold statusFailure
  cases r.text <;> simp [eq_comm, and_assoc]

theorem statusFailure_not_decoding {cause told : Option BoxError} {e : DecodingError} :
    r.statusFailure cause ≠ .box (.decoding e) told := by
  unfold statusFailure
  cases r.text <;> simp

/-- A refusal is told as one, if it is no fault. -/
theorem refused_box {e : Envelope} {status : Option Int} {told : BoxError} {cause : Option BoxError}
    (h : e.refused status = .box told cause) : ∃ refusal, told = .refusal refusal := by
  unfold Envelope.refused at h
  cases code : RefusalKind.ofCode e.errorCode with
  | ok kind =>
    rw [code] at h
    injection h with same
    exact ⟨_, same.symm⟩
  | error f =>
    rw [code] at h
    cases h

/-- A body has a text if it is empty, or if no media type is told for it. -/
theorem text_of_untyped (h : r.body = [] ∨ header? r.headers "content-type" = none) : ∃ body, r.text = .ok body := by
  unfold text
  by_cases empty : r.body = []
  · exact ⟨"", by rw [if_pos empty]⟩
  · have untyped := h.resolve_left empty
    exact ⟨Charset.utf8.lenient r.body, by rw [if_neg empty, untyped]; rfl⟩

/-- An error of decoding is that of a body that is no object, with a status that tells success. -/
theorem envelope_decoding_iff :
    (∃ e cause, r.envelope = .error (.box (.decoding e) cause)) ↔
      isSuccess r.status = true ∧ ∀ ms, ¬ r.Holds ms := by
  constructor
  · rintro ⟨e, cause, same⟩
    generalize value : Except.error (Failure.box (.decoding e) cause) = x at same
    cases row_iff.mpr same with
    | success => cases value
    | garbled told parsed => exact ⟨told, parse_error_iff.mp ⟨_, parsed⟩⟩
    | status => exact absurd (Except.error.inj value).symm statusFailure_not_decoding
    | refused =>
      obtain ⟨refusal, other⟩ := refused_box (Except.error.inj value).symm
      cases other
  · rintro ⟨told, none_held⟩
    obtain ⟨e, parsed⟩ := parse_error_iff.mpr none_held
    exact ⟨e, none, (Row.garbled told parsed).envelope⟩

/-- A status is told if nothing else is left to be told, and the body has a text. -/
theorem envelope_status_iff {status : Int} {body : Text} {cause : Option BoxError} :
    r.envelope = .error (.box (.status status body) cause) ↔
      status = r.status ∧ r.text = .ok body ∧ isSuccess r.status = false ∧ r.OnlyStatus cause := by
  constructor
  · intro same
    generalize value : Except.error (Failure.box (.status status body) cause) = x at same
    cases row_iff.mpr same with
    | success => cases value
    | garbled => cases value
    | status failed only =>
      obtain ⟨known, text, rfl⟩ := statusFailure_status_iff.mp (Except.error.inj value).symm
      exact ⟨known, text, failed, only⟩
    | refused =>
      obtain ⟨refusal, other⟩ := refused_box (Except.error.inj value).symm
      cases other
  · rintro ⟨known, text, failed, only⟩
    rw [only.envelope failed, statusFailure_status_iff.mpr ⟨known, text, rfl⟩]

/-! ## All of it -/

/-- **The table of replies.** A reply is an envelope if and only if its status tells success and its body is an object
that reports success. It is an error of decoding if and only if its status tells success and its body is no object. It
is a status, with the text of the body, if and only if its status tells no success, nothing else is left to be told, and
the body has a text; without a text it is a fault there. A body has a text if it is empty, or if no media type is told
for it. In all other cases a reply is what its envelope is as a refusal. So no success comes with a status that tells
none. -/
theorem envelope_table (r : Received) :
    (∀ e, r.envelope = .ok e ↔
      isSuccess r.status = true ∧ ∃ ms, r.Holds ms ∧ Reported ms ∧ e = Envelope.ofMembers ms) ∧
    ((∃ e cause, r.envelope = .error (.box (.decoding e) cause)) ↔
      isSuccess r.status = true ∧ ∀ ms, ¬ r.Holds ms) ∧
    (∀ status body cause, r.envelope = .error (.box (.status status body) cause) ↔
      status = r.status ∧ r.text = .ok body ∧ isSuccess r.status = false ∧ r.OnlyStatus cause) ∧
    (∀ cause f, isSuccess r.status = false → r.OnlyStatus cause → r.text = .error f →
      r.envelope = .error (.fault f)) ∧
    (r.body = [] ∨ header? r.headers "content-type" = none → ∃ body, r.text = .ok body) ∧
    (∀ ms, r.Holds ms → ¬ Reported ms →
      (isSuccess r.status = true ∨ ms.get "error_code" ≠ .null ∨ ms.get "msg" ≠ .null) →
      r.envelope = .error ((Envelope.ofMembers ms).refused (some r.status))) ∧
    (isSuccess r.status = false → ∀ e, r.envelope ≠ .ok e) := by
  refine ⟨fun e => ?success, envelope_decoding_iff, fun status body cause => envelope_status_iff,
    fun cause f failed only text => ?fault, text_of_untyped, fun ms holds unreported rest => ?refused,
    fun failed e same => ?failed⟩
  case success =>
    constructor
    · exact envelope_ok
    · rintro ⟨told, ms, holds, reported, rfl⟩
      exact (Row.success told holds reported).envelope
  case fault => rw [only.envelope failed, statusFailure, text]
  case refused =>
    refine (Row.refused holds unreported fun bare => ?_).envelope
    rcases rest with told | code | message
    · rw [bare.1] at told
      cases told
    · exact code bare.2.1
    · exact message bare.2.2
  case failed =>
    rw [(envelope_ok same).1] at failed
    cases failed

/-- A page in UTF-16 without a mark has no text, so its status is not told. -/
theorem unmarked_body_fault :
    let body : Bytes := "Bad Gateway".toList.flatMap fun c => [0x00, UInt8.ofNat c.toNat]
    let r : Received := ⟨502, [("Content-Type", "text/html; charset=utf-16")], body⟩
    isSuccess r.status = false ∧ (∀ ms, ¬ r.Holds ms) ∧ r.envelope = .error (.fault (.unmarked 16)) := by
  intro body r
  refine ⟨by decide, ?_, Attempt.failed_of_decide ?_⟩
  · rw [← parse_error_iff]
    have failed : (Envelope.parse (.octets r.body)).toOption = none := by decide +kernel
    cases parsed : Envelope.parse (.octets r.body) with
    | error e => exact ⟨e, rfl⟩
    | ok e => simp [parsed, Except.toOption] at failed
  · decide +kernel

end Received

end Freebox
