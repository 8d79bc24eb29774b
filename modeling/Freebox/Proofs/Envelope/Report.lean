import Freebox.Discovery
import Freebox.Proofs.Envelope.Refusal
import Freebox.Proofs.Network.Asking
import Freebox.Proofs.Resource.Record
import Freebox.Tool.Run

/-!
# `Freebox.Proofs.Envelope.Report` — failures that can be written

The report of a failure has the names of its sort, and its values are words, a status, and the code of a refusal. The
code was read, so it can be written again. The status of a reply is the one thing that is not read by the client; it is
asked of the other side that its statuses have no more digits than are converted.

## Contents
- `Failure.report_names`: the names of a report, and which failures have a `type`.
- `Failure.Reports`: failures whose reports can be written.
- `Peer.Numbered`: the statuses of the other side.
- `Received.envelope_ends`, `Received.description_ends`, `Reply.whole_ends`, `Reply.envelope_ends`: what is read from a
  reply.
-/

namespace Freebox

open Json (SoundMembers soundMembers_iff)

/-! ## Reports -/

namespace Failure

/-- The names of a report are different strings, `error` among them. Those of the errors of the box have `type`. -/
theorem report_names (f : Failure) :
    ∃ names : List String, f.report.map Prod.fst = names.map Text.ofString ∧ names.Nodup ∧ "error" ∈ names ∧
      ("type" ∈ names ↔ f.isBox = true) := by
  cases f with
  | fault f => exact ⟨["error"], rfl, by decide, by decide, by simp [isBox]⟩
  | box e cause =>
    have plain : ["error", "type"].Nodup ∧ "error" ∈ ["error", "type"] := by decide
    cases e with
    | status code body => exact ⟨["error", "type", "status"], rfl, by decide, by decide, by simp [isBox]⟩
    | refusal r =>
      obtain ⟨kind, code, message, uid, status⟩ := r
      have coded : ["error", "type", "error_code"].Nodup := by decide
      have numbered : ["error", "type", "error_code", "status"].Nodup := by decide
      -- a status of nought is left out, like one that is not known
      rcases status with _ | status
      · exact ⟨_, rfl, coded, by simp, by simp [isBox]⟩
      · by_cases nought : status = 0
        · exact ⟨_, by simp [report, BoxError.report, nought], coded, by simp, by simp [isBox]⟩
        · exact ⟨_, by simp [report, BoxError.report, nought], numbered, by simp, by simp [isBox]⟩
    | _ => exact ⟨_, rfl, plain.1, plain.2, by simp [isBox]⟩

/-- The values in the report of a failure can be written. -/
def Reports (f : Failure) : Prop := SoundMembers f.report

theorem reports_fault (f : Fault) : (fault f).Reports := ⟨trivial, trivial⟩

/-- How a failure came about does not matter. -/
theorem Reports.caused {e : BoxError} {cause : Option BoxError} (h : (box e cause).Reports) (other : Option BoxError) :
    (box e other).Reports := h

/-- A failure to read a result is told in words. -/
theorem OfReading.reports {f : Failure} (h : f.OfReading) : f.Reports := by
  cases f with
  | fault f => exact reports_fault f
  | box e cause =>
    cases e with
    | decoding e => exact ⟨trivial, trivial, trivial⟩
    | _ => cases h

end Failure

theorem EndsIn.reported {α : Type} {good : α → Prop} {x : Except Failure α} (h : EndsIn good Failure.OfReading x) :
    EndsIn good Failure.Reports x :=
  h.imp (fun _ => id) fun _ => Failure.OfReading.reports

/-! ## Replies -/

/-- The statuses of the other side have no more digits than are converted; those of HTTP have three. -/
def Peer.Numbered (peer : Peer) : Prop :=
  ∀ before r response, peer.reply before r = .received response → (Json.int response.status).Sound

/-- A request that was not completed is told in words. -/
theorem Request.failed_reports (r : Request) (e : TransportError) : (r.failed e).Reports := by
  unfold Request.failed
  split <;> exact ⟨trivial, trivial, trivial⟩

/-- The refusal of an envelope can be written if its code and its status can. -/
theorem Envelope.refused_reports {e : Envelope} (code : e.errorCode.Sound) {status : Int}
    (numbered : (Json.int status).Sound) : (e.refused (some status)).Reports := by
  unfold Envelope.refused
  cases RefusalKind.ofCode e.errorCode with
  | error f => exact Failure.reports_fault f
  | ok kind =>
    refine ⟨trivial, trivial, code, ?_⟩
    by_cases nought : status = 0
    · simp [nought, Json.SoundMembers]
    · simpa [nought, Json.SoundMembers] using numbered

/-- The result and the code of an envelope were read, so they can be written. -/
theorem Envelope.parse_sound (body : Raw) :
    Yields (fun e : Envelope => e.result.Sound ∧ e.errorCode.Sound) (Envelope.parse body) := by
  have read := Json.read_sound body
  unfold Envelope.parse
  cases told : Json.read body with
  | error e => exact trivial
  | ok v =>
    have sound := read.value told
    cases v with
    | obj ms =>
      have members := soundMembers_iff.mp sound.2
      exact ⟨Members.get_all members trivial _, Members.get_all members trivial _⟩
    | _ => exact trivial

namespace Received

variable {r : Received} (numbered : (Json.int r.status).Sound)
include numbered

theorem statusFailure_reports (cause : Option BoxError) : (r.statusFailure cause).Reports := by
  unfold statusFailure
  cases r.text with
  | ok body => exact ⟨trivial, trivial, numbered, trivial⟩
  | error f => exact Failure.reports_fault f

/-- **A reply** is an envelope whose result can be written, or a failure that can be reported. -/
theorem envelope_ends : EndsIn (fun e => e.result.Sound) Failure.Reports r.envelope := by
  have read := Envelope.parse_sound (.octets r.body)
  unfold envelope
  cases parsed : Envelope.parse (.octets r.body) with
  | error e =>
    cases success : isSuccess r.status with
    | true => exact ⟨trivial, trivial, trivial⟩
    | false => exact statusFailure_reports numbered _
  | ok e =>
    obtain ⟨result, code⟩ := read.value parsed
    dsimp only
    split
    · split
      · exact result
      · exact statusFailure_reports numbered none
    · split
      · exact statusFailure_reports numbered none
      · exact Envelope.refused_reports code numbered

/-- So is the description of a box. -/
theorem description_ends : EndsIn (fun record => record.toJson.IsResult) Failure.Reports r.description := by
  unfold description
  split
  · have read := Json.read_sound (.octets r.body)
    cases told : Json.read (.octets r.body) with
    | error e =>
      cases r.text with
      | ok body => exact ⟨trivial, trivial, trivial⟩
      | error f => exact Failure.reports_fault f
    | ok v =>
      have reports := Resource.apiVersion_reports
      have record := (Layout.decode_keeps reports.toKeeps (read.value told)).reported
      exact record.imp (fun _ follows => follows.result reports) fun _ => id
  · exact statusFailure_reports numbered none

end Received

namespace Reply

variable {reply : Reply} (r : Request)
  (numbered : ∀ response, reply = .received response → (Json.int response.status).Sound)
include numbered

theorem whole_ends : EndsIn (fun received => (Json.int received.status).Sound) Failure.Reports (reply.whole r) := by
  cases reply with
  | failed e => exact r.failed_reports e
  | received response =>
    show EndsIn _ _ (response.whole.mapError r.failed)
    unfold Response.whole
    cases response.broken with
    | some e => exact r.failed_reports e
    | none => exact numbered response rfl

theorem envelope_ends : EndsIn (fun e => e.result.Sound) Failure.Reports (reply.envelope r) :=
  (whole_ends r numbered).bind fun _ => Received.envelope_ends

end Reply

end Freebox
