import Freebox.Proofs.Envelope.Reading
import Freebox.Proofs.Session.Course

/-!
# `Freebox.Proofs.Session.Download` — files and calls that meet with the same reply

The content of a file is asked for by a path of its own: its reply is streamed, and looked at only if its status tells
no success. What is told then is what a plain call tells of such a reply, to the last detail, so a rejected session
shows itself on both, and is renewed on both. With a status that tells success the body is left alone, and a file is
told if the headers have a name to read, or none.

## Contents
- `Received.envelope_unsuccessful`, `Received.envelope_congr`: replies that tell no success, by what they are read from.
- `rejects`, `Received.envelope_rejects`: a rejection is told by status and body.
- `Response.filename`, `openFile_apply`: one attempt, by its reply.
- `renews_iff`: when an operation goes through a renewal.
- `openFile_told`: files against calls.
-/

namespace Freebox

/-! ## Replies that tell no success -/

namespace Received

/-- A status that tells no success is never told as an envelope. -/
theorem envelope_unsuccessful {r : Received} (failed : isSuccess r.status = false) : ∃ f, r.envelope = .error f := by
  cases told : r.envelope with
  | error f => exact ⟨f, rfl⟩
  | ok e =>
    have success := (envelope_ok told).1
    rw [failed] at success
    cases success

/-- What a reply tells is read from its status, its body and its media type, and from nothing else. -/
theorem envelope_congr {r q : Received} (status : q.status = r.status) (body : q.body = r.body)
    (type : header? q.headers "content-type" = header? r.headers "content-type") : q.envelope = r.envelope := by
  have text : q.text = r.text := by
    unfold text
    rw [body, type]
  have failure : q.statusFailure = r.statusFailure := by
    funext cause
    unfold statusFailure
    rw [status, text]
  unfold envelope
  rw [status, body, failure]

end Received

/-- Whether an outcome is a rejection of the session. -/
def rejects {α : Type} : Except Failure α → Bool
  | .ok _ => false
  | .error f => f.isRejection

namespace Received

/-- A bare status is no rejection, whatever the text of the body. -/
theorem statusFailure_isRejection (r : Received) (cause : Option BoxError) :
    (r.statusFailure cause).isRejection = false := by
  unfold statusFailure
  cases r.text <;> rfl

/-- Whether a reply rejects the session is read from its status and its body. -/
theorem envelope_rejects {r q : Received} (status : q.status = r.status) (body : q.body = r.body) :
    rejects q.envelope = rejects r.envelope := by
  unfold envelope
  rw [status, body]
  -- the replies differ in the texts of bare statuses only, and these are no rejections
  cases Envelope.parse (.octets r.body) with
  | error e => cases isSuccess r.status <;> simp [rejects, statusFailure_isRejection]
  | ok e =>
    by_cases reported : e.success = true
    · cases isSuccess r.status <;> simp [rejects, reported, statusFailure_isRejection]
    · by_cases bare : (!isSuccess r.status && !e.hasErrorDetails) = true
      · simp [rejects, reported, bare, statusFailure_isRejection]
      · simp [rejects, reported, bare]

end Received

/-! ## One attempt -/

/-- A reply as it is once its body was read whole. -/
def Response.entire (r : Response) : Received := ⟨r.status, r.headers, r.chunks.flatten⟩

theorem Response.whole_of_arrived {r : Response} (arrived : r.broken = none) : r.whole = .ok r.entire := by
  rw [whole, arrived]
  rfl

/-- The name of the file in a reply, if it has one and the headers that should tell it can be read. -/
def Response.filename (r : Response) : Except Fault (Option Text) :=
  Mime.filename (header? r.headers "content-disposition") (header? r.headers "content-type")

theorem FileContent.ofResponse_of_ok {r : Response} {name : Option Text} (named : r.filename = .ok name) :
    ∃ file, ofResponse r = .ok file ∧ file.filename = name ∧ file.chunks = r.chunks ∧ file.broken = r.broken ∧
      file.consumed = false ∧ file.released = false := by
  unfold ofResponse
  unfold Response.filename at named
  dsimp only
  rw [named]
  exact ⟨_, rfl, rfl, rfl, rfl, rfl, rfl⟩

theorem FileContent.ofResponse_of_error {r : Response} {f : Fault} (unnamed : r.filename = .error f) :
    ofResponse r = .error (.fault f) := by
  unfold ofResponse
  unfold Response.filename at unnamed
  dsimp only
  rw [unnamed]

section
variable {path : String} {token : Text} {s : State} {r : Response}

theorem transmit_received {request : Request} (answered : s.answer request = .received r) :
    transmit request s = (.ok r, s.did (.request request)) := by
  rw [transmit_apply, answered]
  rfl

/-- A status that tells success leaves the body alone. -/
theorem openFile_success (answered : s.answer (s.client.fileRequest path token) = .received r)
    (success : isSuccess r.status = true) :
    openFile path token s = (FileContent.ofResponse r, s.did (.request (s.client.fileRequest path token))) := by
  unfold openFile
  rw [Attempt.bind_of_ok (Attempt.state_apply s), Attempt.bind_of_ok (transmit_received answered), if_pos success]
  rfl

/-- With any other status the body is read and released, and the error in it is told. -/
theorem openFile_unsuccessful (answered : s.answer (s.client.fileRequest path token) = .received r)
    (arrived : r.broken = none) (failed : isSuccess r.status = false) {f : Failure}
    (told : r.entire.envelope = .error f) :
    openFile path token s
      = (.error f, ((s.did (.request (s.client.fileRequest path token))).did .readBody).did .releaseBody) := by
  have whole : r.whole.mapError (s.client.fileRequest path token).failedBody = .ok r.entire := by
    rw [Response.whole_of_arrived arrived]
    rfl
  unfold openFile
  rw [Attempt.bind_of_ok (Attempt.state_apply s), Attempt.bind_of_ok (transmit_received answered),
    if_neg (by rw [failed]; exact Bool.false_ne_true), Attempt.bind_of_ok (Attempt.update_apply _ _), whole,
    Attempt.bind_of_ok (Attempt.lift_apply _ _), told]
  exact Attempt.bind_of_error (Attempt.lift_apply _ _)

/-- A plain call that meets with a whole reply ends in what the envelope is. -/
theorem perform_received {method : String} {path : Text} {token : Option Text} {parcel : Parcel}
    (answered : s.answer (s.client.request method path token parcel) = .received r) (arrived : r.broken = none) :
    (perform method path token parcel s).1 = r.entire.envelope := by
  rw [perform_apply, answered, Reply.envelope, Reply.whole, Response.whole_of_arrived arrived]
  rfl

end

/-! ## Renewals -/

/-- An operation goes through a renewal after its first attempt exactly if that is rejected. -/
theorem renews_iff {α : Type} (operation : Text → Attempt State α) (token : Text) (s : State) :
    (attempts operation token s).any (·.isHandshake) = rejects (operation token s).1 := by
  unfold attempts
  rcases operation token s with ⟨f | v, t⟩
  · cases rejected : f.isRejection with
    | false => simp [rejects, rejected]
    | true => simp [rejects, rejected]
  · simp [rejects]

/-- **Files against calls.** Where the reply to the request for a file arrives whole, a file is told exactly if its
status tells success and the headers that should name the file can be read; its body has been neither read nor released
then. Headers that cannot be read are a fault. With any other status the body has been read and released, and what is
told is what every call tells that meets with the same status and body under the same media type; and whatever the
headers, the session is renewed after the one exactly if it is renewed after the other. -/
theorem openFile_told {path : String} {token : Text} {s : State} {r : Response}
    (answered : s.answer (s.client.fileRequest path token) = .received r) (arrived : r.broken = none) :
    ((∃ file, (openFile path token s).1 = .ok file) ↔
        isSuccess r.status = true ∧ ∃ name, r.filename = .ok name) ∧
      (isSuccess r.status = true →
        (openFile path token s).2 = s.did (.request (s.client.fileRequest path token)) ∧
          (∀ file, (openFile path token s).1 = .ok file →
            file.chunks = r.chunks ∧ file.consumed = false ∧ file.released = false) ∧
          ∀ f, r.filename = .error f → (openFile path token s).1 = .error (.fault f)) ∧
      (isSuccess r.status = false →
        (openFile path token s).2
            = ((s.did (.request (s.client.fileRequest path token))).did .readBody).did .releaseBody ∧
          ∀ (method : String) (resource shown : Text) (parcel : Parcel) (t : State) (q : Response),
            t.answer (t.client.request method resource (some shown) parcel) = .received q → q.broken = none →
            q.status = r.status → q.chunks.flatten = r.chunks.flatten →
            (header? q.headers "content-type" = header? r.headers "content-type" →
              ∃ f, (openFile path token s).1 = .error f ∧
                (perform method resource (some shown) parcel t).1 = .error f) ∧
              (attempts (openFile path) token s).any (·.isHandshake)
                = (attempts (fun token => perform method resource (some token) parcel) shown t).any
                    (·.isHandshake)) := by
  refine ⟨?file, fun success => ?success, fun failed => ?unsuccessful⟩
  case file =>
    cases success : isSuccess r.status with
    | true =>
      rw [openFile_success answered success]
      cases named : r.filename with
      | ok name =>
        obtain ⟨file, made, -⟩ := FileContent.ofResponse_of_ok named
        exact iff_of_true ⟨file, made⟩ ⟨rfl, name, rfl⟩
      | error f => simp [FileContent.ofResponse_of_error named]
    | false =>
      obtain ⟨f, told⟩ := Received.envelope_unsuccessful (r := r.entire) success
      simp [openFile_unsuccessful answered arrived success told]
  case success =>
    rw [openFile_success answered success]
    refine ⟨rfl, fun file told => ?_, fun f unnamed => FileContent.ofResponse_of_error unnamed⟩
    cases named : r.filename with
    | error f =>
      dsimp only at told
      rw [FileContent.ofResponse_of_error named] at told
      cases told
    | ok name =>
      obtain ⟨same, made, -, chunks, -, rest⟩ := FileContent.ofResponse_of_ok named
      obtain rfl : same = file := Except.ok.inj (made.symm.trans told)
      exact ⟨chunks, rest⟩
  case unsuccessful =>
    obtain ⟨f, told⟩ := Received.envelope_unsuccessful (r := r.entire) failed
    have opened := openFile_unsuccessful answered arrived failed told
    refine ⟨by rw [opened], fun method resource shown parcel t q met whole status body => ⟨fun type => ?_, ?_⟩⟩
    · refine ⟨f, by rw [opened], ?_⟩
      rw [perform_received met whole, ← told]
      exact Received.envelope_congr status body type
    · have same : rejects q.entire.envelope = rejects r.entire.envelope := Received.envelope_rejects status body
      rw [renews_iff, renews_iff, perform_received met whole, opened, same, told]
      rfl

/-- A file that the box does not have is told as a call tells it. -/
theorem missing_file_told :
    let client := Client.create "http://fbx.test" "v8" (some "app") (some "secret") (.int 10) true
    let body := "\x7b\"success\": false, \"error_code\": \"path_not_found\", \"msg\": \"no such file\"\x7d"
    let r : Response := ⟨404, [], [Utf8.encode body.toList], none⟩
    let s : State := ⟨client, ⟨⟨fun _ _ => .received r, fun _ => .refused .closedNormally⟩, ⟨0⟩, []⟩⟩
    let missing := Failure.ofBox
      (.refusal ⟨.pathNotFound, .str "path_not_found", .str "no such file", .null, some 404⟩)
    s.answer (s.client.fileRequest "/a" "token") = .received r ∧ r.broken = none ∧
      (openFile "/a" "token" s).1 = .error missing ∧
      (perform "GET" "vm/" (some "token") {} s).1 = .error missing := by
  intro client body r s missing
  have failed : isSuccess r.status = false := rfl
  obtain ⟨f, file, call⟩ :=
    (((@openFile_told "/a" "token" s r rfl rfl).2.2 failed).2 "GET" "vm/" "token" {} s r rfl rfl rfl rfl).1 rfl
  have told : (openFile "/a" "token" s).1 = .error missing := Attempt.failed_of_decide (by decide +kernel)
  have same : f = missing := Except.error.inj (file.symm.trans told)
  exact ⟨rfl, rfl, told, same ▸ call⟩

/-- A disposition that tells the name of a file in numbered and unnumbered parts keeps the file from being told. -/
theorem mixed_parts_fault :
    let client := Client.create "http://fbx.test" "v8" (some "app") (some "secret") (.int 10) true
    let r : Response :=
      ⟨200, [("Content-Disposition", "attachment; filename*0=a; filename*=b")], [Utf8.encode "data".toList], none⟩
    let s : State := ⟨client, ⟨⟨fun _ _ => .received r, fun _ => .refused .closedNormally⟩, ⟨0⟩, []⟩⟩
    s.answer (s.client.fileRequest "/a" "token") = .received r ∧ r.broken = none ∧ isSuccess r.status = true ∧
      (openFile "/a" "token" s).1 = .error (.fault (.unordered .null .int)) ∧
      (openFile "/a" "token" s).2.network.log = [.request (s.client.fileRequest "/a" "token")] := by
  intro client r s
  refine ⟨rfl, rfl, rfl, Attempt.failed_of_decide ?_, ?_⟩
  · decide +kernel
  · decide +kernel

end Freebox
