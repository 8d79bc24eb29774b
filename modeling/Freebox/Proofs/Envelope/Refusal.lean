import Freebox.EventStream
import Freebox.Proofs.Attempt.Guarantee
import Freebox.Reply

/-!
# `Freebox.Proofs.Envelope.Refusal` — what a refusal by the box becomes

A refusal reaches a caller by three ways: as the reply to a request, as the reply to an action on a channel, and as a
notification. On each of them its code is looked up in the table of codes that are told apart. An array or an object
with something in it cannot be looked up, so such a code ends in a fault instead of an error of the box. All other
codes, and the message and the identifier with them, are told as they were sent.

## Contents
- `Json.isKey`, `RefusalKind.told`, `refusalKind_ofCode`: the codes that can be looked up, and their kinds.
- `refusalOf`, `refused_apply`: the refusal in an object.
- `Received.Tellable`, `envelope_refused`: refusals in replies to requests.
- `Received.EndsInFault`, `Received.envelope_fault_iff`: exactly when a reply ends in a fault.
- `PassedOver`, `findReply_refused`, `scan_refused`: refusals among the messages of a channel.
- `refusal_told_iff`: exactly when a refusal is told as an error of the box.
-/

namespace Freebox

theorem read_of_toOption {m : Raw} {v : Json} (h : (Json.read m).toOption = some v) : Json.read m = .ok v :=
  Attempt.ok_of_toOption h

/-! ## Codes -/

/-- Whether a value can be looked up in a table: an array or an object only if it is empty and so counts as none. -/
def Json.isKey : Json → Bool
  | .arr (_ :: _) | .obj (_ :: _) => false
  | _ => true

/-- The kind that a code tells: a general one, unless it is a known text. -/
def RefusalKind.told : Json → RefusalKind
  | .str s => (RefusalKind.known.lookup s).getD .general
  | _ => .general

theorem refusalKind_ofCode (code : Json) :
    RefusalKind.ofCode code
      = if code.isKey then .ok (RefusalKind.told code) else .error (.unhashable code.kind) := by
  cases code with
  | null | bool b | int n | real x => simp [RefusalKind.ofCode, Json.isKey, RefusalKind.told]
  | str s =>
    by_cases empty : s = ""
    · -- the empty text counts as no code, and it is not a known one either
      subst empty
      rfl
    · simp [RefusalKind.ofCode, Json.isTrue, empty, Json.isKey, RefusalKind.told]
  | arr items => cases items <;> simp [RefusalKind.ofCode, Json.isTrue, Json.isKey, RefusalKind.told]
  | obj members => cases members <;> simp [RefusalKind.ofCode, Json.isTrue, Json.isKey, RefusalKind.told]

theorem lookup_of_unknown {s : Text} {table : List (Text × RefusalKind)} (unknown : s ∉ table.map (·.1)) :
    table.lookup s = none := by
  rw [List.lookup_eq_none_iff]
  intro entry here
  have other : s ≠ entry.1 := fun same => unknown (same ▸ List.mem_map_of_mem here)
  simpa using other

/-- A code that is not known is general. -/
theorem told_unknown {code : Json} (unknown : ∀ s ∈ RefusalKind.known.map (·.1), code ≠ .str s) :
    RefusalKind.told code = .general := by
  cases code with
  | str s =>
    have absent : s ∉ RefusalKind.known.map (·.1) := fun here => unknown s here rfl
    rw [RefusalKind.told, lookup_of_unknown absent]
    rfl
  | _ => rfl

/-! ## Refusals -/

/-- The refusal in an object, received with a status: code, message and identifier as they were sent. -/
def refusalOf (ms : Members) (status : Option Int) : Refusal :=
  ⟨RefusalKind.told (ms.get "error_code"), ms.get "error_code", ms.get "msg", ms.get "uid", status⟩

theorem refused_apply (ms : Members) (status : Option Int) :
    (Envelope.ofMembers ms).refused status
      = if (ms.get "error_code").isKey then .ofBox (.refusal (refusalOf ms status))
        else .fault (.unhashable (ms.get "error_code").kind) := by
  have code : (Envelope.ofMembers ms).errorCode = ms.get "error_code" := rfl
  rw [Envelope.refused, code, refusalKind_ofCode]
  cases (ms.get "error_code").isKey <;> rfl

theorem ofMembers_refused {ms : Members} (refused : ms.get? "success" ≠ some (.bool true)) :
    (Envelope.ofMembers ms).success = false := decide_eq_false refused

/-- Whether a failure is an error of the box. -/
def Failure.isBox : Failure → Bool
  | .box _ _ => true
  | .fault _ => false

/-! ## Replies to requests -/

namespace Received

/-- A reply tells nothing but its status: neither by its status is it a success, nor has it a code or a message. -/
def Bare (r : Received) (ms : Members) : Prop :=
  isSuccess r.status = false ∧ ms.get "error_code" = .null ∧ ms.get "msg" = .null

instance (r : Received) (ms : Members) : Decidable (r.Bare ms) := by unfold Bare; infer_instance

theorem hasErrorDetails_ofMembers (ms : Members) :
    (Envelope.ofMembers ms).hasErrorDetails = false ↔ ms.get "error_code" = .null ∧ ms.get "msg" = .null := by
  simp [Envelope.hasErrorDetails, Envelope.ofMembers]

/-- The failure that a refusal in a reply is. -/
theorem envelope_refused {r : Received} {ms : Members} (read : Json.read (.octets r.body) = .ok (.obj ms))
    (refused : ms.get? "success" ≠ some (.bool true)) :
    r.envelope
      = .error (if r.Bare ms then r.statusFailure none else (Envelope.ofMembers ms).refused (some r.status)) := by
  have parsed : Envelope.parse (.octets r.body) = .ok (Envelope.ofMembers ms) := by rw [Envelope.parse, read]
  unfold envelope
  rw [parsed]
  dsimp only
  rw [ofMembers_refused refused]
  by_cases bare : r.Bare ms
  · have details := (hasErrorDetails_ofMembers ms).mpr bare.2
    simp [bare, bare.1, details]
  · rw [if_neg bare, if_neg (by simp), if_neg]
    intro h
    obtain ⟨unsuccessful, plain⟩ : isSuccess r.status = false ∧ (Envelope.ofMembers ms).hasErrorDetails = false := by
      simpa using h
    exact bare ⟨unsuccessful, (hasErrorDetails_ofMembers ms).mp plain⟩

/-- A refusal in a reply can be told as an error of the box: a bare one by its status, if the body has a text, and any
other by its code, if that can be looked up. -/
def Tellable (r : Received) (ms : Members) : Prop :=
  if r.Bare ms then ∃ text, r.text = .ok text else (ms.get "error_code").isKey = true

/-- A refusal in a reply ends in an error of the box exactly if it can be told as one, and that error is the refusal
itself or a bare status. -/
theorem envelope_told {r : Received} {ms : Members} (read : Json.read (.octets r.body) = .ok (.obj ms))
    (refused : ms.get? "success" ≠ some (.bool true)) :
    ∃ f, r.envelope = .error f ∧ (f.isBox = true ↔ r.Tellable ms) ∧
      (f.isBox = true → f = .ofBox (.refusal (refusalOf ms (some r.status))) ∨
        (r.Bare ms ∧ ∃ text, r.text = .ok text ∧ f = .ofBox (.status r.status text))) := by
  refine ⟨_, envelope_refused read refused, ?_⟩
  unfold Tellable
  by_cases bare : r.Bare ms
  · rw [if_pos bare, if_pos bare, statusFailure]
    cases text : r.text with
    | ok t => exact ⟨iff_of_true rfl ⟨t, rfl⟩, fun _ => Or.inr ⟨bare, t, rfl, rfl⟩⟩
    | error f =>
      exact ⟨iff_of_false (by simp [Failure.isBox]) (by simp), fun told => by simp [Failure.isBox] at told⟩
  · rw [if_neg bare, if_neg bare, refused_apply]
    cases key : (ms.get "error_code").isKey with
    | true => exact ⟨iff_of_true rfl rfl, fun _ => Or.inl rfl⟩
    | false => exact ⟨by simp [Failure.isBox], fun told => by simp [Failure.isBox] at told⟩

/-! ## Replies that end in a fault -/

/-- All that a reply tells is its status: it tells no success, and its body is no object, or one that reports success,
or one without a code and a message. -/
def TellsStatus (r : Received) : Prop :=
  isSuccess r.status = false ∧
    ∀ ms : Members, Json.read (.octets r.body) = .ok (.obj ms) → ms.get? "success" = some (.bool true) ∨ r.Bare ms

/-- A reply ends in a fault: its status has to be told but its body has no text, or it is a refusal whose code cannot be
looked up. -/
def EndsInFault (r : Received) : Prop :=
  (r.TellsStatus ∧ ∃ f, r.text = .error f) ∨
    ∃ ms : Members, Json.read (.octets r.body) = .ok (.obj ms) ∧ ms.get? "success" ≠ some (.bool true) ∧
      (ms.get "error_code").isKey = false

theorem statusFailure_fault_iff (r : Received) (cause : Option BoxError) :
    (∃ f, r.statusFailure cause = .fault f) ↔ ∃ f, r.text = .error f := by
  unfold statusFailure
  cases r.text <;> simp

/-- A body that holds no object leaves the status to be told. -/
theorem envelope_fault_of_parse {r : Received} {e : DecodingError} (parsed : Envelope.parse (.octets r.body) = .error e)
    (object : ∀ ms : Members, Json.read (.octets r.body) ≠ .ok (.obj ms)) :
    (∃ f, r.envelope = .error (.fault f)) ↔ r.EndsInFault := by
  unfold envelope
  rw [parsed]
  dsimp only
  cases status : isSuccess r.status with
  | true =>
    refine iff_of_false (by simp [Failure.ofDecoding, Failure.ofBox]) ?_
    rintro (⟨⟨failed, -⟩, -⟩ | ⟨ms, read, -⟩)
    · rw [status] at failed
      cases failed
    · exact object ms read
  | false =>
    have told : r.TellsStatus := ⟨status, fun ms read => absurd read (object ms)⟩
    have text := r.statusFailure_fault_iff (some (.decoding e))
    constructor
    · rintro ⟨f, h⟩
      exact Or.inl ⟨told, text.mp ⟨f, by simpa using h⟩⟩
    · rintro (⟨-, unreadable⟩ | ⟨ms, read, -⟩)
      · obtain ⟨f, h⟩ := text.mpr unreadable
        exact ⟨f, by simpa using h⟩
      · exact absurd read (object ms)

theorem envelope_fault_of_success {r : Received} {ms : Members} (read : Json.read (.octets r.body) = .ok (.obj ms))
    (success : ms.get? "success" = some (.bool true)) : (∃ f, r.envelope = .error (.fault f)) ↔ r.EndsInFault := by
  have parsed : Envelope.parse (.octets r.body) = .ok (Envelope.ofMembers ms) := by rw [Envelope.parse, read]
  have reported : (Envelope.ofMembers ms).success = true := decide_eq_true success
  have told : r.EndsInFault ↔ isSuccess r.status = false ∧ ∃ f, r.text = .error f := by
    unfold EndsInFault TellsStatus
    rw [read]
    simp [success]
  rw [told, ← r.statusFailure_fault_iff none]
  unfold envelope
  rw [parsed]
  simp only [reported, if_true]
  cases isSuccess r.status <;> simp

theorem envelope_fault_of_refused {r : Received} {ms : Members} (read : Json.read (.octets r.body) = .ok (.obj ms))
    (refused : ms.get? "success" ≠ some (.bool true)) : (∃ f, r.envelope = .error (.fault f)) ↔ r.EndsInFault := by
  have told : r.EndsInFault ↔ (r.Bare ms ∧ ∃ f, r.text = .error f) ∨ (ms.get "error_code").isKey = false := by
    unfold EndsInFault TellsStatus
    rw [read]
    simp only [Except.ok.injEq, Json.obj.injEq, forall_eq', refused, false_or]
    constructor
    · rintro (⟨⟨-, bare⟩, text⟩ | ⟨ns, rfl, -, unknown⟩)
      · exact Or.inl ⟨bare, text⟩
      · exact Or.inr unknown
    · rintro (⟨bare, text⟩ | unknown)
      · exact Or.inl ⟨⟨bare.1, bare⟩, text⟩
      · exact Or.inr ⟨ms, rfl, refused, unknown⟩
  rw [told, envelope_refused read refused]
  by_cases bare : r.Bare ms
  · have key : (ms.get "error_code").isKey = true := by rw [bare.2.1]; rfl
    rw [if_pos bare]
    simpa [bare, key] using r.statusFailure_fault_iff none
  · rw [if_neg bare, refused_apply]
    cases key : (ms.get "error_code").isKey <;> simp [bare, Failure.ofBox]

theorem envelope_fault_of_object {r : Received} {ms : Members} (read : Json.read (.octets r.body) = .ok (.obj ms)) :
    (∃ f, r.envelope = .error (.fault f)) ↔ r.EndsInFault := by
  by_cases success : ms.get? "success" = some (.bool true)
  · exact envelope_fault_of_success read success
  · exact envelope_fault_of_refused read success

/-- **Exactly when a reply ends in a fault.** -/
theorem envelope_fault_iff (r : Received) : (∃ f, r.envelope = .error (.fault f)) ↔ r.EndsInFault := by
  cases read : Json.read (.octets r.body) with
  | error e =>
    refine envelope_fault_of_parse (by rw [Envelope.parse, read]) (fun ms h => ?_)
    rw [read] at h
    cases h
  | ok v =>
    cases v with
    | obj ms =>
      exact envelope_fault_of_object read
    | _ =>
      refine envelope_fault_of_parse (by rw [Envelope.parse, read]) (fun ms h => ?_)
      rw [read] at h
      cases h
end Received

/-! ## Messages of a channel -/

namespace Channel

/-- A refusal in a message ends in an error of the box exactly if its code can be looked up, and that error is the
refusal itself. -/
theorem accepted_refused {ms : Members} (refused : ms.get? "success" ≠ some (.bool true)) :
    ∃ f, accepted ms = .error f ∧ (f.isBox = true ↔ (ms.get "error_code").isKey = true) ∧
      (f.isBox = true → f = .ofBox (.refusal (refusalOf ms none))) := by
  refine ⟨(Envelope.ofMembers ms).refused none, ?_, ?_⟩
  · rw [accepted, ofMembers_refused refused]
    rfl
  · rw [refused_apply]
    cases key : (ms.get "error_code").isKey with
    | true => exact ⟨iff_of_true rfl rfl, fun _ => rfl⟩
    | false => exact ⟨by simp [Failure.isBox], fun told => by simp [Failure.isBox] at told⟩

/-- A message that answers something else is passed over. -/
def PassedOver (action : String) (request : Option Int) (i : Incoming) : Prop :=
  ∃ m ms, i = .message m ∧ decodeMessage m = .ok ms ∧ isReply action request ms = false

section
variable {action : String} {request : Option Int} {within : Quantity} {skipped rest : List Incoming} {m : Raw}
  {ms : Members}

/-- The reply to an action is looked for behind the messages that are passed over. -/
theorem findReply_behind (passed : ∀ i ∈ skipped, PassedOver action request i)
    (decoded : decodeMessage m = .ok ms) (answers : isReply action request ms = true) :
    findReply action request within (skipped ++ .message m :: rest) = (accepted ms, rest) := by
  induction skipped with
  | nil => simp [findReply, decoded, answers]
  | cons i skipped ih =>
    -- what is passed over is used up, and the search goes on behind it
    obtain ⟨other, told, rfl, read, foreign⟩ := passed i (by simp)
    simp only [List.cons_append, findReply, read, foreign]
    exact ih fun j hj => passed j (by simp [hj])

theorem awaitReply_behind {c : Logged Channel} (inbox : c.value.inbox = skipped ++ .message m :: rest)
    (passed : ∀ i ∈ skipped, PassedOver action request i) (decoded : decodeMessage m = .ok ms)
    (answers : isReply action request ms = true) : (awaitReply action request within c).1 = accepted ms := by
  unfold awaitReply
  rw [inbox, findReply_behind passed decoded answers]

/-- The next notification is looked for behind the messages that are passed over, too. -/
theorem scan_behind (passed : ∀ i ∈ skipped, PassedOver "notification" none i) (decoded : decodeMessage m = .ok ms)
    (answers : isReply "notification" none ms = true) {f : Failure} (refused : accepted ms = .error f) :
    EventStream.scan (skipped ++ .message m :: rest) = (.failure f, rest) := by
  induction skipped with
  | nil => simp [EventStream.scan, decoded, answers, refused]
  | cons i skipped ih =>
    obtain ⟨other, told, rfl, read, foreign⟩ := passed i (by simp)
    simp only [List.cons_append, EventStream.scan, read, foreign]
    exact ih fun j hj => passed j (by simp [hj])

theorem next_behind {s : Logged EventStream} (going : s.value.closed = false)
    (inbox : s.value.channel.inbox = skipped ++ .message m :: rest)
    (passed : ∀ i ∈ skipped, PassedOver "notification" none i) (decoded : decodeMessage m = .ok ms)
    (answers : isReply "notification" none ms = true) {f : Failure} (refused : accepted ms = .error f) :
    (EventStream.next s).1 = .error f := by
  unfold EventStream.next
  rw [going, inbox, scan_behind passed decoded answers refused]
  rfl

end

end Channel

/-! ## Refusals told -/

/-- **Exactly when a refusal is told as an error of the box.** It is raised on each of the three ways, behind the
messages that are passed over, and is an error of the box if and only if its code can be looked up; a reply that tells
nothing but its status needs a text instead. The error holds code, message and identifier as they were sent, and is a
general one unless its code is known. -/
theorem refusal_told_iff (ms : Members) (refused : ms.get? "success" ≠ some (.bool true)) :
    (∀ r : Received, Json.read (.octets r.body) = .ok (.obj ms) →
      ∃ f, r.envelope = .error f ∧ (f.isBox = true ↔ r.Tellable ms) ∧
        (f.isBox = true → f = .ofBox (.refusal (refusalOf ms (some r.status))) ∨
          (r.Bare ms ∧ ∃ text, r.text = .ok text ∧ f = .ofBox (.status r.status text)))) ∧
    (∀ action request within skipped m rest c, c.value.inbox = skipped ++ .message m :: rest →
      (∀ i ∈ skipped, Channel.PassedOver action request i) → Channel.decodeMessage m = .ok ms →
      Channel.isReply action request ms = true →
      ∃ f, (Channel.awaitReply action request within c).1 = .error f ∧
        (f.isBox = true ↔ (ms.get "error_code").isKey = true) ∧
        (f.isBox = true → f = .ofBox (.refusal (refusalOf ms none)))) ∧
    (∀ skipped m rest s, s.value.closed = false → s.value.channel.inbox = skipped ++ .message m :: rest →
      (∀ i ∈ skipped, Channel.PassedOver "notification" none i) → Channel.decodeMessage m = .ok ms →
      Channel.isReply "notification" none ms = true →
      ∃ f, (EventStream.next s).1 = .error f ∧ (f.isBox = true ↔ (ms.get "error_code").isKey = true) ∧
        (f.isBox = true → f = .ofBox (.refusal (refusalOf ms none)))) ∧
    ∀ status, (∀ code ∈ RefusalKind.known.map (·.1), ms.get "error_code" ≠ .str code) →
      refusalOf ms status = ⟨.general, ms.get "error_code", ms.get "msg", ms.get "uid", status⟩ := by
  refine ⟨?requests, ?actions, ?notifications, ?unknown⟩
  case requests =>
    intro r read
    exact Received.envelope_told read refused
  case actions =>
    intro action request within skipped m rest c inbox passed decoded answers
    rw [Channel.awaitReply_behind inbox passed decoded answers]
    exact Channel.accepted_refused refused
  case notifications =>
    intro skipped m rest s going inbox passed decoded answers
    obtain ⟨f, accepted, told⟩ := Channel.accepted_refused refused
    exact ⟨f, Channel.next_behind going inbox passed decoded answers accepted, told⟩
  case unknown =>
    intro status unknown
    rw [refusalOf, told_unknown unknown]

/-- A code that nobody knows is told as it was sent. -/
theorem unknown_code_told :
    let body := "\x7b\"success\": false, \"error_code\": \"odd\", \"uid\": 7\x7d"
    let r : Received := ⟨403, [], Utf8.encode body.toList⟩
    let ms : Members := [("success", .bool false), ("error_code", .str "odd"), ("uid", .int 7)]
    ms.get? "success" ≠ some (.bool true) ∧ Json.read (.octets r.body) = .ok (.obj ms) ∧
      r.envelope = .error (.ofBox (.refusal ⟨.general, .str "odd", .null, .int 7, some 403⟩)) := by
  intro body r ms
  have refused : ms.get? "success" ≠ some (.bool true) := by decide +kernel
  have read : Json.read (.octets r.body) = .ok (.obj ms) := read_of_toOption (by decide +kernel)
  have full : ¬ r.Bare ms := by decide +kernel
  have tellable : r.Tellable ms := by
    rw [Received.Tellable, if_neg full]
    decide +kernel
  obtain ⟨f, told, iff, which⟩ := (refusal_told_iff ms refused).1 r read
  refine ⟨refused, read, ?_⟩
  rcases which (iff.mpr tellable) with rfl | ⟨bare, -⟩
  · have same : refusalOf ms (some 403) = ⟨.general, .str "odd", .null, .int 7, some 403⟩ := by decide +kernel
    rw [told, same]
  · exact absurd bare full

/-- A code that is an array is told as a fault. -/
theorem array_code_fault :
    let body := "\x7b\"success\": false, \"error_code\": [\"inval\"], \"msg\": \"error\", \"uid\": \"23b86ec8\"\x7d"
    let r : Received := ⟨400, [], Utf8.encode body.toList⟩
    let ms : Members :=
      [("success", .bool false), ("error_code", .arr [.str "inval"]), ("msg", .str "error"), ("uid", .str "23b86ec8")]
    Json.read (.octets r.body) = .ok (.obj ms) ∧ ms.get? "success" ≠ some (.bool true) ∧
      r.envelope = .error (.fault (.unhashable .arr)) := by
  intro body r ms
  have refused : ms.get? "success" ≠ some (.bool true) := by decide +kernel
  have read : Json.read (.octets r.body) = .ok (.obj ms) := read_of_toOption (by decide +kernel)
  have full : ¬ r.Bare ms := by decide +kernel
  have code : ms.get "error_code" = .arr [.str "inval"] := by decide +kernel
  refine ⟨read, refused, ?_⟩
  rw [Received.envelope_refused read refused, if_neg full, refused_apply, code]
  rfl

end Freebox
