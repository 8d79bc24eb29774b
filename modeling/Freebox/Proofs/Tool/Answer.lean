import Freebox.Proofs.Envelope.Report
import Freebox.Proofs.Session.Renewal

/-!
# `Freebox.Proofs.Tool.Answer` — every call is answered, and failures are told from results

The text of an answer is JSON that is read back. What is read back is an object with the member `error` if the call
failed, and never otherwise; the resources that have an error among their fields are reported in lists. An error of the
box has the member `type` as well.

## Contents
- `State.Numbered`, `handshake_ends`, `Operation.run_ends`, `describe_ends`: what is done, ends in a result or a failure
  that can be written.
- `Plan.Tells`, `Tool.plan_tells`, `Plan.run_ends`, `runTool_ends`: so does every call of a tool.
- `Recognised`: what an answer is read back as.
- `tools_answer`: every call is answered by a text that is read back like this.
-/

namespace Freebox

open Attempt (Ends ends_pure ends_fail ends_state ends_lift)
open Json (IsResult SoundMembers soundItems_iff soundMembers_iff)

/-! ## Requests -/

/-- The statuses of the other side can be written. -/
def State.Numbered (s : State) : Prop := s.network.peer.Numbered

theorem perform_ends (method : String) (path : Text) (token : Option Text) (parcel : Parcel) :
    Ends State.Numbered (fun e => e.result.Sound) Failure.Reports (perform method path token parcel) := by
  intro s start
  rw [perform_apply]
  exact ⟨Reply.envelope_ends _ (start _ _), start⟩

theorem exchange_ends (r : Request) :
    Ends State.Numbered (fun received => (Json.int received.status).Sound) Failure.Reports (exchange r) := by
  intro s start
  rw [exchange_apply]
  exact ⟨Reply.whole_ends _ (start _ _), start⟩

theorem describe_ends : Ends State.Numbered (fun record => record.toJson.IsResult) Failure.Reports describe :=
  ends_state.bind fun s _ =>
    (exchange_ends s.client.describeRequest).bind fun _ numbered => ends_lift (Received.description_ends numbered)

/-! ## Handshakes -/

/-- The result of a challenge that cannot be read, or not be digested, is told in words. -/
theorem Envelope.word_ends {e : Envelope} (sound : e.result.Sound) (privateToken : String) :
    EndsIn (fun _ => True) Failure.Reports (e.word privateToken) := by
  have challenge := (Layout.decode_keeps Resource.challenge_keeps sound).reported
  exact challenge.bind fun record _ => EndsIn.any.mapError fun f _ => Failure.reports_fault f

theorem Envelope.opening_ends {e : Envelope} (sound : e.result.Sound) :
    EndsIn (fun _ => True) Failure.Reports e.opening := by
  have session := (Layout.decode_keeps Resource.sessionResult_keeps sound).reported
  exact session.bind fun _ _ => trivial

theorem negotiate_ends : Ends State.Numbered (fun _ => True) Failure.Reports negotiate := by
  refine ends_state.bind fun s _ => ?_
  have credentials : EndsIn (fun _ => True) Failure.Reports
      (s.client.credentials.mapError fun e => Failure.ofBox (.configuration e)) :=
    EndsIn.any.mapError fun e _ => ⟨trivial, trivial, trivial⟩
  refine (ends_lift credentials).bind fun both _ => ?_
  obtain ⟨appId, privateToken⟩ := both
  -- each of the two results is read under a layout, so its failure is told in words
  refine (perform_ends _ _ _ _).bind fun asked sound => ?_
  refine (ends_lift (Envelope.word_ends sound privateToken)).bind fun word _ => ?_
  exact (perform_ends _ _ _ _).bind fun opened sound => ends_lift (Envelope.opening_ends sound)

theorem handshake_ends : Ends State.Numbered (fun _ => True) Failure.Reports handshake := by
  intro s start
  rw [handshake_apply]
  exact negotiate_ends s start

/-! ## Operations -/

/-- A rejection whose renewal fails can be written if both failures can. -/
theorem Failure.Reports.unrenewed {e : BoxError} {cause : Option BoxError} {f : Failure}
    (rejected : (Failure.box e cause).Reports) (failed : f.Reports) : (f.unrenewed e).Reports := by
  cases f with
  | fault f => exact failed
  | box r behind =>
    unfold Failure.unrenewed
    dsimp only
    split
    · exact failed
    · exact rejected.caused (some r)

/-- **An operation** whose reading is regular brings an answer that is a result, or fails with a report. -/
theorem Operation.run_ends {o : Operation} (regular : o.reading.Regular) :
    Ends State.Numbered (fun answer => answer.toJson.IsResult) Failure.Reports o.run := by
  have called : Ends State.Numbered (fun e => e.result.Sound) Failure.Reports
      (call o.method o.path true { payload := o.payload, form := o.form }) :=
    withSession_tells handshake_ends (fun token => perform_ends _ _ _ _) fun _ _ _ => Failure.Reports.unrenewed
  exact called.bind fun e sound => ends_lift (Reading.read_result regular sound).reported

/-! ## Plans -/

/-- A plan reports results: what its operation is answered by is one, and its report of that is one. -/
def Plan.Tells : Plan → Prop
  | .operation o report => o.reading.Regular ∧ ∀ answer, answer.toJson.IsResult → (report answer).IsResult
  | _ => True

namespace Tool

theorem asAnswered_tells {o : Operation} (regular : o.reading.Regular) : (asAnswered o).Tells :=
  ⟨regular, fun _ => id⟩

/-- A report of success has one more member, which is not called like an error. -/
theorem success_result {word : String} (other : ["success", word].Nodup ∧ "error" ∉ ["success", word]) {v : Json}
    (sound : v.Sound) : (Json.obj [("success", .bool true), (word, v)]).IsResult :=
  .of_members ["success", word] (.refl _) other.1 other.2 ⟨trivial, sound, trivial⟩

theorem actedOn_tells {o : Operation} (regular : o.reading.Regular) {word : String}
    (other : ["success", word].Nodup ∧ "error" ∉ ["success", word]) {v : Json} (sound : v.Sound) :
    (actedOn o word v).Tells :=
  ⟨regular, fun _ _ => success_result other sound⟩

variable {arguments : Members}

theorem argument_sound (sound : SoundMembers arguments) (name : String) :
    Yields Json.Sound (argument arguments name) := by
  unfold argument
  cases found : arguments.get? name with
  | none => exact trivial
  | some v => exact EndsIn.ok (Members.get?_all (soundMembers_iff.mp sound) found)

/-- **Every plan** for arguments that can be written reports results. -/
theorem plan_tells (tool : Tool) (sound : SoundMembers arguments) : Yields Plan.Tells (tool.plan arguments) := by
  have given (name : String) := argument_sound sound name
  cases tool with
  | apiVersion | login | diagnostics => exact trivial
  | listPortForwarding => exact EndsIn.ok (asAnswered_tells Resource.portForwardingRule_reports.toKeeps)
  | listDhcpLeases => exact EndsIn.ok (asAnswered_tells Resource.staticLease_reports.toKeeps)
  | listVirtualMachines => exact EndsIn.ok (asAnswered_tells Resource.virtualMachine_keeps)
  | listDownloads => exact EndsIn.ok (asAnswered_tells Resource.downloadTask_keeps)
  | listFilesystemTasks => exact EndsIn.ok (asAnswered_tells Resource.fileSystemTask_keeps)
  | listLanHosts => exact EndsIn.ok (asAnswered_tells Resource.host_keeps)
  | getPortForwarding => exact EndsIn.any.bind fun id _ => asAnswered_tells Resource.portForwardingRule_reports
  | addPortForwarding => exact EndsIn.any.bind fun draft _ => asAnswered_tells Resource.portForwardingRule_reports
  | addDhcpLease => exact EndsIn.any.bind fun draft _ => asAnswered_tells Resource.staticLease_reports
  | getFileInfo =>
    exact EndsIn.any.bind fun v _ => EndsIn.any.bind fun path _ => asAnswered_tells Resource.fileInfo_reports
  | deletePortForwarding | startVirtualMachine =>
    exact (given "id").bind fun v sound => EndsIn.any.bind fun id _ => actedOn_tells (by trivial) (by decide) sound
  | deleteDhcpLease => exact (given "id").bind fun v sound => actedOn_tells (by trivial) (by decide) sound
  | stopVirtualMachine =>
    refine (given "id").bind fun v sound => EndsIn.any.bind fun id _ => actedOn_tells ?_ (by decide) sound
    split <;> trivial
  | addDownload =>
    refine EndsIn.any.bind fun url _ => EndsIn.any.bind fun directory _ => ?_
    -- one address by itself is always accepted
    exact ⟨trivial, fun answer result => success_result (by decide) result.sound⟩

end Tool

/-! ## Calls of tools -/

/-- What a client tells about itself is a result. -/
theorem Client.diagnostics_result (c : Client) (now : Instant) : (Json.obj (c.diagnostics now)).IsResult := by
  refine .of_members ["endpoint", "version", "base_url", "app_id", "app_id_set", "private_token_set", "authenticated",
    "session_expires_at", "session_expired"] (.refl _) (by decide) (by decide) ?_
  have textual (t : Option String) : (Json.ofString? t).Sound := by cases t <;> trivial
  refine ⟨trivial, trivial, trivial, textual _, trivial, trivial, trivial, textual _, ?_, trivial⟩
  cases c.session <;> trivial

/-- **Every plan** that reports results ends in one, or in a failure with a report. -/
theorem Plan.run_ends {plan : Plan} (tells : plan.Tells) :
    Ends State.Numbered IsResult Failure.Reports plan.run := by
  cases plan with
  | operation o report =>
    obtain ⟨regular, reports⟩ := tells
    exact (Operation.run_ends regular).bind fun answer result => ends_pure (reports answer result)
  | describe => exact describe_ends.bind fun record result => ends_pure result
  | login =>
    have permissions : Ends State.Numbered (fun _ => True) Failure.Reports Freebox.login :=
      handshake_ends.bind fun _ _ => ends_pure trivial
    refine permissions.bind fun record _ => ends_pure (Tool.success_result (by decide) ?_)
    refine soundItems_iff.mpr fun v here => ?_
    obtain ⟨name, -, rfl⟩ := List.mem_map.mp here
    trivial
  | diagnostics => exact ends_state.bind fun s _ => ends_pure (s.client.diagnostics_result _)

theorem runTool_ends (name : String) {arguments : Members} (sound : SoundMembers arguments) :
    Ends State.Numbered IsResult Failure.Reports (runTool name arguments) := by
  unfold runTool
  cases Tool.ofName? name with
  | none => exact ends_fail (Failure.reports_fault _)
  | some tool =>
    have tells := tool.plan_tells sound
    dsimp only
    cases planned : tool.plan arguments with
    | error f => exact ends_fail (Failure.reports_fault f)
    | ok plan => exact Plan.run_ends (tells.value planned)

/-! ## Answers -/

/-- What an answer is read back as, by what the call has come to. -/
structure Recognised (result : Except Failure Json) (v : Json) : Prop where
  /-- The member `error` tells failures. -/
  failed : v.Has "error" ↔ ∃ f, result = .error f
  /-- The member `type` tells errors of the box among them. -/
  typed : ∀ f, result = .error f → (v.Has "type" ↔ f.isBox = true)
  /-- The members are those of the report of the failure, each as it is read back. -/
  reported : ∀ f, result = .error f → v = .obj (f.report.map fun m => (m.1, m.2.reread))
  /-- They are the same if no text has a first half of a surrogate pair followed by a second one. -/
  unchanged : ∀ f, result = .error f → (Json.obj f.report).Whole → v = .obj f.report
  /-- A result is no object with the member `error`. -/
  returned : ∀ r, result = .ok r → ¬ r.Has "error" ∧ v = r.reread

theorem callTool_apply (name : String) (arguments : Option Members) (s : State) :
    callTool name arguments s =
      (.ok (answerText (runTool name (arguments.getD []) s).1), (runTool name (arguments.getD []) s).2) := rfl

/-- A report can be written. -/
theorem Failure.Reports.sound {f : Failure} (reports : f.Reports) : (Json.obj f.report).Sound := by
  obtain ⟨names, same, nodup, -⟩ := f.report_names
  exact ⟨same ▸ nodup.map fun _ _ => Text.ofString_inj.mp, reports⟩

/-- The text of a failure is read back as its report. -/
theorem recognised_error {f : Failure} (reports : f.Reports) :
    ∃ v, Json.parse (answerText (.error f)) = .ok v ∧ Recognised (.error f) v := by
  obtain ⟨names, same, -, error, type⟩ := f.report_names
  have labelled : Json.Labelled f.report := by
    intro k here
    obtain ⟨name, -, rfl⟩ := List.mem_map.mp (same ▸ here)
    exact ⟨name, rfl⟩
  -- reading back keeps the names, since they are strings
  have has (name : String) : (Json.obj f.report).reread.Has name ↔ name ∈ names := by
    rw [Json.has_reread (fun _ told => Json.obj.inj told ▸ labelled) reports.sound, Json.has_obj, same]
    exact List.mem_map_of_injective fun _ _ => Text.ofString_inj.mp
  refine ⟨(Json.obj f.report).reread, Json.parse_indented reports.sound, ?_⟩
  constructor
  case failed => exact iff_of_true ((has "error").mpr error) ⟨f, rfl⟩
  case typed =>
    rintro _ ⟨⟩
    exact (has "type").trans type
  case reported =>
    rintro _ ⟨⟩
    exact Json.reread_obj labelled reports.sound.1
  case unchanged =>
    rintro _ ⟨⟩ whole
    exact whole.reread reports.sound
  case returned => rintro _ ⟨⟩

/-- The text of a result is read back as that result. -/
theorem recognised_ok {r : Json} (result : r.IsResult) :
    ∃ v, Json.parse (answerText (.ok r)) = .ok v ∧ Recognised (.ok r) v := by
  refine ⟨r.reread, Json.parse_indented result.sound, ?_⟩
  constructor
  case failed =>
    rw [Json.has_reread result.labelled result.sound]
    exact iff_of_false result.quiet (by simp)
  case returned =>
    rintro _ ⟨⟩
    exact ⟨result.quiet, rfl⟩
  all_goals rintro _ ⟨⟩

/-- **Every call of a tool is answered**, whatever its name, its arguments, the state of the client and what the other
side answers. It raises nothing; its text is read back, and the members `error` and `type` tell whether and how the call
failed. Arguments are a value that may have been read (`Json.read_sound`), and statuses have no more digits than are
converted to and from text: no other ones reach a client. -/
theorem tools_answer (name : String) (arguments : Option Members) (s : State) (numbered : s.network.peer.Numbered)
    (sound : ∀ given, arguments = some given → (Json.obj given).Sound) :
    ∃ text v, callTool name arguments s = (.ok text, (runTool name (arguments.getD []) s).2) ∧
      Json.parse text = .ok v ∧ Recognised (runTool name (arguments.getD []) s).1 v := by
  have members : SoundMembers (arguments.getD []) := by
    cases arguments with
    | none => trivial
    | some given => exact (sound given rfl).2
  obtain ⟨ends, -⟩ := runTool_ends name members s numbered
  rw [callTool_apply]
  cases told : (runTool name (arguments.getD []) s).1 with
  | error f =>
    obtain ⟨v, read, recognised⟩ := recognised_error (ends.failure told)
    exact ⟨_, v, rfl, read, recognised⟩
  | ok r =>
    obtain ⟨v, read, recognised⟩ := recognised_ok (ends.value told)
    exact ⟨_, v, rfl, read, recognised⟩

/-- A rule that is not there: the refusal is told as it was sent. -/
theorem tools_answer_noent :
    let client : Client := { Client.create "http://fbx.test" "v8" (some "app") (some "secret") (.int 10) false with
      session := some ⟨"token", ⟨0⟩⟩ }
    let body := "\x7b\"success\": false, \"error_code\": \"noent\", \"msg\": \"Invalid id\"\x7d"
    let reply : Reply := .received ⟨404, [], [Utf8.encode body.toList], none⟩
    let peer : Peer := ⟨fun _ _ => reply, fun _ => .refused .closedNormally⟩
    let s : State := { client, network := { peer, now := ⟨0⟩ } }
    let arguments : Members := [("id", .int 99)]
    let f : Failure := .ofBox (.refusal ⟨.notFound, .str "noent", .str "Invalid id", .null, some 404⟩)
    (runTool "get_port_forwarding" arguments s).1 = .error f ∧ peer.Numbered ∧ (Json.obj arguments).Sound ∧
      ∃ text, (callTool "get_port_forwarding" (some arguments) s).1 = .ok text ∧
        Json.parse text = .ok (.obj f.report) := by
  intro client body reply peer s arguments f
  have failed : (runTool "get_port_forwarding" arguments s).1 = .error f := Attempt.failed_of_decide (by decide +kernel)
  have numbered : peer.Numbered := by
    rintro before r _ ⟨⟩
    show (Nat.toDigits 10 404).length ≤ 4300
    decide
  have sound : (Json.obj arguments).Sound := by
    refine ⟨List.nodup_singleton _, ?_, trivial⟩
    show (Nat.toDigits 10 99).length ≤ 4300
    decide
  have whole : (Json.obj f.report).Whole := by
    refine ⟨Text.whole_ofString _, ?_, Text.whole_ofString _, Text.whole_ofString _, Text.whole_ofString _,
      Text.whole_ofString _, Text.whole_ofString _, trivial, trivial⟩
    show List.IsChain _ _
    decide +kernel
  obtain ⟨text, v, told, read, recognised⟩ :=
    tools_answer "get_port_forwarding" (some arguments) s numbered (by rintro _ ⟨⟩; exact sound)
  refine ⟨failed, numbered, sound, text, congrArg Prod.fst told, ?_⟩
  rw [read, recognised.unchanged f failed whole]

end Freebox
