import Freebox.Proofs.Command.Exchange
import Freebox.Proofs.Session.Deadline
import Freebox.Proofs.Session.Leaving
import Freebox.Proofs.Stream.Delivery
import Freebox.Proofs.Tool.Blame

/-!
# `Freebox.Proofs.Command.Deadline` — missed deadlines and the session, for every command

Whatever is done with a client, a missed deadline that is told is that of the last request that was made, and the
session is still the one that the request was made under. Opening a session is the exception: whichever of its two
requests misses the deadline, a session that was there before is given up.

## Contents
- `Operation.Offered.known`, `Operation.run_missed`: operations on the resources of a box.
- `FileContent.take_timely`, `Upload.block_timely`, `EventStream.drain_timely`: what is open misses no deadline.
- `Command.Sends`: the requests that a command makes, and the states that it makes them at.
- `Command.Misses`, `Command.perform_missed`: one command.
- `deadline_spares`, `login_deadline_drops`: the session behind a missed deadline.
-/

namespace Freebox

open Attempt (Ends ends_pure ends_fail ends_state ends_lift ends_update)

/-! ## Operations -/

/-- The results of the operations that are offered are read as responses. -/
theorem Operation.Offered.known {o : Operation} (offered : o.Offered) : o.reading.Known := by
  cases offered with
  | hash r h =>
    unfold Resource.FileSystem.hash at h
    cases payload : r.payload with
    | error f => rw [payload] at h; cases h
    | ok v => rw [payload] at h; cases h; simp [Reading.Known, Resource.responses]
  | addDownload r h =>
    unfold Resource.DownloadTask.add at h
    cases form : r.form with
    | error f => rw [form] at h; cases h
    | ok v => rw [form] at h; cases h; trivial
  | portForwarding _ _ h | staticLease _ _ h | lan _ _ h | virtualMachine _ _ h | virtualDisk _ _ _ _ h
  | fileSystem _ _ _ _ _ _ h | download _ _ h | upload _ h =>
    revert o
    simp only [List.forall_mem_cons, List.not_mem_nil, false_implies, implies_true, and_true]
    repeat' apply And.intro
    all_goals first | trivial | exact show _ ∈ Resource.responses by simp [Resource.responses]

theorem Authenticated.run_missed {a : Authenticated} {s : State} (h : Overdue (a.run s).1) :
    ∃ t r, a.Sends (s.client.uploads + 1) (a.begun s) t r ∧ Missed (a.run s) t r ∧
      (a.run s).2.client.session = t.client.session := by
  rw [a.run_apply] at h ⊢
  exact withSession_missed h

/-- What is read of the result of an operation is there in time. -/
theorem Operation.run_missed {o : Operation} (offered : o.Offered) {s : State} (h : Overdue (o.run s).1) :
    ∃ t r, o.authenticated.Sends (s.client.uploads + 1) s t r ∧ Missed (o.run s) t r ∧
      (o.run s).2.client.session = t.client.session := by
  have timely (e : Envelope) := ends_lift (P := fun _ : State => True)
    (Reading.read_timely (Operation.Offered.known offered) (Operation.Offered.prepared offered) e.result)
  obtain ⟨before, same, carry⟩ := missed_of_bind id timely h
  obtain ⟨t, r, sends, missed, session⟩ := Authenticated.run_missed (a := o.authenticated) before
  exact ⟨t, r, sends, carry t r missed, (congrArg (·.client.session) same).trans session⟩

/-! ## What is open -/

theorem FileContent.take_timely (size : Option Nat) : (FileContent.take size).Punctual := by
  have obstacle (f : FileContent) : ∀ e, f.obstacle size = some e → e.Timely := by
    intro e h
    unfold FileContent.obstacle at h
    split at h
    · cases h
      trivial
    · obtain ⟨_, _, rfl⟩ := Option.map_eq_some_iff.mp h
      trivial
  intro f _
  refine ⟨?_, trivial⟩
  unfold FileContent.take
  split
  · exact .error trivial
  · split
    · exact .error trivial
    · cases kept : f.obstacle size with
      | none => exact trivial
      | some e => exact .error (obstacle f e kept)

namespace Upload

theorem onChannel_timely {α : Type} {a : Attempt (Logged Channel) α} (h : a.Punctual) : (onChannel a).Punctual :=
  h.within _ _

theorem write_timely (data : Bytes) : (write data).Punctual := by
  have send : (send data).Punctual := by
    intro c _
    unfold Upload.send
    rcases Channel.transmit (.octets data) c with ⟨e | v, d⟩
    · exact ⟨.error (Channel.failureOf_timely _ e), trivial⟩
    · exact ⟨trivial, trivial⟩
  apply ends_state.bind
  intro u _
  split
  · exact ends_fail trivial
  · exact onChannel_timely send

theorem writeAll_timely (pieces : List Bytes) : (writeAll pieces).Punctual := by
  induction pieces with
  | nil => exact ends_pure trivial
  | cons data rest ih => exact (write_timely data).bind fun _ _ => ih

theorem close_timely : close.Punctual := by
  apply ends_state.bind
  intro u _
  split
  · exact ends_pure trivial
  · -- what the box answers is told behind the closing of the channel
    apply Ends.bind (ends_update fun _ _ => trivial)
    intro _ _
    have asked := onChannel_timely (Channel.ask_timely (u.value.ending "upload_finalize") "upload_finalize"
      (some u.value.requestId) u.value.replyTimeout)
    apply asked.outcome.bind
    intro result timely
    apply Ends.bind (ends_update fun _ _ => trivial)
    intro _ _
    exact (ends_lift timely).bind fun _ _ => ends_pure trivial

theorem cancel_timely : cancel.Punctual := by
  apply ends_state.bind
  intro u _
  split
  · exact ends_pure trivial
  · -- of what comes of the action, faults alone are told
    apply Ends.bind (ends_update fun _ _ => trivial)
    intro _ _
    have sent := onChannel_timely (Channel.sendAction_timely (u.value.ending "upload_cancel"))
    apply sent.outcome.bind
    intro result _
    apply Ends.bind (ends_update fun _ _ => trivial)
    intro _ _
    split
    · exact ends_fail trivial
    · exact ends_pure trivial

/-- A block misses no deadline but one that its caller has missed in between. -/
theorem block_timely (pieces : List Bytes) {failure : Option Failure} (own : ∀ f, failure = some f → f.Timely) :
    (block pieces failure).Punctual := by
  unfold block
  refine Ends.bind (Ends.outcome (show Attempt.Punctual _ from ?body)) fun result timely => ?_
  case body =>
    apply (writeAll_timely pieces).bind
    intro _ _
    cases failure with
    | none => exact ends_pure trivial
    | some f => exact ends_fail (own f rfl)
  cases result with
  | ok v => exact close_timely
  | error e => exact cancel_timely.bind fun _ _ => ends_fail timely

end Upload

namespace EventStream

/-- What is found is told, if it is a failure, as no missed deadline. -/
def Found.Timely : Found → Prop
  | failure e | ended (some e) => e.Timely
  | event _ | ended none => True

theorem notification_timely (ms : Members) : FailsIn Failure.Timely (notification ms) := by
  rw [notification_apply]
  unfold Members.notified
  cases ms.get? "source" with
  | none => exact .error trivial
  | some source => cases ms.get? "event" <;> first | exact .ok _ | exact .error trivial

/-- By induction on the messages to come: one that is passed over tells nothing. -/
theorem scan_timely (inbox : List Incoming) : (scan inbox).1.Timely := by
  induction inbox with
  | nil => exact trivial
  | cons first rest ih =>
    cases first with
    | failure e => cases e <;> exact trivial
    | message m =>
      rw [scan]
      cases Channel.decodeMessage m with
      | error e => exact trivial
      | ok ms =>
        dsimp only
        split
        · have accepted := Channel.accepted_timely ms
          cases told : Channel.accepted ms with
          | error e => exact accepted.failure told
          | ok _ =>
            have notified := notification_timely ms
            cases read : notification ms with
            | error e => exact notified.failure read
            | ok r => exact trivial
        · exact ih

theorem next_timely : next.Punctual := by
  intro s _
  have found := scan_timely s.value.channel.inbox
  refine ⟨?_, trivial⟩
  unfold next
  split
  · exact trivial
  · rcases looked : scan s.value.channel.inbox with ⟨r | e | - | e, rest⟩ <;> rw [looked] at found
    · exact trivial
    · exact .error found
    · exact trivial
    · exact .error found

theorem collect_timely (n : Nat) : (collect n).Punctual := by
  induction n with
  | zero => exact ends_pure trivial
  | succ n ih =>
    apply next_timely.bind
    intro r _
    cases r with
    | none => exact ends_pure trivial
    | some r => exact ih.bind fun _ _ => ends_pure trivial

theorem drain_timely : drain.Punctual := by
  apply ends_state.bind
  intro s _
  apply (collect_timely (s.value.channel.inbox.length + 1)).outcome.bind
  intro result timely
  -- the stream is closed before the result is told
  exact Ends.bind (ends_update fun _ _ => trivial) fun _ _ => ends_lift timely

end EventStream

/-! ## At a desk -/

namespace Desk

variable {α : Type}

theorem file_timely (i : Nat) {a : Attempt FileContent α} (h : a.Punctual) : (file i a).Punctual := by
  intro d _
  refine ⟨?_, trivial⟩
  unfold file
  cases d.files[i]? with
  | none => exact .error trivial
  | some f => exact (h f trivial).1

theorem upload_timely (i : Nat) {a : Attempt (Logged Upload) α} (h : a.Punctual) : (upload i a).Punctual := by
  intro d _
  refine ⟨?_, trivial⟩
  unfold upload
  cases d.uploads[i]? with
  | none => exact .error trivial
  | some u => exact (h ⟨u, d.state.network.log⟩ trivial).1

theorem stream_timely (i : Nat) {a : Attempt (Logged EventStream) α} (h : a.Punctual) : (stream i a).Punctual := by
  intro d _
  refine ⟨?_, trivial⟩
  unfold stream
  cases d.streams[i]? with
  | none => exact .error trivial
  | some s => exact (h ⟨s, d.state.network.log⟩ trivial).1

end Desk

/-! ## Commands -/

namespace Command

/-- A command is one that is offered, and what its caller fails with in a block is no missed deadline. -/
def Genuine : Command → Prop
  | operate (.ok o) => o.Offered
  | uploadBlock _ _ (some f) => f.Timely
  | _ => True

/-- Whether a command is there to open a session. -/
def opens : Command → Bool
  | login | renew _ => true
  | _ => false

/-- A command, carried out at a state, makes a request at a state: in the handshake that it is, or that it makes for a
token that is gone; as a request without a session; or as an operation under a session. -/
inductive Sends (s : State) : Command → State → Request → Prop
  | login {t : State} {r : Request} (sends : Negotiates s t r) : Sends s login t r
  | renewal {stale : Text} {t : State} {r : Request} (gone : s.client.token?.filter (· != stale) = none)
      (sends : Negotiates s t r) : Sends s (renew stale) t r
  | description : Sends s describe s s.client.describeRequest
  | registration {registration : Resource.Registration} {interval : Quantity} {attempts : Int} {t : State} {r : Request}
      (sends : Registers registration interval attempts s t r) : Sends s (authorize registration interval attempts) t r
  | aside {method : String} {path : Text} {parcel : Parcel} :
      Sends s (call method path false parcel) s (s.client.request method path none parcel)
  | operation {c : Command} {a : Authenticated} {t : State} {r : Request} (means : c.sessionUse = .operation a)
      (sends : a.Sends (s.client.uploads + 1) (a.begun s) t r) : Sends s c t r

/-- Until a session is opened, the one that was found is there. -/
theorem Sends.of_opens {c : Command} {s t : State} {r : Request} (h : Sends s c t r) (opens : c.opens = true) :
    t.client.session = s.client.session := by
  cases h with
  | login sends => rw [sends.client]
  | renewal gone sends => rw [sends.client]
  | description | aside => rfl
  | registration sends => rw [sends.client]
  | operation means sends =>
    cases c with
    | login | renew _ => cases means
    | _ => cases opens

/-- What a command that misses a deadline did: the last of its requests was not answered in time, and unless it was to
open a session, that is still the one that the request was made under. -/
def Misses (c : Command) (d : Desk) : Prop :=
  ∃ t r, Sends d.state c t r ∧ Missed ((c.perform d).1, (c.perform d).2.state) t r ∧
    (c.perform d).2.state.client.session = if c.opens then none else t.client.session

/-- A command that does something with the client and keeps what comes of it misses what the client misses. -/
theorem misses_of_client {α : Type} {c : Command} {d : Desk} {a : Attempt State α} {next : α → Attempt Desk Product}
    (does : c.perform = (Desk.client a >>= next)) (timely : ∀ v, (next v).Punctual)
    (h : Overdue (c.perform d).1)
    (missed : Overdue (a d.state).1 → ∃ t r, Sends d.state c t r ∧ Missed (a d.state) t r ∧
      (a d.state).2.client.session = if c.opens then none else t.client.session) : c.Misses d := by
  rw [does] at h
  obtain ⟨before, same, carry⟩ := missed_of_bind Desk.state timely h
  obtain ⟨t, r, sends, last, session⟩ := missed before
  refine ⟨t, r, sends, ?_, ?_⟩
  · rw [does]
    exact carry t r last
  · rw [does, same]
    exact session

variable {d : Desk}

theorem login_missed (h : Overdue (login.perform d).1) : login.Misses d := by
  apply misses_of_client rfl (fun _ => ends_pure trivial) h
  intro overdue
  obtain ⟨before, same, carry⟩ := missed_of_bind id (fun _ => ends_pure trivial) overdue
  obtain ⟨t, r, sends, missed, dropped⟩ := handshake_missed before
  exact ⟨t, r, .login sends, carry t r missed, (congrArg (·.client.session) same).trans dropped⟩

theorem renew_missed {stale : Text} (h : Overdue ((renew stale).perform d).1) : (renew stale).Misses d := by
  apply misses_of_client rfl (fun _ => ends_pure trivial) h
  intro overdue
  rw [renew_apply] at overdue ⊢
  cases another : d.state.client.token?.filter (· != stale) with
  | some token =>
    rw [another] at overdue
    exact absurd overdue (not_overdue trivial)
  | none =>
    rw [another] at overdue
    obtain ⟨t, r, sends, missed, dropped⟩ := freshToken_missed overdue
    exact ⟨t, r, .renewal another sends, missed, dropped⟩

theorem describe_missed (h : Overdue (describe.perform d).1) : describe.Misses d := by
  apply misses_of_client rfl (fun _ => ends_pure trivial) h
  intro overdue
  have missed := exchange_missed Received.description_timely overdue
  exact ⟨_, _, .description, missed, congrArg Client.session (AsksOnly.client (describe_openly d.state))⟩

theorem authorize_missed {registration : Resource.Registration} {interval : Quantity} {attempts : Int}
    (h : Overdue ((authorize registration interval attempts).perform d).1) :
    (authorize registration interval attempts).Misses d := by
  apply misses_of_client rfl (fun _ => ends_pure trivial) h
  intro overdue
  obtain ⟨t, r, sends, missed, client⟩ := Freebox.authorize_missed overdue
  exact ⟨t, r, .registration sends, missed, congrArg Client.session client⟩

theorem aside_missed {method : String} {path : Text} {parcel : Parcel}
    (h : Overdue ((call method path false parcel).perform d).1) : (call method path false parcel).Misses d := by
  apply misses_of_client rfl (fun _ => ends_pure trivial) h
  intro overdue
  have client := (perform_asks method path none parcel d.state).client
  exact ⟨_, _, .aside, perform_missed overdue, congrArg Client.session client⟩

/-- What runs an operation under a session and keeps what comes of it misses what the operation misses. -/
theorem operation_missed {c : Command} {a : Authenticated} {next : a.Result → Attempt Desk Product}
    (means : c.sessionUse = .operation a) (unopened : c.opens = false) (does : c.perform = (Desk.client a.run >>= next))
    (timely : ∀ v, (next v).Punctual) (h : Overdue (c.perform d).1) : c.Misses d := by
  apply misses_of_client does timely h
  intro overdue
  obtain ⟨t, r, sends, missed, session⟩ := Authenticated.run_missed overdue
  rw [unopened]
  exact ⟨t, r, .operation means sends, missed, session⟩

/-- Nothing that is told when a client is left is a missed deadline. -/
theorem leaving_timely : Freebox.logout.Punctual ∧ Freebox.close.Punctual := by
  have left (s : State) : FailsIn Failure.Timely (Freebox.logout s).1 := by
    obtain ⟨calm, faulty⟩ := logout_result s
    by_cases h : s.LogoutEndsInFault
    · obtain ⟨f, told⟩ := faulty h
      rw [told]
      exact .error trivial
    · rw [calm h]
      exact trivial
  refine ⟨fun s _ => ⟨left s, trivial⟩, fun s _ => ⟨?_, trivial⟩⟩
  rw [close_apply]
  have told := left s
  cases raised : (Freebox.logout s).1 with
  | ok v => exact trivial
  | error f => exact told.failure raised

/-- **One command** that misses a deadline, in every state. -/
theorem perform_missed {c : Command} (genuine : c.Genuine) (h : Overdue (c.perform d).1) : c.Misses d := by
  -- what asks for nothing, or tells nothing of what it asks for, misses no deadline
  have never (timely : c.perform.Punctual) : c.Misses d := absurd h (timely.not_overdue d)
  have told {α : Type} {a : Attempt Desk α} {f : α → Product} (timely : a.Punctual) :
      (a >>= fun v => pure (f v) : Attempt Desk Product).Punctual := timely.bind fun _ _ => ends_pure trivial
  have kept (keep : Desk → Desk) (p : Product) :
      (Attempt.update keep >>= fun _ => pure p : Attempt Desk Product).Punctual :=
    Ends.bind (ends_update fun _ _ => trivial) fun _ _ => ends_pure trivial
  have client {α : Type} {a : Attempt State α} (timely : a.Punctual) : (Desk.client a).Punctual := timely.within _ _
  cases c with
  | login => exact login_missed h
  | renew stale => exact renew_missed h
  | describe => exact describe_missed h
  | authorize registration interval attempts => exact authorize_missed h
  | call method path authenticated parcel =>
    cases authenticated with
    | true => exact operation_missed (a := .call method path parcel) rfl rfl rfl (fun _ => ends_pure trivial) h
    | false => exact aside_missed h
  | operate draft =>
    cases draft with
    | error f => exact never (told (client (ends_fail trivial)))
    | ok o =>
      apply misses_of_client rfl (fun _ => ends_pure trivial) h
      intro overdue
      obtain ⟨t, r, sends, missed, session⟩ := Operation.run_missed genuine overdue
      exact ⟨t, r, .operation rfl sends, missed, session⟩
  | openContent path => exact operation_missed (a := .content path) rfl rfl rfl (fun _ => kept _ _) h
  | startUpload start => exact operation_missed (a := .upload start) rfl rfl rfl (fun _ => kept _ _) h
  | listen events =>
    cases events with
    | nil =>
      have refused : (Freebox.listen []).Punctual := ends_fail trivial
      exact never ((client refused).bind fun _ _ => kept _ _)
    | cons first others => exact operation_missed (a := .listening first others) rfl rfl rfl (fun _ => kept _ _) h
  | tool name arguments =>
    -- a tool answers by a text, whatever becomes of it
    have answers : (callTool name arguments).Punctual := fun s _ => ⟨trivial, trivial⟩
    exact never (told (client answers))
  | logout => exact never (told (client leaving_timely.1))
  | close => exact never (told (client leaving_timely.2))
  | setAppId _ | setPrivateToken _ | pass _ => exact never (told (client (ends_update fun _ _ => trivial)))
  | diagnostics => exact never (told (client ends_state))
  | takeContent i size => exact never (told (Desk.file_timely i (FileContent.take_timely size)))
  | releaseContent i => exact never (told (Desk.file_timely i (ends_update fun _ _ => trivial)))
  | write i data => exact never (told (Desk.upload_timely i (Upload.write_timely data)))
  | closeUpload i => exact never (told (Desk.upload_timely i Upload.close_timely))
  | cancelUpload i => exact never (told (Desk.upload_timely i Upload.cancel_timely))
  | uploadBlock i pieces failure =>
    have own : ∀ f, failure = some f → f.Timely := by
      rintro f rfl
      exact genuine
    exact never (told (Desk.upload_timely i (Upload.block_timely pieces own)))
  | next i => exact never (told (Desk.stream_timely i EventStream.next_timely))
  | drain i => exact never (told (Desk.stream_timely i EventStream.drain_timely))
  | closeStream i => exact never (told (Desk.stream_timely i (ends_update fun _ _ => trivial)))

end Command

/-- **The session behind a missed deadline**, whatever is done with a client, in every state and against every other
side. The deadline is that of the last request that was made: it was not answered in time. The session is still the one
that the request was made under, unless the command was to open one: then none is left, even if one was there. -/
theorem deadline_spares {c : Command} (genuine : c.Genuine) {d : Desk} {e : DeadlineError} {cause : Option BoxError}
    (told : (c.perform d).1 = .error (.box (.deadline e) cause)) :
    ∃ t r, Command.Sends d.state c t r ∧ (t.answer r).Late ∧ e = .request r.method r.url r.timeout ∧ cause = none ∧
      (c.perform d).2.state.asked = t.asked ++ [.request r] ∧
      (c.opens = false → (c.perform d).2.state.client.session = t.client.session) ∧
      (c.opens = true → t.client.session = d.state.client.session ∧ (c.perform d).2.state.client.session = none) := by
  obtain ⟨t, r, sends, missed, session⟩ := Command.perform_missed genuine ⟨e, cause, told⟩
  have same := Except.error.inj (told.symm.trans missed.told)
  cases same
  refine ⟨t, r, sends, missed.late, rfl, rfl, missed.last, fun other => ?_, fun opens => ?_⟩
  · rw [session, other]
    rfl
  · rw [session, opens]
    exact ⟨sends.of_opens opens, rfl⟩

/-- The rules are asked for under a session, and the box does not answer in time. -/
theorem list_deadline_spares :
    let client := Client.create "http://fbx.test" "v8" (some "app") (some "secret") (.int 10) true
    let told := fun result =>
      let body := "\x7b\"success\": true, \"result\": " ++ result ++ "\x7d"
      Reply.received ⟨200, [], [Utf8.encode body.toList], none⟩
    let peer : Peer := ⟨fun before _ =>
      if before.length = 0 then told "\x7b\"challenge\": \"VzhbtpR4\"\x7d"
      else if before.length = 1 then told "\x7b\"session_token\": \"token\"\x7d"
      else .failed ⟨true, "timed out"⟩, fun _ => .refused .closedNormally⟩
    let opened := (Command.login.perform (Desk.fresh client peer ⟨0⟩)).2
    let list := Command.operate (.ok Resource.PortForwarding.list)
    let missed := DeadlineError.request "GET" (client.url "fw/redir/") (.int 10)
    list.Genuine ∧ (list.perform opened).1 = .error (.box (.deadline missed) none) ∧
      ∃ t r, Command.Sends opened.state list t r ∧ missed = .request r.method r.url r.timeout ∧
        (list.perform opened).2.state.client.session = t.client.session := by
  intro client told peer opened list missed
  have genuine : list.Genuine := .portForwarding 0 {} (by simp)
  have overdue : (list.perform opened).1 = .error (.box (.deadline missed) none) :=
    Attempt.failed_of_decide (by decide +kernel)
  obtain ⟨t, r, sends, -, same, -, -, spared, -⟩ := deadline_spares genuine overdue
  exact ⟨genuine, overdue, t, r, sends, same, spared rfl⟩

/-- A client logs in twice, and the box does not answer the second time. The session that the first time has opened is
gone. -/
theorem login_deadline_drops :
    let client := Client.create "http://fbx.test" "v8" (some "app") (some "secret") (.int 10) true
    let told := fun result =>
      let body := "\x7b\"success\": true, \"result\": " ++ result ++ "\x7d"
      Reply.received ⟨200, [], [Utf8.encode body.toList], none⟩
    let peer : Peer := ⟨fun before _ =>
      if before.length = 0 then told "\x7b\"challenge\": \"VzhbtpR4\"\x7d"
      else if before.length = 1 then told "\x7b\"session_token\": \"token\"\x7d"
      else .failed ⟨true, "timed out"⟩, fun _ => .refused .closedNormally⟩
    let opened := (Command.login.perform (Desk.fresh client peer ⟨0⟩)).2
    let again := Command.login.perform opened
    opened.state.client.token? = some "token" ∧
      again.1 = .error (.box (.deadline (.request "GET" (client.url "login") (.int 10))) none) ∧
      again.2.state.asked = opened.state.asked ++ [.request client.challengeRequest] ∧
      again.2.state.client.token? = none := by
  intro client told peer opened again
  refine ⟨?_, Attempt.failed_of_decide ?_, ?_, ?_⟩
  · decide +kernel
  · decide +kernel
  · decide +kernel
  · decide +kernel

end Freebox
