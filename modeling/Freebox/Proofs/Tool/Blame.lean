import Freebox.Proofs.Command.Exchange
import Freebox.Proofs.Envelope.Fault
import Freebox.Proofs.Session.Leaving
import Freebox.Proofs.Tool.Arguments

/-!
# `Freebox.Proofs.Tool.Blame` — what a call that ends in a fault has done

Arguments are looked at before anything is sent, so a fault in them leaves everything as it was. Behind that, a fault
comes from the reply to the last request: a body without a text, a challenge without octets, a code that cannot be
looked up, or a number beyond all integers. The first two are told like a refused argument, although a request was made.

## Contents
- `Reply.Unread`, `Reply.Undigested`, `Reply.Blames`: what in a reply a fault is blamed on.
- `Late`, `FaultsLate`: a fault behind a request, and attempts that have no others.
- `handshake_late`, `withSession_late`, `Operation.run_late`, `Plan.run_late`: everything that a plan may do.
- `tools_guarded`: what calls of tools tell, and what they have done by then.
- `challenge_refused`: a refusal behind a request.
-/

namespace Freebox

/-! ## What a fault is blamed on -/

namespace Reply

/-- A body was received that has no text in its charset. -/
def Unread (reply : Reply) (f : Fault) : Prop :=
  ∃ response received, reply = .received response ∧ response.whole = .ok received ∧ received.text = .error f

/-- A challenge was received that has no octets, for halves of surrogate pairs in it. -/
def Undigested (reply : Reply) (f : Fault) : Prop :=
  ∃ challenge e, reply.Brings challenge ∧ Utf8.encodeText challenge = .error e ∧ f = .unencodable e

/-- A failure is an error of the box, or a fault that something in a reply is to blame for. -/
def Blames (reply : Reply) : Failure → Prop
  | .box _ _ => True
  | .fault f => reply.Unread f ∨ reply.Undigested f ∨ (∃ kind, f = .unhashable kind) ∨ f.isMismatch = false

variable {reply : Reply}

theorem Blames.of_unmatched {e : Failure} (h : e.Unmatched) : reply.Blames e := by
  cases e with
  | box e cause => trivial
  | fault f => exact Or.inr (Or.inr (Or.inr h))

theorem Blames.of_box {e : Failure} (h : e.isBox = true) : reply.Blames e := by
  cases e with
  | box e cause => trivial
  | fault f => cases h

/-- What is read from a whole reply is to blame for what it accounts for. -/
theorem fails_of_whole {α : Type} {r : Request} {read : Received → Except Failure α}
    (h : ∀ received, FailsIn received.Accounts (read received)) : FailsIn reply.Blames ((reply.whole r).bind read) := by
  cases whole : reply.whole r with
  | error e => exact .error (.of_box (Reply.whole_failed whole))
  | ok received =>
    refine (h received).imp (fun _ => id) fun failure accounts => ?_
    cases failure with
    | box e cause => trivial
    | fault f =>
      rcases accounts with unread | known | number
      · cases reply with
        | failed e => cases whole
        | received response =>
          exact Or.inl ⟨response, received, rfl, Attempt.value_of_mapError whole, unread⟩
      · exact Or.inr (Or.inr (Or.inl known))
      · exact Or.inr (Or.inr (Or.inr number))

theorem envelope_fails (r : Request) (reply : Reply) : FailsIn reply.Blames (reply.envelope r) :=
  fails_of_whole Received.envelope_fails

end Reply

/-! ## Faults behind a request -/

/-- Requests were made between two states, and the reply to the last one is to blame for a fault. -/
def Late (s t : State) (f : Fault) : Prop :=
  ∃ made r, t.network.requests = s.network.requests ++ made ++ [r] ∧
    (s.network.peer.reply (s.network.requests ++ made) r).Blames (.fault f)

/-- All faults of an attempt are behind a request. -/
def FaultsLate {α : Type} (a : Attempt State α) : Prop := ∀ s f t, a s = (.error (.fault f), t) → Late s t f

/-- Requests were made between two states, of one and the same other side. -/
def Onward (s t : State) : Prop :=
  (∃ made, t.network.requests = s.network.requests ++ made) ∧ t.network.peer = s.network.peer

namespace Onward

variable {s t u : State} {f : Fault}

theorem refl (s : State) : Onward s s := ⟨⟨[], (List.append_nil _).symm⟩, rfl⟩

theorem of_orderly (h : Orderly s t) : Onward s t := by
  obtain ⟨made, requests, -⟩ := h.requests
  exact ⟨⟨made, requests⟩, h.peer⟩

theorem trans (h : Onward s t) (k : Onward t u) : Onward s u := by
  obtain ⟨⟨first, made⟩, peer⟩ := h
  obtain ⟨⟨second, made_then⟩, peer_then⟩ := k
  exact ⟨⟨first ++ second, by rw [made_then, made, List.append_assoc]⟩, peer_then.trans peer⟩

/-- A fault that is behind a request from some state on is so from earlier states on. -/
theorem late (h : Onward s t) (k : Late t u f) : Late s u f := by
  obtain ⟨⟨first, made⟩, peer⟩ := h
  obtain ⟨second, r, requests, blames⟩ := k
  rw [made, peer] at blames
  refine ⟨first ++ second, r, ?_, by rw [← List.append_assoc]; exact blames⟩
  rw [requests, made]
  simp

end Onward

theorem State.did_requests (r : Request) (s : State) :
    (s.did (.request r)).network.requests = s.network.requests ++ [r] := by
  simp [State.did, Network.did, Network.requests, Effect.request?]

/-- What is read from the reply to one request fails behind that request. -/
theorem late_of_request {α : Type} {s : State} {r : Request} {x : Except Failure α} {f : Fault}
    (h : FailsIn (s.answer r).Blames x) (told : x = .error (.fault f)) : Late s (s.did (.request r)) f :=
  ⟨[], r, by rw [State.did_requests, List.append_nil], by rw [List.append_nil]; exact h.failure told⟩

theorem FaultsLate.map {α β : Type} {a : Attempt State α} (h : FaultsLate a) (f : α → β) :
    FaultsLate (a >>= fun v => pure (f v)) := by
  intro s g t told
  rw [Attempt.bind_apply] at told
  rcases reached : a s with ⟨e | v, u⟩
  · rw [reached] at told
    obtain ⟨rfl, rfl⟩ : e = .fault g ∧ u = t := by simpa using told
    exact h s g u reached
  · rw [reached] at told
    simp at told

/-! ## Handshakes -/

/-- The word for a challenge fails for the reply that the challenge is in. -/
theorem State.word_fails (s : State) (privateToken : String) :
    FailsIn (s.answer s.client.challengeRequest).Blames (s.word privateToken) := by
  rcases s.word_apply privateToken with ⟨f, told, unread | ⟨v, undecoded⟩⟩ | ⟨challenge, brought, told⟩
  · rw [told]
    exact .error ((Reply.envelope_fails _ _).failure unread)
  · rw [told]
    exact .error (.of_unmatched ((Resource.challenge.decode_fails v).failure undecoded))
  · rw [told, password]
    cases written : Utf8.encodeText challenge with
    | ok octets => exact .ok _
    | error e => exact .error (Or.inr (Or.inl ⟨challenge, e, brought, written, rfl⟩))

theorem Envelope.opening_fails (e : Envelope) : FailsIn Failure.Unmatched e.opening :=
  FailsIn.bind (Resource.sessionResult.decode_fails e.result) fun _ => .ok _

theorem State.exchanged_fails (s : State) (appId word : String) :
    FailsIn (s.answer (s.client.exchangeRequest appId word)).Blames (s.exchanged appId word) :=
  FailsIn.bind (Reply.envelope_fails _ _) fun e => e.opening_fails.imp (fun _ => id) fun _ => .of_unmatched

theorem negotiate_late : FaultsLate negotiate := by
  intro s f t told
  rw [negotiate_apply] at told
  cases credentials : s.client.credentials with
  | error e =>
    rw [credentials] at told
    cases told
  | ok both =>
    obtain ⟨appId, privateToken⟩ := both
    simp only [credentials] at told
    cases word : s.word privateToken with
    | error g =>
      simp only [word] at told
      obtain ⟨rfl, rfl⟩ : g = .fault f ∧ s.challenged = t := by simpa using told
      exact late_of_request (s.word_fails privateToken) word
    | ok w =>
      simp only [word] at told
      obtain ⟨failed, rfl⟩ := Prod.mk.inj told
      -- the exchange is behind the challenge
      have onward : Onward s s.challenged := ⟨⟨_, State.did_requests _ s⟩, rfl⟩
      exact onward.late (late_of_request (s.challenged.exchanged_fails appId w) failed)

theorem handshake_late : FaultsLate handshake := by
  intro s f t told
  rw [handshake_apply] at told
  obtain ⟨failed, rfl⟩ := Prod.mk.inj told
  exact negotiate_late s f (negotiate s).2 (Prod.ext failed rfl)

/-! ## Operations -/

section
variable {α β : Type} {operation : Text → Attempt State α} {read : α → Except Failure β}

/-- **An operation under a session**, and the reading of what it brings: faults are behind a request, if those of its
attempts are. -/
theorem withSession_late (attempts : ∀ token, FaultsLate (operation token >>= fun v => .lift (read v)))
    (onward : ∀ token s, Onward s (operation token s).2) :
    FaultsLate (withSession operation >>= fun v => .lift (read v)) := by
  intro s f t told
  rw [Attempt.bind_lift] at told
  have handshakes : ∀ u, Onward s u → Onward s (handshake u).2 := fun u h => h.trans (.of_orderly (handshake_orderly u))
  have refusals : ∀ token u e cause w, Onward s u → operation token u = (.error (.box e cause), w) → Onward s w := by
    intro token u e cause w h failed
    have step := onward token u
    rw [failed] at step
    exact h.trans step
  rcases withSession_ends handshakes refusals (Onward.refl s) with
    ⟨g, w, ended, u, failure, reached, failed, same⟩ | ⟨token, u, reached, ended⟩
  · rw [ended] at told
    obtain ⟨rfl, rfl⟩ : g = .fault f ∧ w = t := by simpa [Except.bind] using told
    rw [same f rfl] at failed
    exact reached.late (handshake_late u f w failed)
  · refine reached.late (attempts token u f t ?_)
    rw [Attempt.bind_lift, ← ended]
    exact told

end

/-- One request, and the reading of what is in its reply. -/
theorem perform_late {α : Type} (method : String) (path : Text) (token : Option Text) (parcel : Parcel)
    {read : Envelope → Except Failure α} (h : ∀ e, FailsIn Failure.Unmatched (read e)) :
    FaultsLate (perform method path token parcel >>= fun e => .lift (read e)) := by
  intro s f t told
  rw [Attempt.bind_lift, perform_apply] at told
  obtain ⟨failed, rfl⟩ := Prod.mk.inj told
  exact late_of_request (FailsIn.bind (Reply.envelope_fails _ _) fun e =>
    (h e).imp (fun _ => id) fun _ => .of_unmatched) failed

theorem perform_onward (method : String) (path : Text) (token : Option Text) (parcel : Parcel) (s : State) :
    Onward s (perform method path token parcel s).2 := by
  rw [perform_apply]
  exact ⟨⟨_, State.did_requests _ s⟩, rfl⟩

theorem Operation.run_late {o : Operation} (prepared : o.reading.Prepared) : FaultsLate o.run :=
  withSession_late (fun token => perform_late o.method o.path (some token) _ fun _ => o.reading.read_fails prepared _)
    (fun token => perform_onward o.method o.path (some token) _)

/-- A null result is read without a failure wherever it is read as a record. -/
theorem Operation.Offered.prepared {o : Operation} (offered : o.Offered) : o.reading.Prepared := by
  cases offered with
  | fileSystem path name mode paths id e h =>
    revert o
    simp only [List.forall_mem_cons, List.not_mem_nil, false_implies, implies_true, and_true]
    exact ⟨⟨_, rfl⟩, trivial, trivial, trivial, trivial, trivial, trivial, trivial, trivial, trivial, trivial⟩
  | hash r h =>
    unfold Resource.FileSystem.hash at h
    cases payload : r.payload with
    | error f => rw [payload] at h; cases h
    | ok v => rw [payload] at h; cases h; trivial
  | addDownload r h =>
    unfold Resource.DownloadTask.add at h
    cases form : r.form with
    | error f => rw [form] at h; cases h
    | ok v => rw [form] at h; cases h; trivial
  | portForwarding _ _ h | staticLease _ _ h | lan _ _ h | virtualMachine _ _ h | virtualDisk _ _ _ _ h
  | download _ _ h | upload _ h =>
    revert o
    simp only [List.forall_mem_cons, List.not_mem_nil, false_implies, implies_true, and_true]
    repeat' apply And.intro
    all_goals trivial

theorem describe_late : FaultsLate describe := by
  intro s f t told
  have start : describe s = (exchange s.client.describeRequest >>= fun received =>
      Attempt.lift received.description) s := rfl
  rw [start, Attempt.bind_lift, exchange_apply] at told
  obtain ⟨failed, rfl⟩ := Prod.mk.inj told
  exact late_of_request (Reply.fails_of_whole Received.description_fails) failed

/-- **Every plan** that is carried out ends in a fault behind a request only. -/
theorem Plan.run_late {plan : Plan} (offered : plan.Offered) : FaultsLate plan.run := by
  cases plan with
  | operation o report => exact (Operation.run_late (Operation.Offered.prepared offered)).map report
  | describe => exact describe_late.map Record.toJson
  | login => exact (handshake_late.map Prod.snd).map _
  | diagnostics =>
    intro s f t told
    cases told

/-! ## Calls of tools -/

/-- The classes of fault by which keys and values are refused, those of encodings among them. -/
def Fault.IsRefusal (f : Fault) : Prop := f.cls ∈ [.key, .value, .unicode, .encoding, .decoding]

/-- What is told like a refusal behind a request is a body without a text or a challenge without octets. -/
theorem Reply.blames_refusal {reply : Reply} {f : Fault} (blames : reply.Blames (.fault f)) (refusal : f.IsRefusal) :
    reply.Unread f ∨ reply.Undigested f := by
  rcases blames with unread | undigested | ⟨kind, rfl⟩ | number
  · exact Or.inl unread
  · exact Or.inr undigested
  · simp [Fault.IsRefusal, Fault.cls] at refusal
  · -- every refusal is one of those that decoding makes an error of the box of
    unfold Fault.isMismatch at number
    cases cls : f.cls <;> simp [Fault.IsRefusal, cls] at refusal number

/-- Neither is a missing member or an unknown tool. -/
theorem Reply.blames_other {reply : Reply} {f : Fault} (blames : reply.Unread f ∨ reply.Undigested f) :
    f.cls ≠ .key ∧ ∀ name, f ≠ .unknownTool name := by
  rcases blames with ⟨response, received, -, -, unread⟩ | ⟨challenge, e, -, -, rfl⟩
  · have charset : f.isOfCharset := received.text_fails.failure unread
    cases f with
    | nullInName | refused | brokenCharset | brokenCharsetName | beyondAscii | unmarked | octetsForText
    | octetsForLetters | unordered | notInteger =>
      exact ⟨by simp [Fault.cls], by simp⟩
    | _ => cases charset
  · simp [Fault.cls]

section
variable {name : String} {tool : Tool} {arguments : Members} {s t : State} {f : Fault}

theorem runTool_unknown (h : name ∉ Tool.all.map Tool.name) (arguments : Members) (s : State) :
    runTool name arguments s = (.error (.fault (.unknownTool name)), s) := by
  rw [runTool, Tool.ofName?_eq_none.mpr h]
  rfl

/-- Without a plan nothing is done. -/
theorem runTool_unplanned (h : tool.plan arguments = .error f) (s : State) :
    runTool tool.name arguments s = (.error (.fault f), s) := by
  rw [runTool, Tool.ofName?_name]
  simp only [h]
  rfl

/-- A call of a tool ends in a fault of its arguments, and nothing is done, or in a fault behind a request. -/
theorem runTool_fault (told : runTool tool.name arguments s = (.error (.fault f), t)) :
    (tool.plan arguments = .error f ∧ t = s) ∨ (Tool.Made (tool.plan arguments) ∧ Late s t f) := by
  rw [runTool, Tool.ofName?_name] at told
  cases planned : tool.plan arguments with
  | error g =>
    simp only [planned] at told
    obtain ⟨rfl, rfl⟩ : g = f ∧ s = t := by simpa using told
    exact Or.inl ⟨rfl, rfl⟩
  | ok plan =>
    simp only [planned] at told
    exact Or.inr ⟨⟨plan, rfl⟩, Plan.run_late (tool.plan_offered arguments plan planned) s f t told⟩

/-- No tool is told to be unknown. -/
theorem runTool_known (told : runTool tool.name arguments s = (.error (.fault f), t)) (other : String) :
    f ≠ .unknownTool other := by
  rintro rfl
  rcases runTool_fault told with ⟨unplanned, -⟩ | ⟨-, made, r, -, blames⟩
  · exact (tool.plan_fails arguments).failure unplanned
  · have refusal : (Fault.unknownTool other).IsRefusal := by simp [Fault.IsRefusal, Fault.cls]
    exact (Reply.blames_other (Reply.blames_refusal blames refusal)).2 other rfl

end

/-- **What calls of tools tell, and what they have done by then.** A name that no tool has is unknown, and no other. A
call without an argument that is required fails; a call with arguments that are allowed does not, unless a path among
them has no octets, before it has made a request. Whenever a call is refused, nothing was done; only a reply whose body
has no text, or whose challenge has no octets, is told like a refused value although a request was made. -/
theorem tools_guarded (name : String) (arguments : Members) (s : State) :
    (name ∉ Tool.all.map Tool.name → runTool name arguments s = (.error (.fault (.unknownTool name)), s)) ∧
    (name ∈ Tool.all.map Tool.name →
      ∀ other t, runTool name arguments s ≠ (.error (.fault (.unknownTool other)), t)) ∧
    (∀ tool : Tool, tool.name = name →
      (∀ key ∈ tool.required, arguments.get? key = none →
        ∃ f, runTool name arguments s = (.error (.fault f), s)) ∧
      (tool.Accepts arguments →
        (∀ e, tool.Unwritable arguments e → runTool name arguments s = (.error (.fault (.unencodable e)), s)) ∧
        ((∀ e, ¬ tool.Unwritable arguments e) → ∀ f t, runTool name arguments s = (.error (.fault f), t) →
          ∃ made r, t.network.requests = s.network.requests ++ made ++ [r]))) ∧
    (∀ f t, runTool name arguments s = (.error (.fault f), t) → f.IsRefusal → t = s ∨
      f.cls ≠ .key ∧ ∃ made r, t.network.requests = s.network.requests ++ made ++ [r] ∧
        ((s.network.peer.reply (s.network.requests ++ made) r).Unread f ∨
          (s.network.peer.reply (s.network.requests ++ made) r).Undigested f)) := by
  have named (known : name ∈ Tool.all.map Tool.name) : ∃ tool : Tool, tool.name = name := by
    obtain ⟨tool, -, same⟩ := List.mem_map.mp known
    exact ⟨tool, same⟩
  refine ⟨fun unknown => runTool_unknown unknown arguments s, ?known, ?arguments, ?refused⟩
  case known =>
    intro known other t told
    obtain ⟨tool, rfl⟩ := named known
    exact runTool_known told other rfl
  case arguments =>
    rintro tool rfl
    refine ⟨fun key required missing => ?_, fun accepts => ⟨fun e unwritable => ?_, fun writable f t told => ?_⟩⟩
    · obtain ⟨f, fails⟩ := Tool.plan_missing required missing
      exact ⟨f, runTool_unplanned fails s⟩
    · exact runTool_unplanned (Tool.plan_of_unwritable accepts unwritable) s
    · obtain ⟨plan, planned⟩ := Tool.plan_of_writable accepts writable
      rcases runTool_fault told with ⟨unplanned, -⟩ | ⟨-, made, r, requests, -⟩
      · rw [planned] at unplanned
        cases unplanned
      · exact ⟨made, r, requests⟩
  case refused =>
    intro f t told refusal
    by_cases known : name ∈ Tool.all.map Tool.name
    · obtain ⟨tool, rfl⟩ := named known
      rcases runTool_fault told with ⟨-, same⟩ | ⟨-, made, r, requests, blames⟩
      · exact Or.inl same
      · have blamed := Reply.blames_refusal blames refusal
        exact Or.inr ⟨(Reply.blames_other blamed).1, made, r, requests, blamed⟩
    · rw [runTool_unknown known] at told
      exact Or.inl (Prod.mk.inj told).2.symm

/-- A challenge with half of a surrogate pair is told like a refused value, although a request was made for it. -/
theorem challenge_refused :
    let client : Client := Client.create "http://fbx.test" "v8" (some "app") (some "secret") (.int 10) false
    let body := "\x7b\"success\": true, \"result\": \x7b\"challenge\": \"\\ud83d\"\x7d\x7d"
    let reply : Reply := .received ⟨200, [], [Utf8.encode body.toList], none⟩
    let peer : Peer := ⟨fun _ _ => reply, fun _ => .refused .closedNormally⟩
    let s : State := { client, network := { peer, now := ⟨0⟩ } }
    let f : Fault := .unencodable ⟨0, 1, 0xD83D⟩
    (runTool "list_port_forwarding" [] s).1 = .error (.fault f) ∧ f.IsRefusal ∧
      (runTool "list_port_forwarding" [] s).2.network.requests ≠ s.network.requests := by
  intro client body reply peer s f
  refine ⟨Attempt.failed_of_decide ?_, ?_, ?_⟩
  · decide +kernel
  · simp [f, Fault.IsRefusal, Fault.cls]
  · decide +kernel

end Freebox
