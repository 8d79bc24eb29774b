import Freebox.Proofs.Command.SessionUse
import Freebox.Proofs.Session.Unconfigured
import Mathlib.Data.List.Forall2

/-!
# `Freebox.Proofs.Command.Unconfigured` — whole runs without credentials

A client that has neither a session nor credentials asks for nothing, whatever is done with it, as long as its
credentials stay as they are and nothing is done that is open to anybody. Everything that needs a session is told which
credential is missing. A client without credentials that still has a session comes to that point by the first rejection.

## Contents
- `Command.isOpen`, `Command.Configures`: what is open to anybody, and what sets credentials.
- `State.Idles`, `Command.plain_idles`: what asks for nothing, or for nothing but what is open to anybody.
- `Command.plain_requests`: what does not mean the session makes requests alone, and opens no channel.
- `Command.refusal`, `Command.perform_fails`: what a command brings if its use of the session fails.
- `Command.perform_stays`, `Desk.run_stays`: one command and whole runs of a client without a session.
- `Command.perform_rejected`: the rejection of the last session.
- `unset_asks_nothing`: runs with and without a session.
-/

namespace Freebox

/-! ## Kinds of commands -/

namespace Command

/-- What is open to anybody: registering, describing, and calls without a session. -/
def isOpen : Command → Prop
  | authorize _ _ _ | describe | call _ _ false _ => True
  | tool name _ => Tool.ofName? name = some .apiVersion
  | _ => False

/-- What sets a credential. -/
def Configures : Command → Prop
  | setAppId _ | setPrivateToken _ => True
  | _ => False

end Command

/-- Whether a use of the session needs one. -/
def SessionUse.Needs : SessionUse → Prop
  | login | renew _ | operation _ => True
  | plain | logout => False

/-! ## What asks for nothing -/

/-- From one state to another a client stays as it is and asks for nothing but requests without a token, and for nothing
at all unless it is open to anybody. -/
def State.Idles (isOpen : Prop) (s t : State) : Prop :=
  ∃ news : List Request, Asks (news.map .request) s t ∧ (∀ r ∈ news, r.Tokenless) ∧ (¬ isOpen → news = [])

namespace State.Idles

variable {isOpen : Prop} {s t : State}

theorem of_quiet (h : Asks [] s t) : Idles isOpen s t := ⟨[], h, by simp, fun _ => rfl⟩

theorem refl : Idles isOpen s s := of_quiet (refl_of (Asks []) s)

theorem of_openly (h : Openly s t) (here : isOpen) : Idles isOpen s t := by
  obtain ⟨news, asks, tokenless⟩ := h
  exact ⟨news, asks, fun r hr => (tokenless r hr).1, fun closed => absurd here closed⟩

end State.Idles

/-- A tool that does not mean the session asks for nothing, unless it describes the box. -/
theorem callTool_idles {name : String} {arguments : Option Members}
    (plain : toolSessionUse name (arguments.getD []) = .plain) (s : State) :
    s.Idles (Tool.ofName? name = some .apiVersion) (callTool name arguments s).2 := by
  rw [callTool_state]
  unfold toolSessionUse at plain
  unfold runTool
  cases named : Tool.ofName? name with
  | none => exact .refl
  | some tool =>
    rw [named] at plain
    dsimp only at plain ⊢
    cases planned : tool.plan (arguments.getD []) with
    | error f => exact .refl
    | ok plan =>
      rw [planned] at plain
      cases plan with
      | operation o report => cases plain
      | login => cases plain
      | diagnostics => exact .refl
      | describe =>
        obtain rfl : tool = .apiVersion := (tool.plan_of _).value planned
        dsimp only [Plan.run]
        rw [Attempt.map_state]
        exact .of_openly (describe_openly s) rfl

/-- **What does not mean the session** and sets no credentials asks for nothing, unless it is open to anybody. -/
theorem Command.plain_idles {c : Command} (plain : c.sessionUse = .plain) (keeps : ¬ c.Configures) (d : Desk) :
    d.state.Idles c.isOpen (c.perform d).2.state := by
  cases c with
  | login | logout | close | renew _ | openContent _ | startUpload _ => cases plain
  | setAppId _ | setPrivateToken _ => exact absurd trivial keeps
  | pass _ => exact .of_quiet ⟨rfl, rfl, (List.append_nil _).symm⟩
  | diagnostics => exact .refl
  | describe => exact Desk.told (.of_openly (describe_openly d.state) trivial)
  | authorize registration interval attempts =>
    exact Desk.told (.of_openly (authorize_openly registration interval attempts d.state) trivial)
  | call method path authenticated parcel =>
    cases authenticated with
    | true => cases plain
    | false =>
      refine Desk.told ⟨[_], perform_asks method path none parcel d.state, ?_, fun closed => absurd trivial closed⟩
      intro r hr
      rw [List.mem_singleton.mp hr]
      exact request_tokenless _ _ _ _
  | operate draft =>
    cases draft with
    | ok o => cases plain
    | error f => exact .refl
  | tool name arguments =>
    rw [Command.perform, Desk.told_state]
    exact callTool_idles plain d.state
  | takeContent i size => exact Desk.told (.of_quiet (Desk.file_quiet i _ d))
  | releaseContent i => exact Desk.told (.of_quiet (Desk.file_quiet i _ d))
  | write i data => exact Desk.told (.of_quiet (Desk.upload_quiet i (Upload.write_silent data) d))
  | closeUpload i => exact Desk.told (.of_quiet (Desk.upload_quiet i Upload.close_silent d))
  | cancelUpload i => exact Desk.told (.of_quiet (Desk.upload_quiet i Upload.cancel_silent d))
  | uploadBlock i pieces failure =>
    exact Desk.told (.of_quiet (Desk.upload_quiet i (Upload.block_silent pieces failure) d))
  | listen events =>
    cases events with
    | nil =>
      have reached : ((Command.listen []).perform d).2.state = (Freebox.listen [] d.state).2 :=
        Desk.kept_state (Freebox.listen []) (fun v d => { d with streams := d.streams ++ [v] }) _ (fun _ _ => rfl) d
      rw [reached]
      exact .refl
    | cons first others => cases plain
  | next i => exact Desk.told (.of_quiet (Desk.stream_quiet i EventStream.next_silent d))
  | drain i => exact Desk.told (.of_quiet (Desk.stream_quiet i EventStream.drain_silent d))
  | closeStream i => exact Desk.told (.of_quiet (Desk.stream_quiet i EventStream.close_silent d))

/-- **What does not mean the session** makes requests alone, and leaves the address of its client and the count of its
uploads. -/
theorem Command.plain_requests {c : Command} (plain : c.sessionUse = .plain) (d : Desk) :
    let after := (c.perform d).2.state
    (∃ news : List Request, after.asked = d.state.asked ++ news.map .request) ∧
      after.client.base = d.state.client.base ∧ after.client.uploads = d.state.client.uploads := by
  intro after
  by_cases sets : c.Configures
  · -- a credential is set beside the rest
    cases c with
    | setAppId value | setPrivateToken value => exact ⟨⟨[], (List.append_nil _).symm⟩, rfl, rfl⟩
    | _ => cases sets
  · obtain ⟨news, asks, -⟩ := c.plain_idles plain sets d
    exact ⟨⟨news, asks.asked⟩, congrArg Client.base asks.client, congrArg Client.uploads asks.client⟩

/-! ## What is told -/

/-- How a use of the session fails at a state. -/
def SessionUse.Fails : SessionUse → State → Failure → Prop
  | login, s, f => (handshake s).1 = .error f
  | renew stale, s, f => (Freebox.renew stale s).1 = .error f
  | operation a, s, f => (a.run s).1 = .error f
  | plain, _, _ | logout, _, _ => False

/-- What a command brings if its use of the session fails: the failure, or for a tool the text that reports it. -/
def Command.refusal (f : Failure) : Command → Except Failure Product
  | tool _ _ => .ok (.value (.str (answerText (.error f))))
  | _ => .error f

theorem Desk.client_fails {α β : Type} {a : Attempt State α} {next : α → Attempt Desk β} {d : Desk} {f : Failure}
    (h : (a d.state).1 = .error f) : ((client a >>= next) d).1 = .error f := by
  have failed : client a d = (.error f, (client a d).2) := Prod.ext h rfl
  rw [Attempt.bind_of_error failed]

theorem login_fails {s : State} {f : Failure} (h : (handshake s).1 = .error f) : (login s).1 = .error f := by
  have told : (login s).1 = (handshake s).1.map Prod.snd := congrArg Prod.fst (Attempt.map_apply handshake Prod.snd s)
  rw [told, h]
  rfl

theorem operation_fails {o : Operation} {s : State} {f : Failure} (h : (o.authenticated.run s).1 = .error f) :
    (o.run s).1 = .error f := by
  have called : call o.method o.path true { payload := o.payload, form := o.form } s
      = (.error f, (o.authenticated.run s).2) := Prod.ext h rfl
  unfold Operation.run
  rw [Attempt.bind_of_error called]

theorem plan_fails {plan : Plan} {s : State} {f : Failure} (h : plan.sessionUse.Fails s f) :
    (plan.run s).1 = .error f := by
  cases plan with
  | operation o report =>
    rw [Plan.run, Attempt.map_apply, operation_fails h]
    rfl
  | login =>
    rw [Plan.run, Attempt.map_apply, login_fails h]
    rfl
  | describe => cases h
  | diagnostics => cases h

theorem runTool_fails {name : String} {arguments : Members} {s : State} {f : Failure}
    (h : (toolSessionUse name arguments).Fails s f) : (runTool name arguments s).1 = .error f := by
  unfold toolSessionUse at h
  unfold runTool
  cases named : Tool.ofName? name with
  | none =>
    rw [named] at h
    cases h
  | some tool =>
    rw [named] at h
    dsimp only at h ⊢
    cases planned : tool.plan arguments with
    | error g =>
      rw [planned] at h
      cases h
    | ok plan =>
      rw [planned] at h
      exact plan_fails h

/-- **A command whose use of the session fails** tells the failure. -/
theorem Command.perform_fails {c : Command} {d : Desk} {f : Failure} (h : c.sessionUse.Fails d.state f) :
    (c.perform d).1 = c.refusal f := by
  cases c with
  | login => exact Desk.client_fails (login_fails h)
  | call method path authenticated parcel =>
    cases authenticated with
    | true => exact Desk.client_fails (a := Freebox.call method path true parcel) h
    | false => cases h
  | renew stale => exact Desk.client_fails (a := Freebox.renew stale) h
  | operate draft =>
    cases draft with
    | ok o => exact Desk.client_fails (a := Operation.runDraft (.ok o)) (operation_fails h)
    | error g => cases h
  | tool name arguments =>
    have failed : (runTool name (arguments.getD []) d.state).1 = .error f := runTool_fails h
    have text : (Desk.client (callTool name arguments) d).1 = .ok (answerText (.error f)) := by
      show (callTool name arguments d.state).1 = _
      rw [callTool, Attempt.map_apply, Attempt.outcome_apply, failed]
      rfl
    rw [Command.perform, Attempt.map_apply, text]
    rfl
  | openContent path => exact Desk.client_fails (a := getFile path) h
  | startUpload start => exact Desk.client_fails (a := Freebox.startUpload start) h
  | listen events =>
    cases events with
    | nil => cases h
    | cons first others => exact Desk.client_fails (a := Freebox.listen (first :: others)) h
  | _ => cases h

/-! ## Without a session -/

/-- A use that needs a session fails for the missing credential. -/
theorem SessionUse.fails_unconfigured {e : SessionUse} (needs : e.Needs) {s : State} (unconfigured : s.Unconfigured) :
    e.Fails s s.client.unsetFailure := by
  cases e with
  | login => exact congrArg Prod.fst (handshake_unconfigured unconfigured)
  | renew stale => exact congrArg Prod.fst (renew_unconfigured unconfigured stale)
  | operation a => exact congrArg Prod.fst (run_unconfigured unconfigured a)
  | plain => cases needs
  | logout => cases needs

/-- What a command leaves of a client without a session: it asked for nothing, or for nothing but what is open to
anybody; it has no session, and the same credential is missing. -/
structure State.Stays (isOpen : Prop) (s t : State) : Prop where
  unconfigured : t.Unconfigured
  missing : t.client.missing = s.client.missing
  asked : ∃ news, t.asked = s.asked ++ news ∧ (∀ x ∈ news, x.tokens = []) ∧ (¬ isOpen → news = [])

namespace State.Stays

variable {isOpen : Prop} {s t : State}

theorem of_idles (unconfigured : s.Unconfigured) (h : s.Idles isOpen t) : s.Stays isOpen t := by
  obtain ⟨news, asks, tokenless, closed⟩ := h
  have client : t.client = s.client := asks.client
  constructor
  case unconfigured =>
    constructor
    case session => rw [client, unconfigured.session]
    case unset =>
      rw [client]
      exact unconfigured.unset
  case missing => rw [client]
  case asked =>
    refine ⟨news.map .request, asks.asked, fun x hx => ?_, fun shut => by rw [closed shut]; rfl⟩
    obtain ⟨r, hr, rfl⟩ := List.mem_map.mp hx
    exact (tokenless r hr).tokens

theorem refl (unconfigured : s.Unconfigured) : s.Stays isOpen s := of_idles unconfigured .refl

end State.Stays

/-- **One command** of a client that has neither a session nor credentials. -/
theorem Command.perform_stays {c : Command} (keeps : ¬ c.Configures) {d : Desk} (unconfigured : d.state.Unconfigured) :
    d.state.Stays c.isOpen (c.perform d).2.state := by
  have transition := c.perform_transition d
  cases means : c.sessionUse with
  | plain => exact .of_idles unconfigured (c.plain_idles means keeps d)
  | login =>
    rw [means] at transition
    have reached : (c.perform d).2.state = d.state :=
      transition.trans (congrArg Prod.snd (handshake_unconfigured unconfigured))
    rw [reached]
    exact .refl unconfigured
  | logout =>
    rw [means] at transition
    have still : Asks [] d.state (c.perform d).2.state := by
      have left : Asks [] (Freebox.logout d.state).2 (c.perform d).2.state := transition
      rwa [logout_unconfigured unconfigured] at left
    exact .of_idles unconfigured (.of_quiet still)
  | renew stale =>
    rw [means] at transition
    have reached : (c.perform d).2.state = d.state :=
      transition.trans (congrArg Prod.snd (renew_unconfigured unconfigured stale))
    rw [reached]
    exact .refl unconfigured
  | operation a =>
    rw [means] at transition
    have reached : (c.perform d).2.state = a.begun d.state :=
      transition.trans (congrArg Prod.snd (run_unconfigured unconfigured a))
    obtain ⟨unset, missing⟩ := begun_unset unconfigured.unset a
    rw [reached]
    -- the number of an upload is used up all the same, and nothing else changes
    constructor
    case unconfigured => exact ⟨by rw [a.begun_session, unconfigured.session], unset⟩
    case missing => exact missing
    case asked => exact ⟨[], by rw [a.begun_asked, List.append_nil], by simp, fun _ => rfl⟩

namespace Desk

/-- **A whole run** of a client that has neither a session nor credentials, by induction on its commands. -/
theorem run_stays (cs : List Command) (keeps : ∀ c ∈ cs, ¬ c.Configures) {d : Desk}
    (unconfigured : d.state.Unconfigured) :
    d.state.Stays (∃ c ∈ cs, c.isOpen) (run cs d).2.state ∧
      List.Forall₂ (fun c result => c.sessionUse.Needs → result = c.refusal d.state.client.unsetFailure) cs
        (run cs d).1 := by
  induction cs generalizing d with
  | nil => exact ⟨.refl unconfigured, .nil⟩
  | cons c cs ih =>
    have step := c.perform_stays (keeps c (by simp)) unconfigured
    obtain ⟨rest, told⟩ := ih (fun b hb => keeps b (by simp [hb])) step.unconfigured
    have failure : (c.perform d).2.state.client.unsetFailure = d.state.client.unsetFailure := by
      rw [Client.unsetFailure, step.missing]
      rfl
    rw [failure] at told
    obtain ⟨first, asked, untold, closed⟩ := step.asked
    obtain ⟨later, asked_then, untold_then, closed_then⟩ := rest.asked
    refine ⟨⟨rest.unconfigured, rest.missing.trans step.missing, first ++ later, ?_, ?_, ?_⟩, .cons ?_ told⟩
    · show (run cs (c.perform d).2).2.state.asked = _
      rw [asked_then, asked, List.append_assoc]
    · intro x hx
      rcases List.mem_append.mp hx with early | late
      · exact untold x early
      · exact untold_then x late
    · intro none_open
      have first_closed : ¬ c.isOpen := fun h => none_open ⟨c, by simp, h⟩
      have others_closed : ¬ ∃ b ∈ cs, b.isOpen := by
        rintro ⟨b, hb, h⟩
        exact none_open ⟨b, by simp [hb], h⟩
      rw [closed first_closed, closed_then others_closed]
      rfl
    · intro needs
      exact Command.perform_fails (SessionUse.fails_unconfigured needs unconfigured)

end Desk

/-! ## With a session -/

/-- An operation whose session is rejected fails for the missing credential, and the session is gone. -/
theorem Command.perform_rejected {c : Command} {a : Authenticated} {d : Desk} {session : Session} {f : Failure}
    {t : State} (unset : d.state.client.Unset) (means : c.sessionUse = .operation a)
    (there : d.state.client.session = some session)
    (attempted : a.attempt (d.state.client.uploads + 1) session.token (a.begun d.state) = (.error f, t))
    (rejected : f.isRejection = true) :
    (c.perform d).1 = c.refusal d.state.client.unsetFailure ∧
      (c.perform d).2.state.asked = d.state.asked ++ [a.asking d.state.client session.token] ∧
      (c.perform d).2.state.Unconfigured := by
  obtain ⟨failed, unconfigured, asked⟩ := run_rejected unset there attempted rejected
  have reached : (c.perform d).2.state = (a.run d.state).2 := by
    have transition := c.perform_transition d
    rw [means] at transition
    exact transition
  rw [reached]
  refine ⟨Command.perform_fails ?_, asked, unconfigured⟩
  rw [means]
  exact failed

/-- **Without credentials nothing is asked for.** While a client lacks a credential and has no session, commands that
neither set credentials nor are open to anybody send no request and open no channel, however many there are; the client
stays without a session, and everything that needs one is told which credential is missing. If it has a session, an
operation whose attempt is rejected asks for nothing more, is told the same, and leaves the client in that situation; so
whatever is done then with the same credentials, no token is ever shown again. -/
theorem unset_asks_nothing (d : Desk) (unset : d.state.client.Unset) :
    (d.state.client.session = none → ∀ cs : List Command, (∀ c ∈ cs, ¬ c.Configures ∧ ¬ c.isOpen) →
      let after := Desk.run cs d
      after.2.state.asked = d.state.asked ∧ after.2.state.client.session = none ∧
        List.Forall₂ (fun c result => c.sessionUse.Needs → result = c.refusal d.state.client.unsetFailure) cs after.1) ∧
      ∀ (c : Command) (a : Authenticated) (session : Session) (f : Failure) (t : State),
        d.state.client.session = some session → c.sessionUse = .operation a →
        a.attempt (d.state.client.uploads + 1) session.token (a.begun d.state) = (.error f, t) → f.isRejection = true →
        let after := c.perform d
        after.1 = c.refusal d.state.client.unsetFailure ∧
          after.2.state.asked = d.state.asked ++ [a.asking d.state.client session.token] ∧ after.2.state.Unconfigured ∧
          ∀ cs : List Command, (∀ c ∈ cs, ¬ c.Configures) →
            ∃ news, (Desk.run cs after.2).2.state.asked = after.2.state.asked ++ news ∧ ∀ x ∈ news, x.tokens = [] := by
  constructor
  · intro absent cs quiet after
    have unconfigured : d.state.Unconfigured := ⟨absent, unset⟩
    obtain ⟨stays, told⟩ := Desk.run_stays cs (fun c hc => (quiet c hc).1) unconfigured
    obtain ⟨news, asked, -, closed⟩ := stays.asked
    have all_closed : ¬ ∃ c ∈ cs, c.isOpen := by
      rintro ⟨c, hc, isOpen⟩
      exact (quiet c hc).2 isOpen
    rw [closed all_closed, List.append_nil] at asked
    exact ⟨asked, stays.unconfigured.session, told⟩
  · intro c a session f t there means attempted rejected after
    obtain ⟨told, asked, unconfigured⟩ := Command.perform_rejected unset means there attempted rejected
    refine ⟨told, asked, unconfigured, fun cs keeps => ?_⟩
    obtain ⟨stays, -⟩ := Desk.run_stays cs keeps unconfigured
    obtain ⟨news, asked_then, untold, -⟩ := stays.asked
    exact ⟨news, asked_then, untold⟩

/-- A client without an application still has a session. The box rejects it, and the client is told what is missing. -/
theorem unset_asks_nothing_rejected :
    let client : Client := { Client.create "http://fbx.test" "v8" (some "") (some "secret") (.int 10) true with
      session := some ⟨"old", ⟨0⟩⟩ }
    let refusal := "\x7b\"success\": false, \"error_code\": \"auth_required\"\x7d"
    let answer : Reply := .received ⟨403, [], [Utf8.encode refusal.toList], none⟩
    let peer : Peer := ⟨fun _ _ => answer, fun _ => .refused .closedNormally⟩
    let d : Desk := { state := { client, network := { peer, now := ⟨0⟩ } } }
    let list : Command := .operate (.ok Resource.PortForwarding.list)
    d.state.client.Unset ∧ (list.perform d).1 = .error (.ofBox (.configuration .appIdNotSet)) ∧
      (list.perform d).2.state.asked.map (·.url) = [client.url "fw/redir/"] ∧
      (list.perform d).2.state.client.session = none := by
  intro client refusal answer peer d list
  have unset : d.state.client.Unset := Or.inl (by decide)
  obtain ⟨-, rejection⟩ := unset_asks_nothing d unset
  let a := Operation.authenticated Resource.PortForwarding.list
  have rejects : (match (a.attempt 1 "old" d.state).1 with
    | .error f => f.isRejection
    | .ok _ => false) = true := by decide +kernel
  rcases attempted : a.attempt 1 "old" d.state with ⟨f | v, t⟩ <;> rw [attempted] at rejects
  · obtain ⟨told, asked, unconfigured, -⟩ := rejection list a ⟨"old", ⟨0⟩⟩ f t rfl rfl attempted rejects
    refine ⟨unset, told, ?_, unconfigured.session⟩
    rw [asked]
    rfl
  · cases rejects

end Freebox
