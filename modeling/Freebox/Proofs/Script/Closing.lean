import Freebox.Proofs.Command.Path
import Freebox.Proofs.Session.Challenge
import Freebox.Proofs.Session.Leaving
import Freebox.Proofs.Session.Unconfigured
import Freebox.Script

/-!
# `Freebox.Proofs.Script.Closing` — programs leave no session open

A program that makes a client does its work with it, closes it and says what came of it. Whatever the work comes to, the
closing comes behind it, and nothing but words comes behind the closing. So how a program leaves its client is told by
the state that the work ends in. A program whose arguments or environment are refused makes no client at all.

## Contents
- `close_client`, `close_requests`: what closing comes to.
- `Program`, `Program.run`, `Program.Refused`, `Program.closing`: the programs, and the states that they close in.
- `Terminal.Still`: saying something does nothing to the client.
- `Program.run_refused`, `Program.run_closes`: how programs end.
- `Program.closing_working`: what they have asked for when they close.
- `programs_close`: every program, with every environment. `empty_token_unshown`: a session with an empty token.
-/

namespace Freebox

open Attempt (Keeps keeps_pure keeps_fail keeps_lift keeps_update)

/-! ## Closing -/

namespace Client

variable (c : Client)

/-- A request takes leave of the box. -/
def Leaves (r : Request) : Prop := r.method = "POST" ∧ r.url = c.url "login/logout"

/-- A request belongs to a handshake. -/
def LogsIn (r : Request) : Prop := r.url = c.url "login" ∨ r.url = c.url "login/session"

theorem Opens.logsIn {c : Client} {r : Request} (opens : c.Opens (.request r)) : c.LogsIn r := by
  cases opens with
  | challenge => exact Or.inl rfl
  | exchange appId word => exact Or.inr rfl

/-- A request for another resource does not take leave. -/
theorem not_leaves {c : Client} {r : Request} {path : Text} (address : r.url = c.url path)
    (other : path ≠ "login/logout") : ¬ c.Leaves r := by
  rintro ⟨-, same⟩
  exact other (c.url_inj.mp (address.symm.trans same))

theorem LogsIn.not_leaves {c : Client} {r : Request} (h : c.LogsIn r) : ¬ c.Leaves r := by
  rcases h with address | address
  · exact Client.not_leaves address (by decide)
  · exact Client.not_leaves address (by decide)

end Client

theorem State.hungUp_client (s : State) : s.hungUp.client = s.client := by
  unfold State.hungUp
  cases s.client.ownsTransport <;> rfl

theorem State.hungUp_requests (s : State) : s.hungUp.network.requests = s.network.requests := by
  rw [State.requests_eq, State.requests_eq]
  unfold State.hungUp
  cases s.client.ownsTransport <;> simp [Effect.asking?]

theorem State.left_requests (s : State) : s.left.network.requests = s.network.requests ++ s.client.logoutRequests := by
  show (s.network.log ++ s.client.logoutRequests.map Effect.request).filterMap Effect.request? = _
  rw [List.filterMap_append, List.filterMap_map]
  exact congrArg _ List.filterMap_some

/-- However a closing ends, there is no session behind it. -/
theorem close_client (s : State) : (close s).2.client = { s.client with session := none } := by
  rw [close_apply]
  cases (logout s).1 with
  | ok _ => exact s.left.hungUp_client
  | error f => rfl

/-- Closing a client makes the request of leaving and no other. -/
theorem close_requests (s : State) : (close s).2.network.requests = s.network.requests ++ s.client.logoutRequests := by
  rw [← s.left_requests, close_apply]
  cases (logout s).1 with
  | ok _ => exact s.left.hungUp_requests
  | error f => rfl

namespace Script

/-! ## Programs -/

/-- A program, with the arguments that it looks at or the device that it runs on. -/
inductive Program where
  | addRule (arguments : List String)
  | listRules
  | register (device : String)

namespace Program

/-- Runs a program in an environment. -/
def run : Program → Environment → Network → Outcome
  | addRule arguments, env, network => Script.addRule env arguments network
  | listRules, env, network => Script.listRules env network
  | register device, env, network => Script.register env device network

/-- The client that a program makes. Registering takes no credentials. -/
def client : Program → Environment → Client
  | addRule _, env | listRules, env => clientOf env
  | register _, env =>
    Client.create (Config.endpointOf env) (Config.versionOf env) none none Client.defaultTimeout true

/-- The arguments or the environment are refused: an argument is missing or no number where a port has to be, or a
credential is not set where the rules are to be listed. -/
def Refused : Program → Environment → Prop
  | addRule arguments, _ =>
    arguments.length < 2 ∨
      ∃ i ∈ [0, 2], ∃ port : String, arguments[i]? = some port ∧ ∀ n, (Json.str port).toInteger ≠ .ok n
  | listRules, env => (clientOf env).Unset
  | register _, _ => False

/-- The state in which a program closes its client: the one that its work with the client ends in. -/
def closing : Program → Environment → State → State
  | addRule arguments, _, s =>
    match ruleArguments arguments with
    | .ok (some a) => ((Resource.PortForwarding.create a.draft).run s).2
    | _ => s
  | listRules, _, s => (Resource.PortForwarding.list.run s).2
  | register device, env, s => (authorize (registrationOf env device) pollInterval 60 s).2

end Program

/-- The arguments for a rule are read unless they are refused. -/
theorem ruleArguments_read {arguments : List String} {env : Environment} :
    (∃ a, ruleArguments arguments = .ok (some a)) ↔ ¬ (Program.addRule arguments).Refused env := by
  unfold Program.Refused
  match arguments with
  | [] => simp [ruleArguments]
  | [_] => simp [ruleArguments]
  | [port, lanIp] =>
    cases read : (Json.str port).toInteger <;> simp [ruleArguments, read, bind, Except.bind, pure, Except.pure]
  | port :: lanIp :: other :: rest =>
    cases read : (Json.str port).toInteger <;> cases read' : (Json.str other).toInteger <;>
      simp [ruleArguments, read, read', bind, Except.bind, pure, Except.pure]

/-- The credentials are looked at before there are rules to be listed. -/
theorem unset_iff (c : Client) :
    ((Client.set? c.appId).isNone || (Client.set? c.privateToken).isNone) = true ↔ c.Unset := by
  unfold Client.Unset
  rw [Bool.or_eq_true, Option.isNone_iff_eq_none, Option.isNone_iff_eq_none]

/-! ## Words -/

/-- The client and its network are as they were. -/
def Terminal.Still (t u : Terminal) : Prop := u.state = t.state

instance : Std.Refl Terminal.Still := ⟨fun _ => rfl⟩

instance : IsTrans Terminal Terminal.Still := ⟨fun _ _ _ h k => k.trans h⟩

theorem say_still (text : Text) : Keeps Terminal.Still (say text) := keeps_update fun _ => rfl

theorem sayRows_still (rules : List Record) : Keeps Terminal.Still (sayRows rules) := by
  induction rules with
  | nil => exact keeps_pure ()
  | cons r rules ih =>
    unfold sayRows
    cases row r with
    | error f => exact keeps_fail _
    | ok text => exact (say_still text).bind fun _ => ih

theorem sayTable_still (rules : List Record) : Keeps Terminal.Still (sayTable rules) := by
  unfold sayTable
  refine (say_still _).bind fun _ => (say_still _).bind fun _ => ?_
  by_cases empty : rules = []
  · rw [if_pos empty]
    exact (say_still _).bind fun _ => (say_still _).bind fun _ => say_still _
  · rw [if_neg empty]
    exact (say_still _).bind fun _ => (say_still _).bind fun _ => (sayRows_still rules).bind fun _ =>
      (say_still _).bind fun _ => say_still _

/-- Words about an attempt do nothing to the state that it ends in. -/
theorem trying_state {α : Type} (words : String) (a : Attempt State α) (t : Terminal) :
    (trying words a t).2.state = (a t.state).2 := by
  refine Attempt.Keeps.bind_tail (R := Terminal.Still) (fun result => ?_) (onClient a).outcome t
  rcases result with (⟨e, cause⟩ | f) | v
  · exact (say_still _).bind fun _ => keeps_pure none
  · exact keeps_fail _
  · exact keeps_pure _

/-- What comes last is done in the state that an attempt ends in, however it ends. -/
theorem followedBy_close {α : Type} (a : Attempt Terminal α) (t : Terminal) :
    (a.followedBy (onClient close) t).2.state = (close (a t).2.state).2 := by
  unfold Attempt.followedBy
  rw [Attempt.bind_of_ok (Attempt.outcome_apply a t)]
  exact Attempt.Keeps.bind_tail (R := Terminal.Still) (fun _ => keeps_lift _) (onClient close) (a t).2

/-! ## How programs end -/

/-- A program that has a client ends in the state that its body leaves. -/
theorem conclude_apply {output : Text} {client : Client} {network : Network} {body : Attempt Terminal Unit} {s : State}
    (h : (body ⟨⟨client, network⟩, output⟩).2.state = s) :
    (conclude output client network body).client = some s.client ∧
      (conclude output client network body).network = s.network := by
  subst h
  exact ⟨rfl, rfl⟩

theorem addRuleBody_state (a : RuleArguments) (t : Terminal) :
    (addRuleBody a t).2.state = (close ((Resource.PortForwarding.create a.draft).run t.state).2).2 := by
  rw [← trying_state "Failed to add rule: ", ← followedBy_close]
  refine Attempt.Keeps.bind_tail (R := Terminal.Still) (fun made => ?_) _ t
  cases made with
  | none => exact keeps_pure ()
  | some answer => exact say_still _

theorem sayRules_state (t : Terminal) :
    (sayRules t).2.state = (Resource.PortForwarding.list.run t.state).2 := by
  rw [← trying_state "Failed to list port forwarding rules: "]
  refine Attempt.Keeps.bind_tail (R := Terminal.Still) (fun found => ?_) _ t
  cases found with
  | none => exact keeps_pure false
  | some answer => exact (sayTable_still _).bind fun _ => keeps_pure true

theorem listRulesBody_state (t : Terminal) :
    (listRulesBody t).2.state = (close (Resource.PortForwarding.list.run t.state).2).2 := by
  rw [← sayRules_state, ← followedBy_close]
  refine Attempt.Keeps.bind_tail (R := Terminal.Still) (fun done => ?_) _ t
  cases done with
  | true => exact say_still _
  | false => exact keeps_pure ()

theorem registerBody_state (registration : Resource.Registration) (t : Terminal) :
    (registerBody registration t).2.state = (close (authorize registration pollInterval 60 t.state).2).2 := by
  rw [← trying_state "Authorization failed: ", ← followedBy_close]
  refine Attempt.Keeps.bind_tail (R := Terminal.Still) (fun token => ?_) _ t
  cases token with
  | none => exact keeps_pure ()
  | some token =>
    exact (say_still _).bind fun _ => (say_still _).bind fun _ => (say_still _).bind fun _ => say_still _

namespace Program

variable (p : Program) (env : Environment) (network : Network)

/-- A program that is refused makes no client, and asks for nothing. -/
theorem run_refused (refused : p.Refused env) :
    (p.run env network).client = none ∧ (p.run env network).network = network := by
  cases p with
  | addRule arguments =>
    show (Script.addRule env arguments network).client = none ∧
      (Script.addRule env arguments network).network = network
    unfold Script.addRule
    rcases read : ruleArguments arguments with f | (_ | a)
    · exact ⟨rfl, rfl⟩
    · exact ⟨rfl, rfl⟩
    · exact absurd refused (ruleArguments_read.mp ⟨a, read⟩)
  | listRules =>
    show (Script.listRules env network).client = none ∧ (Script.listRules env network).network = network
    unfold Script.listRules
    rw [if_pos ((unset_iff _).mpr refused)]
    exact ⟨rfl, rfl⟩
  | register device => cases refused

/-- **Any other program** ends by closing its client, and changes nothing of it behind that. -/
theorem run_closes (accepted : ¬ p.Refused env) :
    (p.run env network).client = some (close (p.closing env ⟨p.client env, network⟩)).2.client ∧
      (p.run env network).network = (close (p.closing env ⟨p.client env, network⟩)).2.network := by
  cases p with
  | addRule arguments =>
    obtain ⟨a, read⟩ := ruleArguments_read.mpr accepted
    have run : Script.addRule env arguments network = conclude "" (clientOf env) network (addRuleBody a) := by
      unfold Script.addRule
      rw [read]
    have closing : (addRule arguments).closing env ⟨(addRule arguments).client env, network⟩
        = ((Resource.PortForwarding.create a.draft).run ⟨clientOf env, network⟩).2 := by
      simp only [Program.closing, read]
      rfl
    show (Script.addRule env arguments network).client = _ ∧ (Script.addRule env arguments network).network = _
    rw [run, closing]
    exact conclude_apply (addRuleBody_state a _)
  | listRules =>
    show (Script.listRules env network).client = _ ∧ (Script.listRules env network).network = _
    unfold Script.listRules
    rw [if_neg fun missing => accepted ((unset_iff _).mp missing)]
    exact conclude_apply (listRulesBody_state _)
  | register device => exact conclude_apply (registerBody_state _ _)

/-! ## What programs ask for -/

/-- What was asked for between two states takes no leave, and only the session and the uploads of the client changed. -/
structure Working (s t : State) : Prop where
  settings : t.client.settings = s.client.settings
  requests : ∃ made, t.network.requests = s.network.requests ++ made ∧ ∀ r ∈ made, ¬ s.client.Leaves r

/-- Working on the rules asks for sessions and for the rules. -/
theorem rules_working {o : Operation} (path : o.path = "fw/redir/") (s : State) : Working s (o.run s).2 where
  settings := by
    have away : o.authenticated.Away := by
      show ¬ LoginPath o.path
      rw [path]
      exact Text.Elsewhere.not_login (by decide)
    rw [operation_state]
    exact (Authenticated.run_orderly away s).settings
  requests := by
    have asks : s.Sends (fun r => r.url = s.client.url "fw/redir/") (o.run s).2 := by
      apply Operation.run_sends
      intro token
      exact congrArg s.client.url path
    obtain ⟨made, asked, sort⟩ := asks.requests
    refine ⟨made, asked, ?_⟩
    intro r here
    rcases sort r here with opens | rules
    · exact opens.logsIn.not_leaves
    · exact Client.not_leaves rules (by decide)

/-- Registering asks for nothing of a session. -/
theorem register_asks (registration : Resource.Registration) (interval : Quantity) (attempts : Int) :
    Keeps (AsksOnly fun c r => ¬ c.Leaves r ∧ ¬ c.LogsIn r) (authorize registration interval attempts) := by
  refine authorize_asksOnly (fun c parcel => ⟨?_, ?_⟩) (fun c id => ⟨?_, ?_⟩) registration interval attempts
  · exact Client.not_leaves rfl (by decide)
  · rintro (same | same) <;> exact absurd (c.url_inj.mp same) (by decide)
  · exact Client.not_leaves rfl (tracking_ne (by decide) id)
  · rintro (same | same) <;> exact tracking_ne (by decide) id (c.url_inj.mp same)

/-- **Before it closes** its client, a program takes no leave. -/
theorem closing_working (s : State) : Working s (p.closing env s) := by
  cases p with
  | addRule arguments =>
    simp only [Program.closing]
    split
    · exact rules_working rfl s
    · exact ⟨rfl, [], by simp, by simp⟩
  | listRules => exact rules_working rfl s
  | register device =>
    have asks := register_asks (registrationOf env device) pollInterval 60 s
    obtain ⟨made, asked, sort⟩ := asks.requests
    exact ⟨congrArg Client.settings asks.client, made, asked, fun r here => (sort r here).1⟩

end Program

/-- **Programs leave no session open.** A program that is refused makes no client and asks for nothing. Any other one,
whatever it was answered and however it ends, ends behind the closing of its client: there is no session. It takes leave
if and only if there is a session when it comes to close, and that is the last request: it shows the token of the
session unless that is the empty text, for which no header is sent. Registering never logs in. -/
theorem programs_close (p : Program) (env : Environment) (network : Network) :
    let c := p.client env
    let closing := p.closing env ⟨c, network⟩
    let ended := p.run env network
    (p.Refused env → ended.client = none ∧ ended.network = network) ∧
      (¬ p.Refused env → ended.client = some { closing.client with session := none } ∧
        ended.network = (close closing).2.network ∧ ∃ made, (∀ r ∈ made, ¬ c.Leaves r) ∧
          (closing.client.session = none → ended.network.requests = network.requests ++ made) ∧
          ∀ session, closing.client.session = some session →
            ∃ last, ended.network.requests = network.requests ++ made ++ [last] ∧ c.Leaves last ∧
              (Asking.request last).tokens = if session.token = "" then [] else [session.token]) ∧
      ∀ device, p = .register device → closing.client.session = none ∧
        ∃ made, ended.network.requests = network.requests ++ made ∧ ∀ r ∈ made, ¬ c.LogsIn r := by
  intro c closing ended
  refine ⟨p.run_refused env network, ?accepted, ?register⟩
  case accepted =>
    intro accepted
    obtain ⟨client, sent⟩ := p.run_closes env network accepted
    have working : Program.Working ⟨c, network⟩ closing := p.closing_working env _
    obtain ⟨made, requests, stays⟩ := working.requests
    have asked : ended.network.requests = network.requests ++ made ++ closing.client.logoutRequests := by
      rw [sent, close_requests, requests]
    have url : closing.client.settings.url = c.settings.url := by rw [working.settings]
    refine ⟨client.trans (congrArg some (close_client closing)), sent, made, stays, ?silent, ?spoken⟩
    case silent =>
      intro noSession
      rw [asked, Client.logoutRequests_of_none noSession, List.append_nil]
    case spoken =>
      intro session isOpen
      rw [Client.logoutRequests_of_some isOpen] at asked
      -- the client that closes has the address of the one that was made
      exact ⟨_, asked, ⟨rfl, congrFun url "login/logout"⟩, Client.logoutRequest_tokens session.token⟩
  case register =>
    rintro device rfl
    obtain ⟨-, sent⟩ := Program.run_closes (.register device) env network id
    have asks := Program.register_asks (registrationOf env device) pollInterval 60 ⟨c, network⟩
    obtain ⟨made, requests, sort⟩ := asks.requests
    have noSession : closing.client.session = none := congrArg Client.session asks.client
    have asked : ended.network.requests = network.requests ++ made := by
      rw [sent, close_requests, Client.logoutRequests_of_none noSession, List.append_nil]
      exact requests
    exact ⟨noSession, made, asked, fun r here => (sort r here).2⟩

/-- A session with an empty token is left by a request that shows no token. -/
theorem empty_token_unshown :
    let told := fun result =>
      let body := "\x7b\"success\": true, \"result\": " ++ result ++ "\x7d"
      Reply.received ⟨200, [], [Utf8.encode body.toList], none⟩
    let env : Environment :=
      [("FREEBOX_ENDPOINT", "http://fbx.test"), ("FREEBOX_APP_ID", "app"), ("FREEBOX_TOKEN", "secret")]
    let c := Program.listRules.client env
    let peer : Peer := ⟨fun _ r =>
      if r.url = c.url "login" then told "\x7b\"challenge\": \"VzhbtpR4\"\x7d"
      else if r.url = c.url "login/session" then told "\x7b\"session_token\": \"\"\x7d"
      else told "[]", fun _ => .refused .closedNormally⟩
    let network : Network := { peer, now := ⟨0⟩ }
    (Program.listRules.closing env ⟨c, network⟩).client.session.map (·.token) = some "" ∧
      (Program.listRules.run env network).network.requests.map (fun r => (r.method, r.url, (Asking.request r).tokens))
        = [("GET", c.url "login", []), ("POST", c.url "login/session", []), ("GET", c.url "fw/redir/", []),
            ("POST", c.url "login/logout", [])] := by
  intro told env c peer network
  constructor
  · decide +kernel
  · decide +kernel

end Script

end Freebox
