import Freebox.Proofs.Command.History
import Freebox.Proofs.Command.Lockstep
import Mathlib.Data.List.Forall2

/-!
# `Freebox.Proofs.Command.Secret` — the private token stays with the client

A private token is used for one thing: it is the key under which challenges are digested. So two clients that differ in
their private tokens are told apart by the words for the challenges that they are sent, and by nothing else. As long as
those words are the same, they do the same to the outside and bring the same, failures and all. Of the digest no more is
used here than that it is a function of the key and the challenge.

## Contents
- `Network.Challenged`: the challenges that were sent so far.
- `State.SameButSecret`, `sameButSecret_lockstep`: two clients with different private tokens.
- `State.word_congr`, `handshake_sameButSecret`: handshakes whose challenges have the same words.
- `diagnostics_sameButSecret`, `Command.SameButSecret`, `Desk.run_sameButSecret`: commands and whole runs.
- `secret_hidden`: two private tokens over every run.
-/

namespace Freebox

open Attempt (InStep)

/-! ## Challenges that were sent -/

/-- The other side has answered one of the requests so far with a challenge. -/
def Network.Challenged (n : Network) (challenge : Text) : Prop :=
  ∃ before r after, n.requests = before ++ r :: after ∧ (n.peer.reply before r).Brings challenge

/-- Two private tokens have the same word for every challenge that was sent in answer to some requests. -/
def Peer.Agree (p q : String) (peer : Peer) (asked : List Request) : Prop :=
  ∀ before r after challenge, asked = before ++ r :: after → (peer.reply before r).Brings challenge →
    password p challenge = password q challenge

theorem Peer.Agree.earlier {p q : String} {peer : Peer} {asked : List Request} (news : List Request)
    (h : peer.Agree p q (asked ++ news)) : peer.Agree p q asked := by
  intro before r after challenge split
  rw [split, List.append_assoc] at h
  exact h before r (after ++ news) challenge rfl

theorem State.past_agree {p q : String} {s : State} :
    s.Past (Peer.Agree p q) ↔
      ∀ challenge, s.network.Challenged challenge → password p challenge = password q challenge := by
  constructor
  · rintro h challenge ⟨before, r, after, split, brought⟩
    exact h before r after challenge split brought
  · intro h before r after challenge split brought
    exact h challenge ⟨before, r, after, split, brought⟩

/-! ## Two clients with different private tokens -/

/-- Two clients on the same network that differ at most in the private token: one has the first token where the other
has the second. -/
structure State.SameButSecret (p q : String) (s t : State) : Prop where
  client : { s.client with privateToken := none } = { t.client with privateToken := none }
  secret : s.client.privateToken = t.client.privateToken ∨
    s.client.privateToken = some p ∧ t.client.privateToken = some q
  network : s.network = t.network

namespace State.SameButSecret

variable {p q : String} {s t : State}

/-- What does not depend on the private token of a client is the same. -/
theorem seen {β : Type} (look : Client → β) (beside : ∀ c : Client, look c = look { c with privateToken := none })
    (related : s.SameButSecret p q t) : look s.client = look t.client := by
  have same : look { s.client with privateToken := none } = look { t.client with privateToken := none } :=
    congrArg look related.client
  rwa [← beside, ← beside] at same

/-- Changing anything of a client but its private token alike keeps two clients the same. -/
theorem change (f : Client → Client) (keeps : ∀ c, (f c).privateToken = c.privateToken)
    (beside : ∀ c : Client,
      ({ f c with privateToken := none } : Client) = { f { c with privateToken := none } with privateToken := none })
    (related : s.SameButSecret p q t) :
    SameButSecret p q { s with client := f s.client } { t with client := f t.client } where
  client := related.seen (fun c => { f c with privateToken := none }) beside
  secret := by
    show (f s.client).privateToken = (f t.client).privateToken ∨ _
    rw [keeps, keeps]
    exact related.secret
  network := related.network

/-- So does changing their networks alike. -/
theorem onward (g : Network → Network) (related : s.SameButSecret p q t) :
    SameButSecret p q { s with network := g s.network } { t with network := g t.network } :=
  ⟨related.client, related.secret, congrArg g related.network⟩

end State.SameButSecret

/-- Two clients with different private tokens are in step. -/
theorem sameButSecret_lockstep (p q : String) : Lockstep (Peer.Agree p q) (State.SameButSecret p q) where
  earlier := Peer.Agree.earlier
  refl := fun _ => ⟨rfl, Or.inl rfl, rfl⟩
  outward := fun related => related.seen Client.outward fun _ => rfl
  token := fun related => related.seen Client.token? fun _ => rfl
  peer := fun related => congrArg Network.peer related.network
  log := fun related => congrArg Network.log related.network
  logged := fun related log => related.onward fun n => { n with log }
  later := fun related microseconds => related.onward fun n => { n with now := n.now.plus microseconds }
  dropped := fun related => related.change (fun c => { c with session := none }) (fun _ => rfl) fun _ => rfl
  counted := fun related uploads => related.change (fun c => { c with uploads }) (fun _ => rfl) fun _ => rfl
  named := fun related appId => related.change (fun c => { c with appId }) (fun _ => rfl) fun _ => rfl
  keyed := fun related _ => ⟨related.client, Or.inl rfl, related.network⟩

/-! ## Handshakes -/

/-- The word for a challenge is the same under keys that digest it to the same. -/
theorem State.word_congr {s : State} {k l : String}
    (agree : ∀ challenge, (s.answer s.client.challengeRequest).Brings challenge →
      password k challenge = password l challenge) : s.word k = s.word l := by
  unfold State.word
  cases answered : (s.answer s.client.challengeRequest).envelope s.client.challengeRequest with
  | error f => simp only [Except.bind]
  | ok e =>
    simp only [Except.bind, Envelope.word]
    cases decoded : Resource.challenge.decode e.result with
    | error f => simp only [bind, Except.bind]
    | ok record =>
      obtain ⟨result, object, member⟩ := Resource.challenge_text decoded
      have same := agree _ (Reply.brings_of_envelope answered object member)
      simp only [bind, Except.bind, same]

/-- A credential that is not empty is set. -/
theorem Client.set?_of_ne {credential : String} (h : credential ≠ "") :
    Client.set? (some credential) = some credential := by
  simp [Client.set?, h]

section
variable {p q : String} (hp : p ≠ "") (hq : q ≠ "")
include hp hq

/-- Two clients both lack credentials, or they have the same application and private tokens that agree where the two do.
-/
theorem State.SameButSecret.credentials {s t : State} (related : s.SameButSecret p q t) :
    (∃ e, s.client.credentials = .error e ∧ t.client.credentials = .error e) ∨
      ∃ appId k l, s.client.credentials = .ok (appId, k) ∧ t.client.credentials = .ok (appId, l) ∧
        (k = l ∨ k = p ∧ l = q) := by
  have appId : s.client.appId = t.client.appId := related.seen (fun c => c.appId) fun _ => rfl
  unfold Client.credentials
  rw [appId]
  cases Client.set? t.client.appId with
  | none => exact Or.inl ⟨_, rfl, rfl⟩
  | some app =>
    rcases related.secret with same | ⟨first, second⟩
    · rw [same]
      cases Client.set? t.client.privateToken with
      | none => exact Or.inl ⟨_, rfl, rfl⟩
      | some k => exact Or.inr ⟨app, k, k, rfl, rfl, Or.inl rfl⟩
    · rw [first, second, Client.set?_of_ne hp, Client.set?_of_ne hq]
      exact Or.inr ⟨app, p, q, rfl, rfl, Or.inr ⟨rfl, rfl⟩⟩

/-- The two requests of a handshake are the same, and so are their replies. -/
theorem negotiate_sameButSecret : Paced (Peer.Agree p q) (State.SameButSecret p q) negotiate where
  lasting := fun s => (sameButSecret_lockstep p q).past (negotiate_asks s)
  along := by
    intro s t related kept
    have steps := sameButSecret_lockstep p q
    have asking : s.client.challengeRequest = t.client.challengeRequest := steps.request related "GET" "login" none {}
    have challenged : s.challenged.SameButSecret p q t.challenged := by
      unfold State.challenged
      rw [asking]
      exact steps.did related _
    rw [negotiate_apply] at kept
    rw [negotiate_apply, negotiate_apply]
    rcases related.credentials hp hq with ⟨e, here, there⟩ | ⟨appId, k, l, here, there, keys⟩
    · rw [here, there]
      exact ⟨rfl, related⟩
    · rw [here] at kept
      rw [here, there]
      dsimp only at kept ⊢
      -- whatever comes of it, the challenge was asked for, so both tokens have the same word for it
      have sent : s.challenged.Past (Peer.Agree p q) := by
        cases word : s.word k with
        | error f =>
          rw [word] at kept
          exact kept
        | ok w =>
          rw [word] at kept
          exact steps.past (Asks.of_did (.request _) _) kept
      have agree : ∀ challenge, (s.answer s.client.challengeRequest).Brings challenge →
          password k challenge = password l challenge := by
        intro challenge brought
        rcases keys with rfl | ⟨rfl, rfl⟩
        · rfl
        · have last : s.challenged.network.requests = s.network.requests ++ s.client.challengeRequest :: [] := by
            rw [State.requests_eq, State.requests_eq]
            simp [State.challenged, Effect.asking?, Asking.request?]
          exact sent _ _ _ challenge last brought
      have words : s.word k = t.word l := by
        rw [State.word_congr agree]
        unfold State.word
        rw [asking, steps.answer related]
      rw [words]
      cases t.word l with
      | error f => exact ⟨rfl, challenged⟩
      | ok word =>
        have exchange : s.client.exchangeRequest appId word = t.client.exchangeRequest appId word :=
          steps.request related "POST" "login/session" none (answer appId word)
        have exchanged : s.challenged.exchanged appId word = t.challenged.exchanged appId word := by
          unfold State.exchanged
          rw [show s.challenged.client.exchangeRequest appId word = t.challenged.client.exchangeRequest appId word from
            exchange, steps.answer challenged]
        dsimp only
        rw [exchanged, exchange]
        exact ⟨rfl, steps.did challenged _⟩

/-- **Handshakes** of two clients open the same session, if they open any. -/
theorem handshake_sameButSecret : Paced (Peer.Agree p q) (State.SameButSecret p q) handshake := by
  apply (sameButSecret_lockstep p q).handshake (negotiate_sameButSecret hp hq)
  intro s t token related
  rw [related.network]
  exact related.change (fun c => { c with session := some _ }) (fun _ => rfl) fun _ => rfl

/-! ## Commands and whole runs -/

/-- A client tells whether a private token is set, and nothing else of it. -/
theorem diagnostics_sameButSecret {s t : State} (related : s.SameButSecret p q t) :
    s.client.diagnostics s.network.now = t.client.diagnostics t.network.now := by
  have endpoint : s.client.endpoint = t.client.endpoint := related.seen (fun c => c.endpoint) fun _ => rfl
  have version : s.client.version = t.client.version := related.seen (fun c => c.version) fun _ => rfl
  have base : s.client.base = t.client.base := related.seen Client.base fun _ => rfl
  have appId : s.client.appId = t.client.appId := related.seen (fun c => c.appId) fun _ => rfl
  have session : s.client.session = t.client.session := related.seen (fun c => c.session) fun _ => rfl
  have set : (Client.set? s.client.privateToken).isSome = (Client.set? t.client.privateToken).isSome := by
    rcases related.secret with same | ⟨first, second⟩
    · rw [same]
    · rw [first, second, Client.set?_of_ne hp, Client.set?_of_ne hq]
      rfl
  unfold Client.diagnostics
  rw [endpoint, version, base, appId, session, set, related.network]

end

/-- Two commands are the same, or they set a private token: one the first, the other the second. -/
inductive Command.SameButSecret (p q : String) : Command → Command → Prop
  | same (c : Command) : SameButSecret p q c c
  | key : SameButSecret p q (.setPrivateToken (some p)) (.setPrivateToken (some q))

section
variable {p q : String} (hp : p ≠ "") (hq : q ≠ "")
include hp hq

/-- **One command** at two desks whose clients differ in their private tokens. -/
theorem Command.SameButSecret.perform_inStep {c b : Command} (same : c.SameButSecret p q b) :
    InStep (Desk.Past (Peer.Agree p q)) (Desk.Alike (State.SameButSecret p q)) c.perform b.perform := by
  cases same with
  | key =>
    refine ⟨fun _ kept => kept, fun d e alike _ => ⟨rfl, ?_, alike.files, alike.uploads, alike.streams⟩⟩
    exact ⟨alike.state.client, Or.inr ⟨rfl, rfl⟩, alike.state.network⟩
  | same =>
    by_cases diagnoses : c.diagnoses
    · obtain ⟨form, told⟩ := Command.perform_diagnoses diagnoses
      refine ⟨fun d => ?_, fun d e alike _ => ?_⟩
      · rw [told d]
        exact id
      · rw [told d, told e, diagnostics_sameButSecret hp hq alike.state]
        exact ⟨rfl, alike⟩
    · exact c.perform_inStep (sameButSecret_lockstep p q) (handshake_sameButSecret hp hq) diagnoses

/-- **Two runs with different private tokens**, by induction on their commands. -/
theorem Desk.run_inStep {cs bs : List Command} (same : List.Forall₂ (Command.SameButSecret p q) cs bs) :
    (∀ d, Past (Peer.Agree p q) (run cs d).2 → Past (Peer.Agree p q) d) ∧
      ∀ d e, Alike (State.SameButSecret p q) d e → Past (Peer.Agree p q) (run cs d).2 →
        (run cs d).1 = (run bs e).1 ∧ Alike (State.SameButSecret p q) (run cs d).2 (run bs e).2 := by
  induction same with
  | nil => exact ⟨fun _ kept => kept, fun d e alike _ => ⟨rfl, alike⟩⟩
  | @cons c b cs bs first _ ih =>
    obtain ⟨lasting, along⟩ := ih
    have step := first.perform_inStep hp hq
    refine ⟨fun d kept => step.lasting d (lasting _ kept), fun d e alike kept => ?_⟩
    -- the challenges of the first command are among those of the run
    obtain ⟨told, after⟩ := step.along d e alike (lasting _ kept)
    obtain ⟨results, last⟩ := along _ _ after kept
    refine ⟨?_, last⟩
    show (c.perform d).1 :: _ = (b.perform e).1 :: _
    rw [told]
    exact congrArg _ results

end

/-- What is done by the first commands of a run was done before the rest. -/
theorem Desk.run_take (cs : List Command) (n : Nat) (d : Desk) :
    (run cs d).2 = (run (cs.drop n) (run (cs.take n) d).2).2 := by
  induction cs generalizing n d with
  | nil => simp [run]
  | cons c cs ih =>
    cases n with
    | zero => rfl
    | succ n => exact ih n (c.perform d).2

/-- **The private token leaves a client only in the words for challenges.** Take two runs of the same commands against
the same other side, one with each of two private tokens, also where a token is set in between. If the tokens have the
same word for every challenge that is sent in the first run, then after every number of commands the two runs have
brought the same, with the same failures and causes, have done the same to the outside, effect by effect, and have left
clients that differ in nothing but the private token. -/
theorem secret_hidden (client : Client) (p q : String) (hp : p ≠ "") (hq : q ≠ "") (peer : Peer) (now : Instant)
    (cs bs : List Command) (same : List.Forall₂ (Command.SameButSecret p q) cs bs)
    (agree : ∀ challenge,
      (Desk.run cs (Desk.fresh { client with privateToken := some p } peer now)).2.state.network.Challenged challenge →
        password p challenge = password q challenge) (n : Nat) :
    let after := Desk.run (cs.take n) (Desk.fresh { client with privateToken := some p } peer now)
    let behind := Desk.run (bs.take n) (Desk.fresh { client with privateToken := some q } peer now)
    after.1 = behind.1 ∧ after.2.state.network = behind.2.state.network ∧
      { after.2.state.client with privateToken := none } = { behind.2.state.client with privateToken := none } ∧
      after.2.files = behind.2.files ∧ after.2.uploads = behind.2.uploads ∧ after.2.streams = behind.2.streams := by
  intro after behind
  have alike : Desk.Alike (State.SameButSecret p q) (Desk.fresh { client with privateToken := some p } peer now)
      (Desk.fresh { client with privateToken := some q } peer now) :=
    ⟨⟨rfl, Or.inr ⟨rfl, rfl⟩, rfl⟩, rfl, rfl, rfl⟩
  have whole := State.past_agree.mpr agree
  rw [Desk.run_take cs n] at whole
  have so_far : Desk.Past (Peer.Agree p q) after.2 :=
    (Desk.run_inStep hp hq (List.forall₂_drop n same)).1 _ whole
  obtain ⟨results, last⟩ := (Desk.run_inStep hp hq (List.forall₂_take n same)).2 _ _ alike so_far
  exact ⟨results, last.state.network, last.state.client, last.files, last.uploads, last.streams⟩

/-- A private token and the same with a null behind it have the same word for every challenge. -/
theorem password_null (challenge : Text) : password "secret" challenge = password "secret\x00" challenge := by
  have key : Hmac.blockKey (Utf8.encode "secret".toList) = Hmac.blockKey (Utf8.encode "secret\x00".toList) := by
    decide +kernel
  unfold password Hmac.sha1
  rw [key]

/-- So they cannot be told apart, whether they are there from the start or set later. -/
theorem secret_hidden_null :
    let client := Client.create "http://fbx.test" "v8" (some "app") none (.int 10) true
    let told := fun result =>
      let body := "\x7b\"success\": true, \"result\": " ++ result ++ "\x7d"
      Reply.received ⟨200, [], [Utf8.encode body.toList], none⟩
    let peer : Peer := ⟨fun _ r =>
      if r.url = client.url "login" then told "\x7b\"challenge\": \"VzhbtpR4\"\x7d"
      else if r.url = client.url "login/session" then told "\x7b\"session_token\": \"token\"\x7d"
      else told "[]", fun _ => .refused .closedNormally⟩
    let commands := fun secret : String =>
      [Command.login, .logout, .setPrivateToken (some secret), .operate (.ok Resource.PortForwarding.list),
        .diagnostics]
    let after := fun (secret : String) (n : Nat) => Desk.run ((commands secret).take n)
      (Desk.fresh { client with privateToken := some secret } peer ⟨0⟩)
    (after "secret" 5).1 = (after "secret\x00" 5).1 ∧
      (after "secret" 5).2.state.network = (after "secret\x00" 5).2.state.network ∧
      (after "secret" 5).2.state.network.requests.map (·.url)
        = [client.url "login", client.url "login/session", client.url "login/logout", client.url "login",
            client.url "login/session", client.url "fw/redir/"] := by
  intro client told peer commands after
  have same : List.Forall₂ (Command.SameButSecret "secret" "secret\x00") (commands "secret") (commands "secret\x00") :=
    .cons (.same _) (.cons (.same _) (.cons .key (.cons (.same _) (.cons (.same _) .nil))))
  have unseen : ∀ n, (after "secret" n).1 = (after "secret\x00" n).1 ∧
      (after "secret" n).2.state.network = (after "secret\x00" n).2.state.network := by
    intro n
    obtain ⟨results, network, -⟩ := secret_hidden client "secret" "secret\x00" (by decide) (by decide) peer ⟨0⟩
      (commands "secret") (commands "secret\x00") same (fun challenge _ => password_null challenge) n
    exact ⟨results, network⟩
  refine ⟨(unseen 5).1, (unseen 5).2, ?_⟩
  decide +kernel

end Freebox
