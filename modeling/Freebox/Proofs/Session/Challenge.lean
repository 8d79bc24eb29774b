import Freebox.Proofs.Envelope.Reading
import Freebox.Proofs.Network.Address
import Freebox.Proofs.Session.Provenance
import Freebox.Proofs.Session.Renewal

/-!
# `Freebox.Proofs.Session.Challenge` — challenges are answered at once

A client asks for a challenge and answers it by its next request, with the credentials that it has then. That request
and all others at addresses open to anybody go out without a token, also while there is a session. What an attempt does
for a client that keeps its settings comes down to the order of the requests that it makes: an exchange comes with its
challenge, and everything else is made one by one.

## Contents
- `Reply.Brings`: a challenge in a reply. `Client.Carries`, `Client.Answers`: a request that answers the one just
  received.
- `Ordered`, `Orderly`: requests in their order, and the attempts that keep to it.
- `State.word_apply`, `State.word_ok`, `handshake_orderly`: the one place where challenges are asked for and answered.
- `Authenticated.run_orderly`, `logout_orderly`: everything under a session.
- `AsksOnly`, `Openly`, `authorize_asksOnly`, `describe_openly`: what is done without a session leaves the client as it
  is.
-/

namespace Freebox

open Attempt (Keeps keeps_pure keeps_fail keeps_lift keeps_update)

/-! ## Challenges and their answers -/

/-- No token is shown. -/
def Request.Tokenless (r : Request) : Prop := ∀ h ∈ r.headers, h.1 ≠ authHeader

/-- A reply brings a challenge: it is received whole with a status that tells success, and its body is an envelope that
reports success and has an object with that challenge as its result. -/
def Reply.Brings (reply : Reply) (challenge : Text) : Prop :=
  ∃ response received, reply = .received response ∧ response.whole = .ok received ∧
    isSuccess received.status = true ∧ ∃ ms result : Members, Json.read (.octets received.body) = .ok (.obj ms) ∧
      ms.get? "success" = some (.bool true) ∧ ms.get "result" = .obj result ∧
      result.get? "challenge" = some (.str challenge)

namespace Client

variable (c : Client)

/-- A client without what changes by its operations: its session and the number of its uploads. -/
def settings : Client := { c with session := none, uploads := 0 }

/-- A request exchanges a word for a session. -/
def Exchanges (r : Request) : Prop := r.method = "POST" ∧ r.url = c.url "login/session"

/-- A request carries an application and a password to where a session is opened, and no token: its payload is an object
of just these two. -/
def Carries (appId word : String) (r : Request) : Prop :=
  r.method = "POST" ∧ r.url = c.url "login/session" ∧ r.headers = [("Accept", ("application/json" : Text))] ∧
    r.payload = .obj [("app_id", .str appId), ("password", .str word)] ∧ r.form = none ∧ r.timeout = c.timeout

/-- A request answers the challenge asked for just before it: it carries the application and the password for that
challenge under the private token, both as they are set. -/
def Answers (peer : Peer) (asked : List Request) (r : Request) : Prop :=
  ∃ appId privateToken challenge word, c.appId = some appId ∧ c.privateToken = some privateToken ∧
    c.credentials = .ok (appId, privateToken) ∧ (peer.reply asked c.challengeRequest).Brings challenge ∧
    password privateToken challenge = .ok word ∧ c.Carries appId word r

/-- What a client answers depends on its settings only. -/
theorem answers_congr {c d : Client} (same : d.settings = c.settings) : d.Answers = c.Answers := by
  have answering : d.settings.Answers = c.settings.Answers := by rw [same]
  exact answering

theorem exchangeRequest_carries (appId word : String) : c.Carries appId word (c.exchangeRequest appId word) :=
  ⟨rfl, rfl, rfl, rfl, rfl, rfl⟩

theorem Carries.tokenless {c : Client} {appId word : String} {r : Request} (h : c.Carries appId word r) :
    r.Tokenless := by
  intro header here
  obtain ⟨-, -, headers, -⟩ := h
  rw [headers, List.mem_singleton] at here
  rw [here]
  decide

/-- The credentials are those that are set. -/
theorem credentials_set {c : Client} {appId privateToken : String} (h : c.credentials = .ok (appId, privateToken)) :
    c.appId = some appId ∧ c.privateToken = some privateToken := by
  unfold credentials at h
  cases app : set? c.appId with
  | none =>
    rw [app] at h
    cases h
  | some a =>
    cases secret : set? c.privateToken with
    | none =>
      rw [app, secret] at h
      cases h
    | some p =>
      rw [app, secret] at h
      obtain ⟨rfl, rfl⟩ := Prod.mk.inj (Except.ok.inj h)
      exact ⟨(Option.filter_eq_some_iff.mp app).1, (Option.filter_eq_some_iff.mp secret).1⟩

theorem challenge_not_exchange : ¬ c.Exchanges c.challengeRequest := by
  rintro ⟨post, -⟩
  have get : c.challengeRequest.method = "GET" := rfl
  simp [get] at post

end Client

theorem request_tokenless (c : Client) (method : String) (path : Text) (parcel : Parcel) :
    (c.request method path none parcel).Tokenless := by
  intro h here
  obtain rfl : h = acceptHeader := by simpa [Client.request, tokenHeader] using here
  decide

theorem Request.Tokenless.tokens {r : Request} (tokenless : r.Tokenless) : (Asking.request r).tokens = [] := by
  have none_shown : r.headers.filter (fun h => decide (h.1 = authHeader)) = [] := by
    rw [List.filter_eq_nil_iff]
    intro h here
    simpa using tokenless h here
  show (r.headers.filter _).map _ = []
  rw [none_shown, List.map_nil]

/-! ## Requests in their order -/

/-- Requests that a client makes one after the other behind some earlier ones. An exchange comes with the challenge that
it answers, and just behind it. All others are made one by one, without a token at the addresses open to anybody. -/
inductive Ordered (c : Client) (peer : Peer) : List Request → List Request → Prop
  | done (before : List Request) : Ordered c peer before []
  | single {before rest : List Request} {r : Request} (tokenless : c.Open r.url → r.Tokenless)
      (other : ¬ c.Exchanges r) (onward : Ordered c peer (before ++ [r]) rest) : Ordered c peer before (r :: rest)
  | answered {before rest : List Request} {r : Request} (answers : c.Answers peer before r)
      (onward : Ordered c peer (before ++ [c.challengeRequest, r]) rest) :
      Ordered c peer before (c.challengeRequest :: r :: rest)

namespace Ordered

variable {c d : Client} {peer : Peer} {before first second : List Request} {r : Request}

/-- A request without a token may be made anywhere, if it is no exchange. -/
theorem of_tokenless (tokenless : r.Tokenless) (other : ¬ c.Exchanges r) : Ordered c peer before [r] :=
  .single (fun _ => tokenless) other (.done _)

/-- So may a request away from the paths of logging in, also with a token. -/
theorem of_away {path : Text} (address : r.url = c.url path) (away : ¬ LoginPath path) :
    Ordered c peer before [r] := by
  refine .single ?_ ?_ (.done _)
  · intro isOpen
    rw [address] at isOpen
    exact absurd isOpen (c.not_open away)
  · rintro ⟨-, exchange⟩
    have same : path = "login/session" := c.url_inj.mp (address.symm.trans exchange)
    rw [same] at away
    exact away .exchange

theorem append (h : Ordered c peer before first) (k : Ordered c peer (before ++ first) second) :
    Ordered c peer before (first ++ second) := by
  induction h with
  | done => simpa using k
  | single tokenless other _ ih => exact .single tokenless other (ih (by simpa using k))
  | answered answers _ ih => exact .answered answers (ih (by simpa using k))

/-- The session and the uploads of a client do not matter to the order. -/
theorem congr (same : d.settings = c.settings) (h : Ordered c peer before first) : Ordered d peer before first := by
  -- all that the order depends on is what the settings tell
  have opens : d.settings.Open = c.settings.Open := by rw [same]
  have exchanges : d.settings.Exchanges = c.settings.Exchanges := by rw [same]
  have answering : d.Answers = c.Answers := Client.answers_congr same
  have challenge : d.settings.challengeRequest = c.settings.challengeRequest := by rw [same]
  change d.Open = c.Open at opens
  change d.Exchanges = c.Exchanges at exchanges
  change d.challengeRequest = c.challengeRequest at challenge
  induction h with
  | done => exact .done _
  | single tokenless other _ ih =>
    rw [← opens] at tokenless
    rw [← exchanges] at other
    exact .single tokenless other ih
  | answered answers _ ih =>
    rw [← answering] at answers
    rw [← challenge] at ih ⊢
    exact .answered answers ih

/-- No token is shown at an address open to anybody. -/
theorem tokenless (h : Ordered c peer before first) (here : r ∈ first) (isOpen : c.Open r.url) : r.Tokenless := by
  induction h with
  | done => cases here
  | single tokenless _ _ ih =>
    rcases List.mem_cons.mp here with rfl | later
    · exact tokenless isOpen
    · exact ih later
  | answered answers _ ih =>
    obtain ⟨appId, privateToken, challenge, word, -, -, -, -, -, carries⟩ := answers
    rcases List.mem_cons.mp here with rfl | behind
    · exact request_tokenless c "GET" "login" {}
    · rcases List.mem_cons.mp behind with rfl | later
      · exact carries.tokenless
      · exact ih later

/-- An exchange stands just behind the challenge that it answers. -/
theorem exchange_at (h : Ordered c peer before (first ++ r :: second)) (exchange : c.Exchanges r) :
    ∃ asked, first = asked ++ [c.challengeRequest] ∧ c.Answers peer (before ++ asked) r := by
  generalize whole : first ++ r :: second = news at h
  induction h generalizing first with
  | done => simp at whole
  | single _ other _ ih =>
    cases first with
    | nil =>
      obtain ⟨rfl, -⟩ := List.cons.inj whole
      exact absurd exchange other
    | cons q rest =>
      obtain ⟨rfl, later⟩ := List.cons.inj whole
      obtain ⟨asked, rfl, answers⟩ := ih later
      exact ⟨q :: asked, rfl, by simpa using answers⟩
  | answered answers _ ih =>
    cases first with
    | nil =>
      obtain ⟨rfl, -⟩ := List.cons.inj whole
      exact absurd exchange c.challenge_not_exchange
    | cons q rest =>
      obtain ⟨rfl, behind⟩ := List.cons.inj whole
      cases rest with
      | nil =>
        obtain ⟨rfl, -⟩ := List.cons.inj behind
        exact ⟨[], rfl, by simpa using answers⟩
      | cons p rest =>
        obtain ⟨rfl, later⟩ := List.cons.inj behind
        obtain ⟨asked, rfl, answers⟩ := ih later
        exact ⟨_ :: p :: asked, rfl, by simpa using answers⟩

end Ordered

/-- Between two states a client keeps its settings, and its requests are in order. -/
structure Orderly (s t : State) : Prop where
  settings : t.client.settings = s.client.settings
  peer : t.network.peer = s.network.peer
  requests : ∃ news, t.network.requests = s.network.requests ++ news ∧
    Ordered s.client s.network.peer s.network.requests news

namespace Orderly

variable {s t u : State}

theorem of_still (settings : t.client.settings = s.client.settings) (peer : t.network.peer = s.network.peer)
    (requests : t.network.requests = s.network.requests) : Orderly s t :=
  ⟨settings, peer, [], by rw [requests, List.append_nil], .done _⟩

instance : Std.Refl Orderly := ⟨fun _ => of_still rfl rfl rfl⟩

theorem trans (h : Orderly s t) (k : Orderly t u) : Orderly s u where
  settings := k.settings.trans h.settings
  peer := k.peer.trans h.peer
  requests := by
    obtain ⟨first, made, ordered⟩ := h.requests
    obtain ⟨second, made_then, ordered_then⟩ := k.requests
    rw [h.peer, made] at ordered_then
    have onward := ordered_then.congr h.settings.symm
    exact ⟨first ++ second, by rw [made_then, made, List.append_assoc], ordered.append onward⟩

instance : IsTrans State Orderly := ⟨fun _ _ _ => trans⟩

theorem of_asks {news : List Asking} (h : Asks news s t)
    (ordered : Ordered s.client s.network.peer s.network.requests (news.filterMap Asking.request?)) :
    Orderly s t where
  settings := congrArg Client.settings h.client
  peer := h.peer
  requests := ⟨_, by rw [State.requests_eq, h.asked, List.filterMap_append, ← State.requests_eq], ordered⟩

/-- What asks for nothing is orderly. -/
theorem of_quiet (h : Asks [] s t) : Orderly s t := of_asks h (.done _)

end Orderly

/-! ## Handshakes -/

/-- A challenge that is decoded is a text in an object. -/
theorem Resource.challenge_text {v : Json} {record : Record} (decoded : Resource.challenge.decode v = .ok record) :
    ∃ result : Members, v = .obj result ∧ result.get? "challenge" = some (.str (record.text "challenge")) := by
  obtain ⟨result, object, fields⟩ := Layout.decode_ok decoded
  obtain ⟨w, rest, read, -, first⟩ := Layout.decodeFields_cons.mp fields
  obtain ⟨challenge, member, rfl⟩ := Field.text_read read
  have told : record.text "challenge" = challenge := by
    unfold Record.text Record.get
    rw [first]
    rfl
  exact ⟨result, object, by rw [told]; exact member⟩

/-- A word is made of a challenge that is a text in the result, unless there is none to be decoded. -/
theorem Envelope.word_apply (e : Envelope) (privateToken : String) :
    (∃ f, Resource.challenge.decode e.result = .error f ∧ e.word privateToken = .error f) ∨
      ∃ (result : Members) (challenge : Text), e.result = .obj result ∧
        result.get? "challenge" = some (.str challenge) ∧
        e.word privateToken = (password privateToken challenge).mapError .fault := by
  unfold Envelope.word
  cases decoded : Resource.challenge.decode e.result with
  | error f => exact Or.inl ⟨f, rfl, rfl⟩
  | ok record =>
    obtain ⟨result, object, member⟩ := Resource.challenge_text decoded
    exact Or.inr ⟨result, record.text "challenge", object, member, rfl⟩

/-- A reply that is read as an envelope brings the challenge that is in its result. -/
theorem Reply.brings_of_envelope {reply : Reply} {r : Request} {e : Envelope} {result : Members} {challenge : Text}
    (h : reply.envelope r = .ok e) (object : e.result = .obj result)
    (member : result.get? "challenge" = some (.str challenge)) : reply.Brings challenge := by
  unfold Reply.envelope at h
  cases reply with
  | failed failure => cases h
  | received response =>
    cases whole : response.whole with
    | error failure =>
      rw [Reply.whole, whole] at h
      cases h
    | ok received =>
      rw [Reply.whole, whole] at h
      obtain ⟨status, ms, read, success, rfl⟩ := Received.envelope_ok (r := received) h
      exact ⟨response, received, rfl, whole, status, ms, result, read, success, object, member⟩

/-- **The word for a challenge** is made from the challenge in the reply, unless the reply or its result is not read. -/
theorem State.word_apply (s : State) (privateToken : String) :
    (∃ f, s.word privateToken = .error f ∧
      ((s.answer s.client.challengeRequest).envelope s.client.challengeRequest = .error f ∨
        ∃ v, Resource.challenge.decode v = .error f)) ∨
      ∃ challenge, (s.answer s.client.challengeRequest).Brings challenge ∧
        s.word privateToken = (password privateToken challenge).mapError .fault := by
  unfold State.word
  cases answered : (s.answer s.client.challengeRequest).envelope s.client.challengeRequest with
  | error f => exact Or.inl ⟨f, rfl, Or.inl rfl⟩
  | ok e =>
    rcases e.word_apply privateToken with ⟨f, undecoded, told⟩ | ⟨result, challenge, object, member, told⟩
    · exact Or.inl ⟨f, told, Or.inr ⟨_, undecoded⟩⟩
    · exact Or.inr ⟨challenge, Reply.brings_of_envelope answered object member, told⟩

theorem State.word_ok {s : State} {privateToken word : String} (h : s.word privateToken = .ok word) :
    ∃ challenge, (s.answer s.client.challengeRequest).Brings challenge ∧
      password privateToken challenge = .ok word := by
  rcases s.word_apply privateToken with ⟨f, failed, -⟩ | ⟨challenge, brought, told⟩
  · rw [failed] at h
    cases h
  · exact ⟨challenge, brought, Attempt.value_of_mapError (told.symm.trans h)⟩

theorem negotiate_orderly : Keeps Orderly negotiate := by
  intro s
  have asks := negotiate_asks s
  unfold handshakeAsked at asks
  cases credentials : s.client.credentials with
  | error e =>
    rw [credentials] at asks
    exact .of_quiet asks
  | ok both =>
    obtain ⟨appId, privateToken⟩ := both
    simp only [credentials] at asks
    cases word : s.word privateToken with
    | error f =>
      -- a challenge that has no word is not answered
      simp only [word] at asks
      exact .of_asks asks (.of_tokenless (request_tokenless s.client "GET" "login" {}) s.client.challenge_not_exchange)
    | ok w =>
      simp only [word] at asks
      obtain ⟨challenge, brought, digested⟩ := State.word_ok word
      obtain ⟨app, secret⟩ := Client.credentials_set credentials
      exact .of_asks asks (.answered ⟨appId, privateToken, challenge, w, app, secret, credentials, brought, digested,
        s.client.exchangeRequest_carries appId w⟩ (.done _))

/-- **A handshake** answers its challenge by its next request. -/
theorem handshake_orderly : Keeps Orderly handshake := by
  intro s
  rw [handshake_apply]
  exact (negotiate_orderly s).trans (Orderly.of_still rfl rfl rfl)

/-! ## Under a session -/

namespace Authenticated

/-- An operation keeps away from the paths of logging in. Only calls are at any path. -/
def Away : Authenticated → Prop
  | call _ path _ => ¬ LoginPath path
  | _ => True

theorem attempt_orderly {a : Authenticated} (away : a.Away) (number : Nat) (token : Text) :
    Keeps Orderly (a.attempt number token) := by
  intro s
  refine Orderly.of_asks (a.attempt_asks number token s) ?_
  cases a with
  | call method path parcel => exact .of_away rfl away
  | content path =>
    have elsewhere : ("dl/" : Text).Elsewhere := by decide
    exact .of_away rfl (elsewhere.append _).not_login
  | upload start => exact .done _
  | listening first others => exact .done _

/-- **An operation under a session** makes its requests in order: those of handshakes, and its own. -/
theorem run_orderly {a : Authenticated} (away : a.Away) : Keeps Orderly a.run := by
  intro s
  rw [run_apply]
  have begun : Orderly s (a.begun s) := by
    cases a <;> exact Orderly.of_still rfl rfl rfl
  exact begun.trans (withSession_keeps handshake_orderly (attempt_orderly away _) (a.begun s))

end Authenticated

/-- The request of a leaving is made with a token, but not at a path of logging in. -/
theorem logout_orderly : Keeps Orderly logout := by
  intro s
  rw [logout_state]
  have dropped : Orderly s (s.withSession none) := .of_still rfl rfl rfl
  cases s.client.session with
  | none => exact dropped
  | some session =>
    exact dropped.trans (.of_asks (Asks.of_did (.request _) _) (.of_away rfl not_loginPath_logout))

/-! ## Without a session -/

/-- Between two states a client stays as it is, and asks for nothing but requests of one sort. -/
def AsksOnly (own : Client → Request → Prop) (s t : State) : Prop :=
  ∃ news : List Request, Asks (news.map .request) s t ∧ ∀ r ∈ news, own s.client r

namespace AsksOnly

variable {own : Client → Request → Prop} {s t u : State}

theorem of_quiet (h : Asks [] s t) : AsksOnly own s t := ⟨[], h, by simp⟩

instance : Std.Refl (AsksOnly own) := ⟨fun s => of_quiet (refl_of (Asks []) s)⟩

theorem trans (h : AsksOnly own s t) (k : AsksOnly own t u) : AsksOnly own s u := by
  obtain ⟨first, asks, sort⟩ := h
  obtain ⟨second, asks_then, sort_then⟩ := k
  rw [asks.client] at sort_then
  refine ⟨first ++ second, by rw [List.map_append]; exact asks.trans asks_then, fun r hr => ?_⟩
  rcases List.mem_append.mp hr with early | late
  · exact sort r early
  · exact sort_then r late

instance : IsTrans State (AsksOnly own) := ⟨fun _ _ _ => trans⟩

theorem of_request {r : Request} (sort : own s.client r) : AsksOnly own s (s.did (.request r)) :=
  ⟨[r], Asks.of_did (.request r) s, by simpa using sort⟩

theorem client (h : AsksOnly own s t) : t.client = s.client := by
  obtain ⟨news, asks, -⟩ := h
  exact asks.client

/-- The requests that are made. -/
theorem requests (h : AsksOnly own s t) :
    ∃ news, t.network.requests = s.network.requests ++ news ∧ ∀ r ∈ news, own s.client r := by
  obtain ⟨news, asks, sort⟩ := h
  refine ⟨news, ?_, sort⟩
  have made : (news.map Asking.request).filterMap Asking.request? = news := by
    rw [List.filterMap_map]
    exact List.filterMap_some
  rw [State.requests_eq, State.requests_eq, asks.asked, List.filterMap_append, made]

end AsksOnly

/-- Nothing is asked for but requests without a token that are no exchanges. -/
abbrev Openly : State → State → Prop :=
  AsksOnly fun c r => r.Tokenless ∧ r.url ≠ c.url "login/session"

namespace Openly

variable {s t : State}

/-- Such requests are in order wherever they are made. -/
theorem orderly (h : Openly s t) : Orderly s t := by
  obtain ⟨news, made, tokenless⟩ := AsksOnly.requests h
  obtain ⟨_, asks, -⟩ := h
  have ordered : ∀ before, Ordered s.client s.network.peer before news := by
    clear made
    induction news with
    | nil => exact .done
    | cons r rest ih =>
      obtain ⟨none_shown, other⟩ := tokenless r (by simp)
      have later := ih fun q hq => tokenless q (by simp [hq])
      exact fun before => .single (fun _ => none_shown) (fun exchange => other exchange.2) (later _)
  exact ⟨congrArg Client.settings asks.client, asks.peer, news, made, ordered _⟩

/-- They leave the session, and show no token. -/
theorem aside (h : Openly s t) : Aside s t := by
  obtain ⟨news, asks, tokenless⟩ := h
  refine .of_asks asks fun a ha => ?_
  obtain ⟨r, hr, rfl⟩ := List.mem_map.mp ha
  exact (tokenless r hr).1.tokens

end Openly

theorem perform_asksOnly {own : Client → Request → Prop} {method : String} {path : Text} {token : Option Text}
    {parcel : Parcel} (sort : ∀ c : Client, own c (c.request method path token parcel)) :
    Keeps (AsksOnly own) (perform method path token parcel) := by
  intro s
  rw [perform_apply]
  exact AsksOnly.of_request (sort s.client)

/-- One request without a token, at any path but that of exchanges. -/
theorem perform_openly (method : String) {path : Text} (parcel : Parcel) (other : path ≠ "login/session") :
    Keeps Openly (perform method path none parcel) :=
  perform_asksOnly fun c => ⟨request_tokenless _ _ _ _, fun same => other (c.url_inj.mp same)⟩

/-- **Describing** the box asks for its description without a token, and leaves the client as it is. -/
theorem describe_openly : Keeps Openly describe := by
  intro s
  have start : describe s = (exchange s.client.describeRequest >>= fun received =>
      Attempt.lift received.description) s := rfl
  rw [start, Attempt.bind_lift, exchange_apply]
  refine AsksOnly.of_request ⟨?_, fun same => s.client.url_ne_description "login/session" same.symm⟩
  intro h here
  obtain rfl : h = acceptHeader := by simpa [Client.describeRequest] using here
  decide

/-! ## Registering -/

section
variable {own : Client → Request → Prop}
  (asking : ∀ (c : Client) (parcel : Parcel), own c (c.request "POST" "login/authorize" none parcel))
  (tracking : ∀ (c : Client) (id : Text), own c (c.request "GET" ("login/authorize/" ++ id) none {}))
include tracking

theorem poll_asksOnly (trackId : Text) (token : Json) (interval : Quantity) (n : Nat) (last : Json) :
    Keeps (AsksOnly own) (Authorization.poll trackId token interval n last) := by
  have asked : Keeps (AsksOnly own) (Authorization.trackStatus trackId) :=
    (perform_asksOnly fun c => tracking c trackId).bind fun _ => (keeps_lift _).bind fun _ => keeps_pure _
  induction n generalizing last with
  | zero => exact keeps_fail _
  | succ n ih =>
    refine asked.bind fun status => ?_
    by_cases given : status = Authorization.granted
    · simp only [given, if_true]
      exact keeps_pure token
    · cases ended : Authorization.isEnded status with
      | true =>
        simp only [given, if_false, if_true]
        exact keeps_fail _
      | false =>
        simp only [given, if_false]
        refine Keeps.bind (keeps_update fun s => AsksOnly.of_quiet ?_) fun _ => ih status
        exact ⟨rfl, rfl, State.did_asked (.sleep interval) s⟩

include asking

/-- **Registering** asks for the registration and for its state, and leaves the client as it is. -/
theorem authorize_asksOnly (registration : Resource.Registration) (interval : Quantity) (attempts : Int) :
    Keeps (AsksOnly own) (authorize registration interval attempts) :=
  (perform_asksOnly fun c => asking c _).bind fun _ => (keeps_lift _).bind fun _ => poll_asksOnly tracking _ _ _ _ _

end

/-- All of it goes without a token. -/
theorem authorize_openly (registration : Resource.Registration) (interval : Quantity) (attempts : Int) :
    Keeps Openly (authorize registration interval attempts) := by
  refine authorize_asksOnly (fun c parcel => ?_) (fun c id => ?_) registration interval attempts
  · exact ⟨request_tokenless _ _ _ _, fun same => absurd (c.url_inj.mp same) (by decide)⟩
  · exact ⟨request_tokenless _ _ _ _, fun same => tracking_ne (by decide) id (c.url_inj.mp same)⟩

end Freebox
