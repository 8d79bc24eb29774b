import Freebox.Proofs.Session.Chronicle

/-!
# `Freebox.Proofs.Session.Provenance` — where the token of a session comes from

A client lives by a chronicle if it asked for what the chronicle tells, its session has the token that stands, and the
chronicle is sound. Handshakes, attempts and leavings each write their moments into the chronicle, and the client lives
by it afterwards; so do operations, stage by stage. Whatever else is done leaves the session and shows no token.

## Contents
- `Lives`: a client lives by its chronicle. `Aside`: what leaves its session alone.
- `Lives.aside`, `Lives.handshake`, `Lives.attempt`, `Lives.logout`: one step each.
- `Lives.operation`: operations under a session.
-/

namespace Freebox

/-! ## Living by a chronicle -/

/-- A client lives by a chronicle: its address and its other side are what they were, it asked for what the chronicle
tells, and its session has the token that stands. -/
structure Lives (base : String) (peer : Peer) (h : List Moment) (s : State) : Prop where
  address : s.client.base = base
  otherSide : s.network.peer = peer
  asked : s.asked = askings h
  session : ∀ token, s.client.token? = some token ↔ Standing h token
  sound : Sound base peer h

/-- What is done aside leaves the session, the address and the other side, and shows no token. -/
structure Aside (s t : State) : Prop where
  address : t.client.base = s.client.base
  session : t.client.session = s.client.session
  otherSide : t.network.peer = s.network.peer
  asked : ∃ news, t.asked = s.asked ++ news ∧ ∀ a ∈ news, a.tokens = []

namespace Aside

variable {s t u : State}

theorem of_still (address : t.client.base = s.client.base) (session : t.client.session = s.client.session)
    (otherSide : t.network.peer = s.network.peer) (asked : t.asked = s.asked) : Aside s t :=
  ⟨address, session, otherSide, [], by rw [asked, List.append_nil], by simp⟩

instance : Std.Refl Aside := ⟨fun _ => of_still rfl rfl rfl rfl⟩

theorem trans (h : Aside s t) (k : Aside t u) : Aside s u where
  address := k.address.trans h.address
  session := k.session.trans h.session
  otherSide := k.otherSide.trans h.otherSide
  asked := by
    obtain ⟨first, asked, untold⟩ := h.asked
    obtain ⟨second, then_asked, silent⟩ := k.asked
    refine ⟨first ++ second, by rw [then_asked, asked, List.append_assoc], fun a ha => ?_⟩
    rcases List.mem_append.mp ha with early | late
    · exact untold a early
    · exact silent a late


theorem of_asks {news : List Asking} (h : Asks news s t) (untold : ∀ a ∈ news, a.tokens = []) : Aside s t :=
  ⟨congrArg Client.base h.client, congrArg Client.session h.client, h.peer, news, h.asked, untold⟩

theorem of_quiet (h : Asks [] s t) : Aside s t := of_asks h (by simp)

end Aside

/-- A request with no other header than the one that asks for JSON shows no token. -/
theorem tokens_of_accept {r : Request} (only : r.headers = [acceptHeader]) : (Asking.request r).tokens = [] := by
  have other : acceptHeader.1 ≠ authHeader := by decide
  simp [Asking.tokens, Asking.headers, only, other]

theorem handshakeAsked_tokens (s : State) : ∀ a ∈ handshakeAsked s, a.tokens = [] := by
  intro a ha
  unfold handshakeAsked at ha
  split at ha
  · simp at ha
  · rcases List.mem_cons.mp ha with rfl | ha
    · exact tokens_of_accept rfl
    · split at ha
      · simp at ha
      · rw [List.mem_singleton.mp ha]
        exact tokens_of_accept rfl

theorem Authenticated.asking_under (a : Authenticated) (c : Client) (token : Text) :
    (a.asking c token).Under c.base := by
  cases a with
  | call method path parcel => exact ⟨path, rfl⟩
  | content path => exact ⟨"dl/" ++ Path.encode path, rfl⟩
  | upload start => exact ⟨"ws/upload", rfl⟩
  | listening first others => exact ⟨"ws/event", rfl⟩

/-! ## Single steps -/

/-- The moments of a handshake: what it asks for, and then how it ends. A fault is no moment. -/
def handshakeMoments (s : State) : List Moment :=
  (handshakeAsked s).map .asked ++ match (handshake s).1 with
    | .ok (token, _) => [.opened token]
    | .error (.box _ _) => [.refused]
    | .error (.fault _) => []

/-- The moments of a leaving: the request under the last token, if there is a session, and the end of it. -/
def leavingMoments (s : State) : List Moment :=
  match s.client.session with
  | none => [.left]
  | some session =>
    [.asked (.request (s.client.request "POST" "login/logout" (some session.token) {})), .left]

/-- A leaving drops the session before it tells the box. -/
theorem logout_state (s : State) :
    (logout s).2 = match s.client.session with
      | none => s.withSession none
      | some session =>
        (s.withSession none).did (.request (s.client.request "POST" "login/logout" (some session.token) {})) := by
  unfold logout
  rw [Attempt.bind_of_ok (Attempt.state_apply s), Attempt.bind_of_ok (Attempt.update_apply _ s)]
  cases s.client.session with
  | none => rfl
  | some session =>
    dsimp only
    rw [Attempt.bind_of_ok (Attempt.outcome_apply _ _), perform_apply]
    generalize Reply.envelope _ _ = answered
    rcases answered with (⟨e, cause⟩ | f) | v <;> rfl

namespace Lives

variable {base : String} {peer : Peer} {h : List Moment} {s t : State}

/-- What was asked for aside is written into the chronicle. -/
theorem aside (lives : Lives base peer h s) (beside : Aside s t) :
    Lives base peer (h ++ (t.asked.drop s.asked.length).map .asked) t := by
  obtain ⟨news, asked, untold⟩ := beside.asked
  have since : t.asked.drop s.asked.length = news := by rw [asked, List.drop_left]
  rw [since]
  exact {
    address := beside.address.trans lives.address
    otherSide := beside.otherSide.trans lives.otherSide
    asked := by rw [asked, lives.asked, askings_append, askings_asked]
    session := fun token => by
      rw [standing_askings, Client.token?, beside.session]
      exact lives.session token
    sound := lives.sound.askings untold }

/-- The token of an exchange at a state was granted after the chronicle that its client lives by. -/
theorem granted (lives : Lives base peer h s) {appId word : String} {token : Text} {permissions : Record}
    (asked : handshakeAsked s = [.request s.client.challengeRequest, .request (s.client.exchangeRequest appId word)])
    (told : s.challenged.exchanged appId word = .ok (token, permissions)) :
    Granted base peer (h ++ (handshakeAsked s).map .asked) token := by
  refine ⟨h, s.client, appId, word, permissions, lives.address, by rw [asked]; rfl, ?_⟩
  have before : s.challenged.network.requests
      = (askings h ++ [Asking.request s.client.challengeRequest]).filterMap Asking.request? := by
    rw [State.requests_eq, ← lives.asked]
    exact congrArg _ (State.did_asked _ s)
  rw [← before, ← lives.otherSide]
  exact told

/-- **A handshake** writes its askings and its end into the chronicle. -/
theorem handshake (lives : Lives base peer h s) :
    Lives base peer (h ++ handshakeMoments s) (handshake s).2 := by
  have address : (Freebox.handshake s).2.client.base = base := by
    rw [handshake_client]
    exact lives.address
  have otherSide : (Freebox.handshake s).2.network.peer = peer := (handshake_peer s).trans lives.otherSide
  have asked : (Freebox.handshake s).2.asked = askings (h ++ (handshakeAsked s).map .asked) := by
    rw [handshake_asked, lives.asked, askings_append, askings_asked]
  have sound := lives.sound.askings (handshakeAsked_tokens s)
  unfold handshakeMoments
  rw [← List.append_assoc]
  rcases told : Freebox.handshake s with ⟨(⟨e, cause⟩ | f) | ⟨token, permissions⟩, t⟩ <;>
    rw [told] at address otherSide asked
  · -- an error of the box: there is no session, and nothing stands behind a refusal
    have dropped := handshake_drops told
    exact {
      address, otherSide
      asked := by simpa using asked
      session := fun token => by
        rw [Client.token?, dropped]
        exact iff_of_false (by simp) not_standing_refused
      sound := sound.snoc trivial }
  · -- a fault is no moment, so what stood before still stands, as the session is still there
    have spared := handshake_spares told
    exact {
      address, otherSide
      asked := by simpa using asked
      session := fun token => by
        rw [List.append_nil, standing_askings, Client.token?, spared]
        exact lives.session token
      sound := by simpa using sound }
  · obtain ⟨appId, word, requests, exchanged⟩ := handshake_exchange told
    exact {
      address, otherSide
      asked := by simpa using asked
      session := fun shown => by rw [handshake_opens told, standing_opened, Option.some.injEq]
      sound := sound.snoc (lives.granted requests exchanged) }

/-- **An attempt** under the token of the session writes what it asks for into the chronicle. -/
theorem attempt (lives : Lives base peer h s) (a : Authenticated) (number : Nat) {token : Text}
    (ready : s.client.token? = some token) :
    Lives base peer (h ++ [.asked (a.asking s.client token)]) (a.attempt number token s).2 := by
  have asks := a.attempt_asks number token s
  have fits : Fits base peer h (.asked (a.asking s.client token)) := by
    intro shown here
    rw [a.mem_asking_tokens s.client here]
    refine ⟨?_, (lives.session token).mp ready⟩
    rw [← lives.address]
    exact a.asking_under s.client token
  exact {
    address := (congrArg Client.base asks.client).trans lives.address
    otherSide := asks.peer.trans lives.otherSide
    asked := by rw [asks.asked, lives.asked]; simp
    session := fun shown => by
      rw [standing_asked, asks.client]
      exact lives.session shown
    sound := lives.sound.snoc fits }

/-- **A leaving** gives the session up; the request that tells the box is the last one under its token. -/
theorem logout (lives : Lives base peer h s) : Lives base peer (h ++ leavingMoments s) (logout s).2 := by
  have gone (k : List Moment) (token : Text) :
      (s.withSession none).client.token? = some token ↔ Standing (k ++ [.left]) token :=
    iff_of_false (by simp [Client.token?]) not_standing_left
  unfold leavingMoments
  rw [logout_state]
  cases hs : s.client.session with
  | none =>
    exact {
      address := lives.address
      otherSide := lives.otherSide
      asked := by simpa using lives.asked
      session := gone h
      sound := lives.sound.snoc trivial }
  | some session =>
    -- the request is made when the session is given up already, but the token still stands in the chronicle
    have ready : s.client.token? = some session.token := by simp [Client.token?, hs]
    have last := lives.attempt (.call "POST" "login/logout" {}) 0 ready
    rw [List.append_cons]
    exact {
      address := lives.address
      otherSide := lives.otherSide
      asked := by simp [Effect.asking?, lives.asked]
      session := gone _
      sound := last.sound.snoc trivial }

end Lives

/-! ## Operations -/

/-- The moments of a stage, where an attempt asks for one thing. -/
def Stage.moments (asking : Text → Asking) : Stage → List Moment
  | handshake start => handshakeMoments start
  | attempt token => [.asked (asking token)]

/-- The moments of an operation from a state. -/
def Authenticated.moments (a : Authenticated) (s : State) : List Moment :=
  (course (a.attempt (s.client.uploads + 1)) (a.begun s)).flatMap (Stage.moments (a.asking s.client))

namespace Lives

variable {base : String} {peer : Peer} {h : List Moment} {s : State}

/-- To use up the number of an upload is no moment. -/
theorem begun (lives : Lives base peer h s) (a : Authenticated) : Lives base peer h (a.begun s) := by
  cases a <;> exact ⟨lives.address, lives.otherSide, lives.asked, lives.session, lives.sound⟩

/-- **An operation** writes its stages into the chronicle. -/
theorem operation (lives : Lives base peer h s) (a : Authenticated) :
    Lives base peer (h ++ a.moments s) (a.run s).2 := by
  have carried := withSession_carries (Stage.moments (a.asking s.client))
    (fun told t => Lives base peer told t ∧ a.asking t.client = a.asking s.client)
    (fun token t => (a.attempt_asks (s.client.uploads + 1) token t).client) ?handshakes ?tries
    ⟨lives.begun a, funext (a.asking_begun s)⟩
  · rw [a.run_apply]
    exact carried.1
  case handshakes =>
    rintro told t ⟨living, same⟩
    exact ⟨living.handshake, (asking_after_handshake a t).trans same⟩
  case tries =>
    rintro told t token ⟨living, same⟩ ready
    have tried := living.attempt a (s.client.uploads + 1) ready
    rw [same] at tried
    refine ⟨tried, ?_⟩
    rw [(a.attempt_asks (s.client.uploads + 1) token t).client]
    exact same

end Lives

end Freebox
