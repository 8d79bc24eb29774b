import Freebox.Authorization
import Freebox.Proofs.Envelope.Reading
import Freebox.Proofs.Network.Asking

/-!
# `Freebox.Proofs.Session.Registration` — how registering an application ends

Once a registration is under way, its state is asked for until an answer settles it, or until it was asked for often
enough. What the answers are is told by the other side alone: sleeping between the questions changes nothing that it
replies by. So the answers are a sequence that is there before the first question, and how the registration ends, after
how many questions and how many sleeps, is read off that sequence.

## Contents
- `Client.registrationRequest`, `Client.trackingRequest`, `Reply.registered`, `Reply.status`: what is asked for.
- `State.statusAfter`: the answer to the next question after so many.
- `Waits`, `Verdict`, `Verdict.unique`: answers that settle nothing, and how a sequence of answers ends.
- `poll_succ`, `poll_settles`: asking for the state of a registration.
- `authorize_apply`, `authorize_settles`: all of it.
-/

namespace Freebox

/-! ## Requests and what their replies tell -/

/-- The request that registers an application. -/
def Client.registrationRequest (c : Client) (registration : Resource.Registration) : Request :=
  c.request "POST" "login/authorize" none { payload := .obj registration.payload }

/-- The request for the state of a registration. -/
def Client.trackingRequest (c : Client) (trackId : Text) : Request :=
  c.request "GET" ("login/authorize/" ++ trackId) none {}

/-- An integer is shown as its decimal text. -/
theorem Json.shown_int (n : Int) : (Json.int n).shown = Whole.text n := by
  simp [Json.shown, Json.inspected, Whole.text, Text.ofString]

/-- What is registered by a reply: the token to be, and the number to ask for. -/
def Reply.registered (r : Request) (reply : Reply) : Except Failure (Json × Json) :=
  (reply.envelope r).bind fun told =>
    (Resource.grant.decode told.result).map fun grant => (grant.get "app_token", grant.get "track_id")

/-- The status that a reply tells. -/
def Reply.status (r : Request) (reply : Reply) : Except Failure Json :=
  (reply.envelope r).bind fun told => (Resource.grantState.decode told.result).map (·.get "status")

/-- The number to ask for is an integer. -/
theorem Reply.registered_number {r : Request} {reply : Reply} {token number : Json}
    (h : reply.registered r = .ok (token, number)) : ∃ n, number = .int n := by
  unfold registered at h
  cases told : reply.envelope r with
  | error e =>
    rw [told] at h
    cases h
  | ok envelope =>
    rw [told] at h
    cases decoded : Resource.grant.decode envelope.result with
    | error e => simp [Except.bind, Except.map, decoded] at h
    | ok grant =>
      obtain ⟨ms, -, fields⟩ := Layout.decode_ok decoded
      simp only [Resource.grant, Layout.ofFields, Layout.decodeFields_cons] at fields
      obtain ⟨v, rest, -, ⟨w, last, read, -, rfl⟩, all⟩ := fields
      have kept : number = w := by
        simp only [Except.bind, Except.map, decoded, Except.ok.injEq, Prod.mk.injEq, Record.get, all] at h
        exact h.2.symm
      unfold Field.integer at read
      cases member : Members.get? ms "track_id" with
      | none => simp [member] at read
      | some x =>
        rw [member] at read
        cases number : x.toInteger with
        | error f => simp [number] at read
        | ok n =>
          simp only [number, Except.ok.injEq] at read
          exact ⟨n, kept.trans read.symm⟩

namespace State

/-- The status that is told at a state after a request was made so many times more. -/
def statusAfter (s : State) (r : Request) (n : Nat) : Except Failure Json :=
  (s.network.peer.reply (s.network.requests ++ List.replicate n r) r).status r

/-- The next answer is the one to a request that is made now. -/
theorem statusAfter_zero (s : State) (r : Request) : s.statusAfter r 0 = (s.answer r).status r := by
  unfold statusAfter answer
  rw [List.replicate_zero, List.append_nil]

/-- The state after a question that settled nothing, and the sleep behind it. -/
def waited (r : Request) (interval : Quantity) (s : State) : State :=
  { s with network := (s.network.did (.request r)).sleep interval }

@[simp] theorem waited_client (r : Request) (interval : Quantity) (s : State) :
    (s.waited r interval).client = s.client := rfl

@[simp] theorem waited_log (r : Request) (interval : Quantity) (s : State) :
    (s.waited r interval).network.log = s.network.log ++ [.request r, .sleep interval] := by
  simp [waited, Network.sleep, Network.did]

/-- Sleeping changes nothing that the other side replies by. -/
theorem statusAfter_waited (r : Request) (interval : Quantity) (s : State) (n : Nat) :
    (s.waited r interval).statusAfter r n = s.statusAfter r (n + 1) := by
  have requests : (s.waited r interval).network.requests = s.network.requests ++ [r] := by
    simp [Network.requests, Effect.request?]
  unfold statusAfter
  rw [requests, List.append_assoc]
  rfl

end State

namespace Authorization

/-! ## Verdicts -/

/-- An answer settles nothing: it tells a status, and neither a grant nor an end. -/
def Waits (told : Except Failure Json) : Prop := ∃ status, told = .ok status ∧ status ≠ granted ∧ isEnded status = false

/-- How a sequence of answers ends within a budget of questions: after how many of them that settle nothing, and in
what. Without any question, the status is the one from before. -/
inductive Verdict (told : Nat → Except Failure Json) (token before : Json) (budget : Nat) :
    Nat → Except Failure Json → Prop where
  | granted {n : Nat} (within : n < budget) (waits : ∀ i < n, Waits (told i))
      (settles : told n = .ok Authorization.granted) : Verdict told token before budget n (.ok token)
  | ended {n : Nat} {status : Json} (within : n < budget) (waits : ∀ i < n, Waits (told i))
      (settles : told n = .ok status) (last : isEnded status = true) :
      Verdict told token before budget n (.error (.ofBox (.authorization status)))
  | failed {n : Nat} {e : Failure} (within : n < budget) (waits : ∀ i < n, Waits (told i))
      (settles : told n = .error e) : Verdict told token before budget n (.error e)
  | unasked (spent : budget = 0) : Verdict told token before budget 0 (.error (.ofBox (.authorization before)))
  | exhausted {n : Nat} {status : Json} (spent : budget = n + 1) (waits : ∀ i < n + 1, Waits (told i))
      (last : told n = .ok status) :
      Verdict told token before budget (n + 1) (.error (.ofBox (.authorization status)))

theorem not_waits_granted : ¬ Waits (.ok granted) := by
  rintro ⟨status, ⟨⟩, other, -⟩
  exact other rfl

theorem not_waits_ended {status : Json} (h : isEnded status = true) : ¬ Waits (.ok status) := by
  rintro ⟨_, ⟨⟩, -, going⟩
  rw [h] at going
  cases going

theorem not_waits_failed {e : Failure} : ¬ Waits (.error e) := by
  rintro ⟨status, ⟨⟩, -⟩

section
variable {told : Nat → Except Failure Json} {token before : Json} {budget n : Nat} {result : Except Failure Json}

/-- Before a verdict nothing is settled, and at it something is unless the budget is spent. -/
theorem Verdict.place (h : Verdict told token before budget n result) :
    (∀ i < n, Waits (told i)) ∧ (n < budget ∧ ¬ Waits (told n) ∨ n = budget) := by
  cases h with
  | granted within waits settles => exact ⟨waits, .inl ⟨within, settles ▸ not_waits_granted⟩⟩
  | ended within waits settles last => exact ⟨waits, .inl ⟨within, settles ▸ not_waits_ended last⟩⟩
  | failed within waits settles => exact ⟨waits, .inl ⟨within, settles ▸ not_waits_failed⟩⟩
  | unasked spent => exact ⟨fun _ none => absurd none (Nat.not_lt_zero _), .inr spent.symm⟩
  | exhausted spent waits last => exact ⟨waits, .inr spent.symm⟩

/-- What an answer settles, if it does. -/
def settled (token : Json) : Except Failure Json → Except Failure Json
  | .ok status => if status = granted then .ok token else .error (.ofBox (.authorization status))
  | .error e => .error e

theorem settled_ended {status : Json} (h : isEnded status = true) :
    settled token (.ok status) = .error (.ofBox (.authorization status)) := by
  refine if_neg ?_
  rintro rfl
  cases h

/-- What counts once a budget is spent: the last answer, or the status from before. -/
def remaining (told : Nat → Except Failure Json) (token before : Json) : Nat → Except Failure Json
  | 0 => .error (.ofBox (.authorization before))
  | n + 1 => settled token (told n)

/-- What a verdict is in depends on its place alone. -/
theorem Verdict.result_eq (h : Verdict told token before budget n result) :
    result = if n < budget then settled token (told n) else remaining told token before n := by
  cases h with
  | granted within waits settles => rw [if_pos within, settles, settled, if_pos rfl]
  | ended within waits settles last => rw [if_pos within, settles, settled_ended last]
  | failed within waits settles => rw [if_pos within, settles, settled]
  | unasked spent => rw [if_neg (by omega), remaining]
  | @exhausted k status spent waits last =>
    obtain ⟨_, same, other, -⟩ := waits k (Nat.lt_succ_self k)
    obtain rfl := Except.ok.inj (last.symm.trans same)
    rw [if_neg (by omega), remaining, last, settled, if_neg other]

/-- **A sequence of answers** ends in one way only. -/
theorem Verdict.unique (h : Verdict told token before budget n result) {m : Nat} {other : Except Failure Json}
    (k : Verdict told token before budget m other) : m = n ∧ other = result := by
  have same : m = n := by
    obtain ⟨earlier, place⟩ := h.place
    obtain ⟨earlier', place'⟩ := k.place
    rcases Nat.lt_trichotomy m n with less | same | more
    · rcases place' with ⟨-, settled⟩ | spent
      · exact absurd (earlier m less) settled
      · omega
    · exact same
    · rcases place with ⟨-, settled⟩ | spent
      · exact absurd (earlier' n more) settled
      · omega
  subst same
  exact ⟨rfl, k.result_eq.trans h.result_eq.symm⟩

/-- The token is what a sequence of answers ends in if, and only if, the first that settles anything is a grant. -/
theorem Verdict.token_iff (h : Verdict told token before budget n result) (v : Json) :
    result = .ok v ↔ v = token ∧ ∃ m < budget, (∀ i < m, Waits (told i)) ∧ told m = .ok Authorization.granted := by
  constructor
  · rintro rfl
    cases h with
    | granted within waits settles => exact ⟨rfl, n, within, waits, settles⟩
  · rintro ⟨rfl, m, within, waits, settles⟩
    exact (h.unique (.granted within waits settles)).2.symm

/-- Answers settle nothing if the first one does not, and none of those behind it does. -/
theorem waits_succ (first : Waits (told 0)) (later : ∀ i < n, Waits (told (i + 1))) : ∀ i < n + 1, Waits (told i) := by
  intro i here
  cases i with
  | zero => exact first
  | succ i => exact later i (Nat.lt_of_succ_lt_succ here)

/-- A first answer that settles nothing leaves the verdict to those behind it, with its status as that from before. -/
theorem Verdict.later {status : Json} (first : told 0 = .ok status) (waits : Waits (told 0))
    (h : Verdict (fun i => told (i + 1)) token status budget n result) :
    Verdict told token before (budget + 1) (n + 1) result := by
  cases h with
  | granted within later settles => exact .granted (Nat.succ_lt_succ within) (waits_succ waits later) settles
  | ended within later settles last => exact .ended (Nat.succ_lt_succ within) (waits_succ waits later) settles last
  | failed within later settles => exact .failed (Nat.succ_lt_succ within) (waits_succ waits later) settles
  | unasked spent =>
    exact .exhausted (by omega) (waits_succ waits fun _ none => absurd none (Nat.not_lt_zero _)) first
  | exhausted spent later last => exact .exhausted (by omega) (waits_succ waits later) last

end

/-! ## Asking for the state -/

/-- What is done while the state of a registration is asked for: so many questions with a sleep behind each, and one
more if the budget was not spent on them. -/
def polls (r : Request) (interval : Quantity) (budget n : Nat) : List Effect :=
  (List.replicate n [Effect.request r, .sleep interval]).flatten ++ if n < budget then [.request r] else []

theorem trackStatus_apply (trackId : Text) (s : State) :
    trackStatus trackId s
      = (s.statusAfter (s.client.trackingRequest trackId) 0, s.did (.request (s.client.trackingRequest trackId))) := by
  have reads : trackStatus trackId = perform "GET" ("login/authorize/" ++ trackId) none {} >>= fun envelope =>
      Attempt.lift ((Resource.grantState.decode envelope.result).map (·.get "status")) := by
    unfold trackStatus
    congr 1
    funext envelope s
    exact Attempt.map_apply (Attempt.lift (Resource.grantState.decode envelope.result)) (·.get "status") s
  rw [reads, Attempt.bind_lift, perform_apply, State.statusAfter_zero]
  rfl

variable (trackId : Text) (token : Json) (interval : Quantity)

/-- A question is answered by what settles the registration, or another one follows after a sleep. -/
theorem poll_succ (budget : Nat) (before : Json) (s : State) :
    let r := s.client.trackingRequest trackId
    poll trackId token interval (budget + 1) before s = match s.statusAfter r 0 with
      | .error e => (.error e, s.did (.request r))
      | .ok status =>
        if status = granted then (.ok token, s.did (.request r))
        else if isEnded status then (.error (.ofBox (.authorization status)), s.did (.request r))
        else poll trackId token interval budget status (s.waited r interval) := by
  intro r
  have asked := trackStatus_apply trackId s
  rw [poll]
  cases told : s.statusAfter r 0 with
  | error e => exact Attempt.bind_of_error (asked.trans (Prod.ext told rfl))
  | ok status =>
    rw [Attempt.bind_of_ok (asked.trans (Prod.ext told rfl))]
    dsimp only
    split
    · rfl
    · split <;> rfl

/-- **Asking for the state** of a registration ends as the sequence of answers does, after the questions and the sleeps
that the verdict tells, and leaves the client as it is. By induction on the budget: an answer that settles nothing
leaves a state at which the answers are those behind it. -/
theorem poll_settles (budget : Nat) (before : Json) (s : State) :
    let r := s.client.trackingRequest trackId
    ∃ n result t, poll trackId token interval budget before s = (result, t) ∧
      Verdict (s.statusAfter r) token before budget n result ∧ t.client = s.client ∧
      t.network.log = s.network.log ++ polls r interval budget n := by
  intro r
  induction budget generalizing before s with
  | zero => exact ⟨0, _, s, rfl, .unasked rfl, rfl, by simp [polls]⟩
  | succ budget ih =>
    have none : ∀ i < 0, Waits (s.statusAfter r i) := fun _ none => absurd none (Nat.not_lt_zero _)
    have within : 0 < budget + 1 := Nat.succ_pos budget
    have once : (s.did (.request r)).network.log = s.network.log ++ polls r interval (budget + 1) 0 := by
      simp [polls, State.did, Network.did]
    rw [poll_succ trackId token interval]
    cases told : s.statusAfter r 0 with
    | error e => exact ⟨0, _, _, rfl, .failed within none told, rfl, once⟩
    | ok status =>
      dsimp only
      by_cases given : status = granted
      · subst given
        rw [if_pos rfl]
        exact ⟨0, _, _, rfl, .granted within none told, rfl, once⟩
      · rw [if_neg given]
        by_cases ended : isEnded status = true
        · rw [if_pos ended]
          exact ⟨0, _, _, rfl, .ended within none told ended, rfl, once⟩
        · rw [if_neg ended]
          have waits : Waits (s.statusAfter r 0) := ⟨status, told, given, Bool.eq_false_iff.mpr ended⟩
          obtain ⟨n, result, t, run, verdict, client, log⟩ := ih status (s.waited r interval)
          have behind : (s.waited r interval).statusAfter r = fun i => s.statusAfter r (i + 1) :=
            funext (s.statusAfter_waited r interval)
          rw [State.waited_client] at verdict client log
          rw [behind] at verdict
          refine ⟨n + 1, result, t, run, verdict.later told waits, client, ?_⟩
          rw [log, State.waited_log]
          simp [polls, List.replicate_succ, r]

end Authorization

open Authorization

/-- A registration is asked for once; what it grants is followed up by asking for its state. -/
theorem authorize_apply (registration : Resource.Registration) (interval : Quantity) (attempts : Int) (s : State) :
    let asked := s.client.registrationRequest registration
    authorize registration interval attempts s = match (s.answer asked).registered asked with
      | .error e => (.error e, s.did (.request asked))
      | .ok (token, number) =>
        poll number.shown token interval attempts.toNat pending (s.did (.request asked)) := by
  intro asked
  let grantOf := fun envelope : Envelope =>
    (Resource.grant.decode envelope.result).map fun grant => (grant.get "app_token", grant.get "track_id")
  -- the grant is read and taken apart in one step
  have reads : authorize registration interval attempts
      = (perform "POST" "login/authorize" none { payload := .obj registration.payload } >>= fun envelope =>
          Attempt.lift (grantOf envelope)) >>= fun grant =>
        poll grant.2.shown grant.1 interval attempts.toNat pending := by
    rw [← Attempt.bind_assoc]
    unfold authorize
    congr 1
    funext envelope s
    show (Attempt.lift (Resource.grant.decode envelope.result) >>= _) s = (Attempt.lift (Except.map _ _) >>= _) s
    rw [Attempt.bind_apply, Attempt.bind_apply, Attempt.lift_apply, Attempt.lift_apply]
    cases Resource.grant.decode envelope.result <;> rfl
  have begun := Attempt.bind_lift (perform "POST" "login/authorize" none { payload := .obj registration.payload })
    grantOf s
  rw [perform_apply] at begun
  rw [reads]
  cases told : (s.answer asked).registered asked with
  | error e => exact Attempt.bind_of_error (begun.trans (Prod.ext told rfl))
  | ok grant => exact Attempt.bind_of_ok (begun.trans (Prod.ext told rfl))

/-- **Registering an application.** If the registration fails, that ends it. Otherwise its state is asked for, by the
number that was told, until an answer is a grant, is an end, or fails, or until the budget is spent; no budget is less
than none. What the answers are does not depend on the sleeps, and they end in exactly one way. There is a sleep of the
interval behind each answer that settled nothing, no question behind one that did, and the token is returned exactly if
a grant is the first that does. The client stays as it is, with its session. -/
theorem authorize_settles (registration : Resource.Registration) (interval : Quantity) (attempts : Int) (s : State) :
    let asked := s.client.registrationRequest registration
    let told := (s.answer asked).registered asked
    (∀ e, told = .error e → authorize registration interval attempts s = (.error e, s.did (.request asked))) ∧
    ∀ token number, told = .ok (token, number) → ∃ trackId, number = .int trackId ∧
      let r := s.client.trackingRequest (Whole.text trackId)
      let answers := (s.did (.request asked)).statusAfter r
      ∃ n result t, authorize registration interval attempts s = (result, t) ∧
        Verdict answers token pending attempts.toNat n result ∧
        (∀ m other, Verdict answers token pending attempts.toNat m other → m = n ∧ other = result) ∧
        (∀ v, result = .ok v ↔ v = token ∧ ∃ m < attempts.toNat, (∀ i < m, Waits (answers i)) ∧
          answers m = .ok granted) ∧
        t.network.log = s.network.log ++ .request asked :: polls r interval attempts.toNat n ∧
        t.client = s.client := by
  intro asked told
  have applied : authorize registration interval attempts s = match told with
      | .error e => (.error e, s.did (.request asked))
      | .ok (token, number) => poll number.shown token interval attempts.toNat pending (s.did (.request asked)) :=
    authorize_apply registration interval attempts s
  refine ⟨fun e failed => ?_, fun token number registered => ?_⟩
  · rw [applied, failed]
  · obtain ⟨trackId, rfl⟩ := Reply.registered_number registered
    obtain ⟨n, result, t, run, verdict, client, log⟩ :=
      poll_settles (Whole.text trackId) token interval attempts.toNat pending (s.did (.request asked))
    refine ⟨trackId, rfl, n, result, t, ?_, verdict, fun m other => verdict.unique, verdict.token_iff, ?_, client⟩
    · rw [applied, registered]
      show poll (Json.int trackId).shown token interval attempts.toNat pending (s.did (.request asked)) = (result, t)
      rw [Json.shown_int]
      exact run
    · rw [log]
      simp [State.did, Network.did]

/-- A registration that waits twice for the user. -/
theorem authorize_waits_twice :
    let client := Client.create "http://fbx.test" "v8" none none (.int 10) true
    let registration : Resource.Registration := ⟨"app", "App", "1", "desk"⟩
    let told := fun result =>
      let body := "\x7b\"success\": true, \"result\": " ++ result ++ "\x7d"
      Reply.received ⟨200, [], [Utf8.encode body.toList], none⟩
    let peer : Peer := ⟨fun before _ =>
      if before.length = 0 then told "\x7b\"app_token\": \"k\", \"track_id\": 7\x7d"
      else if before.length < 3 then told "\x7b\"status\": \"pending\"\x7d"
      else told "\x7b\"status\": \"granted\"\x7d", fun _ => .refused .closedNormally⟩
    let s : State := ⟨client, ⟨peer, ⟨0⟩, []⟩⟩
    let asked := client.registrationRequest registration
    let r := client.trackingRequest "7"
    (s.answer asked).registered asked = .ok (.str "k", .int 7) ∧
      ∃ t, authorize registration (.int 1) 120 s = (.ok (.str "k"), t) ∧
        t.network.log = [.request asked, .request r, .sleep (.int 1), .request r, .sleep (.int 1), .request r] := by
  intro client registration told peer s asked r
  have registered : (s.answer asked).registered asked = .ok (.str "k", .int 7) :=
    Attempt.ok_of_toOption (by decide +kernel)
  obtain ⟨trackId, same, n, result, t, run, -, unique, -, log, -⟩ :=
    (authorize_settles registration (.int 1) 120 s).2 _ _ registered
  obtain rfl := Json.int.inj same
  have waits : ∀ i < 2, Waits ((s.did (.request asked)).statusAfter r i) := by
    intro i here
    refine ⟨.str "pending", Attempt.ok_of_toOption ?_, by decide, rfl⟩
    match i, here with
    | 0, _ => decide +kernel
    | 1, _ => decide +kernel
  have grant : (s.did (.request asked)).statusAfter r 2 = .ok granted := Attempt.ok_of_toOption (by decide +kernel)
  obtain ⟨rfl, rfl⟩ := unique 2 _ (.granted (by decide) waits grant)
  exact ⟨registered, t, run, log⟩

end Freebox
