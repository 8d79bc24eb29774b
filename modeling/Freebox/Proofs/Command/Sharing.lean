import Freebox.Command
import Freebox.Proofs.Session.Renewal

/-!
# `Freebox.Proofs.Command.Sharing` — one handshake for all who hold the same token

Several callers may find the same token rejected, and each of them renews it. The first renewal that brings another
token is good for all of them: whoever renews the old token later is told the one that is there. Until then every
renewal is a handshake of its own, also behind one that failed or that brought the old token again.

## Contents
- `State.Unrenewed`, `State.Vain`: no other token is there, and a handshake brings none.
- `renew_unrenewed`, `handshake_vain`, `renew_renewed`: one renewal, before and after another token is there.
- `Command.perform_renew`, `Desk.renewed`: a renewal as a command, and a row of them.
- `Desk.run_renewals`: what a row of renewals brings.
- `Desk.renewed_vain`, `Desk.renewed_settled`: the row up to the first handshake that is not in vain, and behind it.
- `Desk.renewed_tried`, `Desk.renewed_shared`: what a renewal does before and behind that handshake.
- `renewals_shared`: all of it.
-/

namespace Freebox

/-! ## One renewal -/

namespace State

/-- If there is a session at all, its token is the stale one. -/
def Unrenewed (stale : Text) (s : State) : Prop := ∀ token, s.client.token? = some token → token = stale

/-- A handshake is in vain: it fails, or brings the stale token again. -/
def Vain (stale : Text) (s : State) : Prop :=
  Yields (fun opened : Text × Record => opened.1 = stale) (handshake s).1

end State

section
variable {stale fresh : Text} {s : State}

theorem freshToken_apply (s : State) : freshToken s = ((handshake s).1.map Prod.fst, (handshake s).2) :=
  Attempt.map_apply handshake Prod.fst s

/-- Whoever finds no other token makes a handshake. -/
theorem renew_unrenewed (unrenewed : s.Unrenewed stale) : renew stale s = freshToken s := by
  have none_other : s.client.token?.filter (· != stale) = none := by
    rw [Option.filter_eq_none_iff]
    intro token there
    simpa using unrenewed token there
  rw [renew_apply, none_other]

/-- Whoever finds another token takes it, and does nothing. -/
theorem renew_renewed (there : s.client.token? = some fresh) (other : fresh ≠ stale) :
    renew stale s = (.ok fresh, s) := by
  have kept : (some fresh).filter (· != stale) = some fresh := by simp [other]
  rw [renew_apply, there, kept]

/-- A handshake in vain leaves no other token: none at all behind an error of the box, what was there behind a fault. -/
theorem handshake_vain (unrenewed : s.Unrenewed stale) (vain : s.Vain stale) : (handshake s).2.Unrenewed stale := by
  intro token there
  unfold State.Vain at vain
  rcases opened : handshake s with ⟨(⟨e, cause⟩ | f) | ⟨brought, permissions⟩, t⟩ <;> rw [opened] at there vain
  · rw [Client.token?, handshake_drops opened] at there
    cases there
  · rw [Client.token?, handshake_spares opened] at there
    exact unrenewed token there
  · obtain rfl : brought = stale := vain
    rw [handshake_opens opened] at there
    exact (Option.some.inj there).symm

end

/-! ## Renewals in a row -/

section
variable {stale fresh : Text} {d : Desk}

theorem Command.perform_renew (stale : Text) (d : Desk) :
    (Command.renew stale).perform d
      = ((Freebox.renew stale d.state).1.map fun token => .value (.str token),
        { d with state := (Freebox.renew stale d.state).2 }) :=
  Attempt.map_apply (Desk.client (Freebox.renew stale)) (fun token => Product.value (.str token)) d

namespace Desk

/-- The desk after so many renewals of one token. -/
def renewed (stale : Text) (d : Desk) (k : Nat) : Desk := (run (List.replicate k (.renew stale)) d).2

/-- One more renewal, behind the others. -/
theorem renewed_succ (stale : Text) (d : Desk) (k : Nat) :
    d.renewed stale (k + 1) = ((Command.renew stale).perform (d.renewed stale k)).2 := by
  induction k generalizing d with
  | zero => rfl
  | succ k ih => exact ih ((Command.renew stale).perform d).2

/-- **A row of renewals** brings what each of them brings behind the others. -/
theorem run_renewals (stale : Text) (d : Desk) (k : Nat) :
    (run (List.replicate k (.renew stale)) d).1
      = (List.range k).map fun i => ((Command.renew stale).perform (d.renewed stale i)).1 := by
  induction k generalizing d with
  | zero => rfl
  | succ k ih =>
    rw [List.range_succ_eq_map, List.map_cons, List.map_map]
    exact congrArg _ (ih ((Command.renew stale).perform d).2)

/-- A renewal that finds no other token is a handshake. -/
theorem perform_unrenewed (unrenewed : d.state.Unrenewed stale) :
    (Command.renew stale).perform d
      = ((handshake d.state).1.map fun opened => .value (.str opened.1), { d with state := (handshake d.state).2 }) := by
  rw [Command.perform_renew, renew_unrenewed unrenewed, freshToken_apply]
  cases (handshake d.state).1 <;> rfl

/-- A renewal that finds another token tells it. -/
theorem perform_renewed (there : d.state.client.token? = some fresh) (other : fresh ≠ stale) :
    (Command.renew stale).perform d = (.ok (.value (.str fresh)), d) := by
  rw [Command.perform_renew, renew_renewed there other]
  rfl

/-- **As long as handshakes are in vain** no other token is there. -/
theorem renewed_vain (start : d.state.Unrenewed stale) {k : Nat}
    (vain : ∀ i < k, (d.renewed stale i).state.Vain stale) : (d.renewed stale k).state.Unrenewed stale := by
  induction k with
  | zero => exact start
  | succ k ih =>
    have unrenewed := ih fun i before => vain i (Nat.lt_succ_of_lt before)
    rw [renewed_succ, perform_unrenewed unrenewed]
    exact handshake_vain unrenewed (vain k (Nat.lt_succ_self k))

/-- **Once another token is there** renewals do nothing, however many there are. -/
theorem renewed_settled {k : Nat} (there : (d.renewed stale k).state.client.token? = some fresh) (other : fresh ≠ stale)
    (more : Nat) : d.renewed stale (k + more) = d.renewed stale k := by
  induction more with
  | zero => rfl
  | succ more ih => rw [← Nat.add_assoc, renewed_succ, ih, perform_renewed there other]

section
variable (start : d.state.Unrenewed stale) {k : Nat} (vain : ∀ i < k, (d.renewed stale i).state.Vain stale)
include start vain

/-- A renewal behind handshakes in vain is a handshake again. -/
theorem renewed_tried :
    (Command.renew stale).perform (d.renewed stale k)
        = ((handshake (d.renewed stale k).state).1.map fun opened => .value (.str opened.1), d.renewed stale (k + 1)) ∧
      (d.renewed stale (k + 1)).state = (handshake (d.renewed stale k).state).2 := by
  have performed := perform_unrenewed (renewed_vain start vain)
  rw [renewed_succ, performed]
  exact ⟨rfl, rfl⟩

/-- Behind a handshake that has brought another token, that token is told, and nothing is done. -/
theorem renewed_shared {permissions : Record}
    (brought : (handshake (d.renewed stale k).state).1 = .ok (fresh, permissions)) (other : fresh ≠ stale) {j : Nat}
    (later : k < j) :
    d.renewed stale j = d.renewed stale (k + 1) ∧ (d.renewed stale j).state.client.token? = some fresh ∧
      (Command.renew stale).perform (d.renewed stale j) = (.ok (.value (.str fresh)), d.renewed stale j) := by
  have there : (d.renewed stale (k + 1)).state.client.token? = some fresh := by
    rw [(renewed_tried start vain).2]
    exact handshake_opens (Prod.ext brought rfl)
  obtain ⟨more, rfl⟩ := Nat.exists_eq_add_of_lt later
  have same : d.renewed stale (k + more + 1) = d.renewed stale (k + 1) := by
    rw [Nat.add_right_comm]
    exact renewed_settled there other more
  rw [same]
  exact ⟨rfl, there, perform_renewed there other⟩

end

end Desk

/-- **One handshake serves all who hold the same token.** While the session has a token, that token is renewed so many
times in a row. A renewal is a handshake if all handshakes before it were in vain, and brings its token or its failure.
Once a handshake has brought another token, every later renewal brings that token, and does nothing at all. So if the
first handshake brings another token, nothing is asked for but its two requests, however often the old token is
renewed. -/
theorem renewals_shared (cached : d.state.client.token? = some stale) :
    (∀ k, (Desk.run (List.replicate k (.renew stale)) d).1
      = (List.range k).map fun i => ((Command.renew stale).perform (d.renewed stale i)).1) ∧
    (∀ k, (∀ i < k, (d.renewed stale i).state.Vain stale) →
      let opened := handshake (d.renewed stale k).state
      (Command.renew stale).perform (d.renewed stale k)
        = (opened.1.map fun told => .value (.str told.1), d.renewed stale (k + 1)) ∧
      (d.renewed stale (k + 1)).state = opened.2) ∧
    (∀ k fresh permissions, (∀ i < k, (d.renewed stale i).state.Vain stale) →
      (handshake (d.renewed stale k).state).1 = .ok (fresh, permissions) → fresh ≠ stale →
      ∀ j > k, d.renewed stale j = d.renewed stale (k + 1) ∧
        (d.renewed stale j).state.client.token? = some fresh ∧
        (Command.renew stale).perform (d.renewed stale j) = (.ok (.value (.str fresh)), d.renewed stale j)) ∧
    (∀ fresh permissions, (handshake d.state).1 = .ok (fresh, permissions) → fresh ≠ stale →
      ∀ k ≥ 1, ∃ appId word, (d.renewed stale k).state.asked = d.state.asked ++
        [.request d.state.client.challengeRequest, .request (d.state.client.exchangeRequest appId word)]) := by
  have start : d.state.Unrenewed stale := by
    intro token there
    exact Option.some.inj (there.symm.trans cached)
  refine ⟨Desk.run_renewals stale d, fun k vain => Desk.renewed_tried start vain,
    fun k fresh permissions vain brought other j later => Desk.renewed_shared start vain brought other later, ?once⟩
  case once =>
    intro fresh permissions brought other k some_call
    have untried : ∀ i < 0, (d.renewed stale i).state.Vain stale := by simp
    obtain ⟨same, -⟩ := Desk.renewed_shared start untried brought other some_call
    have opened : handshake d.state = (.ok (fresh, permissions), (d.renewed stale 1).state) :=
      Prod.ext brought (Desk.renewed_tried start untried).2.symm
    obtain ⟨appId, word, asked, -⟩ := handshake_exchange opened
    refine ⟨appId, word, ?_⟩
    rw [same, ← asked, ← handshake_asked d.state, opened]

/-- Four callers renew the token of a session: there is one handshake. -/
theorem renewals_shared_by_four :
    let client : Client := { Client.create "http://fbx.test" "v8" (some "app") (some "secret") (.int 10) true with
      session := some ⟨"old", ⟨0⟩⟩ }
    let told := fun result =>
      let body := "\x7b\"success\": true, \"result\": " ++ result ++ "\x7d"
      Reply.received ⟨200, [], [Utf8.encode body.toList], none⟩
    let peer : Peer := ⟨fun _ r =>
      if r.url = client.url "login" then told "\x7b\"challenge\": \"VzhbtpR4\"\x7d"
      else told "\x7b\"session_token\": \"new\"\x7d", fun _ => .refused .closedNormally⟩
    let d : Desk := { state := { client, network := { peer, now := ⟨0⟩ } } }
    d.state.client.token? = some "old" ∧ ∃ appId word, (d.renewed "old" 4).state.asked =
      [.request client.challengeRequest, .request (client.exchangeRequest appId word)] := by
  intro client told peer d
  have cached : d.state.client.token? = some "old" := rfl
  have first : (handshake d.state).1.toOption.map Prod.fst = some "new" := by decide +kernel
  obtain ⟨⟨_, permissions⟩, opened, rfl⟩ := Option.map_eq_some_iff.mp first
  obtain ⟨-, -, -, once⟩ := renewals_shared cached
  exact ⟨cached, once "new" permissions (Attempt.ok_of_toOption opened) (by decide) 4 (by decide)⟩

end

end Freebox
