import Freebox.Proofs.Network.Lockstep
import Freebox.Proofs.Session.Renewal

/-!
# `Freebox.Proofs.Session.Lockstep` — sessions of two clients in step

Of a session only its token is looked at, and only to be shown or to be compared with a stale one. So two clients in
step whose handshakes are in step open, renew and close their sessions alike, and run their operations alike.

## Contents
- `Lockstep.handshake`: handshakes, given negotiations in step.
- `Lockstep.ensureSession`, `Lockstep.renew`, `Lockstep.withSession`: given handshakes in step.
- `Lockstep.logout`, `Lockstep.close`: without them.
- `Lockstep.run`: the operations under a session.
-/

namespace Freebox

open Attempt (InStep inStep_pure inStep_fail inStep_lift inStep_update)

namespace Lockstep

variable {good : Peer → List Request → Prop} {R : State → State → Prop} (steps : Lockstep good R)

/-- Sessions of two clients in step are there together, and have the same token. -/
theorem sessions {s t : State} (steps : Lockstep good R) (related : R s t) :
    (s.client.session = none ∧ t.client.session = none) ∨
      ∃ session other, s.client.session = some session ∧ t.client.session = some other ∧
        session.token = other.token := by
  have token := steps.token related
  unfold Client.token? at token
  cases here : s.client.session with
  | none =>
    rw [here] at token
    have there : t.client.session = none := Option.map_eq_none_iff.mp token.symm
    exact Or.inl ⟨rfl, there⟩
  | some session =>
    rw [here, Option.map_some] at token
    obtain ⟨other, there, same⟩ := Option.map_eq_some_iff.mp token.symm
    exact Or.inr ⟨session, other, rfl, there, same.symm⟩

/-! ## Opening and renewing -/

theorem freshToken (opens : Paced good R Freebox.handshake) : Paced good R Freebox.freshToken := by
  unfold Freebox.freshToken
  exact opens.bind fun opened => inStep_pure opened.1

theorem login (opens : Paced good R Freebox.handshake) : Paced good R Freebox.login := by
  unfold Freebox.login
  exact opens.bind fun opened => inStep_pure opened.2

section
include steps

/-- Handshakes are in step if their negotiations are, and if two clients may open sessions under the same token. -/
theorem handshake (negotiates : Paced good R negotiate)
    (opened : ∀ s t token, R s t →
      R (s.withSession (some (Session.start token s.network.now Session.validity)))
        (t.withSession (some (Session.start token t.network.now Session.validity)))) :
    Paced good R Freebox.handshake := by
  unfold Freebox.handshake
  refine negotiates.outcome.bind fun result => ?_
  rcases result with (⟨e, cause⟩ | f) | ⟨token, permissions⟩
  case ok =>
    apply InStep.bind
    · exact inStep_update (fun s t => opened s t token) fun _ kept => kept
    · exact fun _ => inStep_pure _
  case error.box =>
    apply InStep.bind
    · exact inStep_update (fun s t => steps.dropped) fun _ kept => kept
    · exact fun _ => inStep_fail _
  case error.fault => exact inStep_fail _

theorem ensureSession (opens : Paced good R Freebox.handshake) :
    Paced good R Freebox.ensureSession := by
  unfold Freebox.ensureSession
  refine InStep.bind_state steps.refl fun s t related => ?_
  rcases steps.sessions related with ⟨here, there⟩ | ⟨session, other, here, there, same⟩
  · rw [here, there]
    exact freshToken opens
  · rw [here, there]
    dsimp only
    rw [same]
    exact inStep_pure other.token

theorem renew (opens : Paced good R Freebox.handshake) (stale : Text) :
    Paced good R (Freebox.renew stale) := by
  unfold Freebox.renew
  refine InStep.bind_state steps.refl fun s t related => ?_
  rw [steps.token related]
  cases t.client.token?.filter (· != stale) with
  | some token => exact inStep_pure token
  | none => exact freshToken opens

/-- **An operation under a session** is in step if its attempts and the handshakes are. -/
theorem withSession {α : Type} {operation : Text → Attempt State α} (opens : Paced good R Freebox.handshake)
    (attempts : ∀ token, Paced good R (operation token)) :
    Paced good R (Freebox.withSession operation) := by
  unfold Freebox.withSession
  refine (steps.ensureSession opens).bind fun token => (attempts token).outcome.bind fun result => ?_
  rcases result with (⟨e, cause⟩ | f) | v
  case ok => exact inStep_pure v
  case error.fault => exact inStep_fail _
  case error.box =>
    dsimp only
    by_cases rejected : e.isAuthRequired = true
    · -- both were rejected, so both renew
      rw [if_pos rejected]
      refine (steps.renew opens token).outcome.bind fun renewed => ?_
      rcases renewed with (⟨r, behind⟩ | f) | fresh
      case ok => exact attempts fresh
      case error.fault => exact inStep_fail _
      case error.box =>
        dsimp only
        by_cases missing : r.isConfiguration = true
        · rw [if_pos missing]
          exact inStep_fail _
        · rw [if_neg missing]
          exact inStep_fail _
    · rw [if_neg rejected]
      exact inStep_fail _

/-! ## Leaving -/

theorem logout : Paced good R Freebox.logout := by
  unfold Freebox.logout
  refine InStep.bind_state steps.refl fun s t related => ?_
  refine InStep.bind (inStep_update (fun s t => steps.dropped) fun _ kept => kept) fun _ => ?_
  rcases steps.sessions related with ⟨here, there⟩ | ⟨session, other, here, there, same⟩
  · rw [here, there]
    exact inStep_pure ()
  · rw [here, there]
    dsimp only
    rw [same]
    refine (steps.perform _ _ _ _).outcome.bind fun result => ?_
    rcases result with (⟨e, cause⟩ | f) | v
    · exact inStep_pure ()
    · exact inStep_fail _
    · exact inStep_pure ()

theorem close : Paced good R Freebox.close := by
  unfold Freebox.close
  refine steps.logout.bind fun _ => inStep_update (fun s t related => ?related) fun s => ?lasting
  case related =>
    have owns : s.client.ownsTransport = t.client.ownsTransport :=
      steps.seen (fun c => c.ownsTransport) (fun _ => rfl) related
    rw [owns]
    by_cases own : t.client.ownsTransport = true
    · rw [if_pos own, if_pos own]
      exact steps.did related .hangUp
    · rw [if_neg own, if_neg own]
      exact related
  case lasting =>
    by_cases own : s.client.ownsTransport = true
    · rw [if_pos own]
      exact steps.past (Asks.of_did .hangUp s)
    · rw [if_neg own]
      exact id

/-! ## Operations -/

theorem call (opens : Paced good R Freebox.handshake) (method : String) (path : Text) (authenticated : Bool)
    (parcel : Parcel) :
    Paced good R (Freebox.call method path authenticated parcel) := by
  unfold Freebox.call
  cases authenticated with
  | true => exact steps.withSession opens fun token => steps.perform _ _ _ _
  | false => exact steps.perform _ _ _ _

theorem operation (opens : Paced good R Freebox.handshake) (o : Operation) : Paced good R o.run := by
  unfold Operation.run
  exact (steps.call opens _ _ _ _).bind fun envelope => inStep_lift _

theorem getFile (opens : Paced good R Freebox.handshake) (path : String) :
    Paced good R (Freebox.getFile path) :=
  steps.withSession opens fun token => steps.openFile path token

theorem listen (opens : Paced good R Freebox.handshake) (events : List Resource.EventDescription) :
    Paced good R (Freebox.listen events) := by
  unfold Freebox.listen
  by_cases empty : events = []
  · rw [if_pos empty]
    exact inStep_fail _
  · rw [if_neg empty]
    exact steps.withSession opens fun token => steps.beginListening _ token

/-- Both clients have used up the same number of uploads. -/
theorem startUpload (opens : Paced good R Freebox.handshake) (start : Resource.UploadStart) :
    Paced good R (Freebox.startUpload start) := by
  unfold Freebox.startUpload
  refine InStep.bind_state steps.refl fun s t related => ?_
  rw [steps.uploads related]
  refine InStep.bind (inStep_update (fun s t related => steps.counted related _) fun _ kept => kept) fun _ => ?_
  exact steps.withSession opens fun token => steps.beginUpload start _ token

end

end Lockstep

end Freebox
