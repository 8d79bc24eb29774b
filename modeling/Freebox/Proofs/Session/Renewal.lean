import Freebox.Proofs.Session.Authenticated
import Freebox.Proofs.Session.Handshake

/-!
# `Freebox.Proofs.Session.Renewal` — which failure is told, and which session remains

An operation under a session may fail at its opening, at its first attempt, at the renewal of its session, or at its
second attempt. A line for each of these says what the caller is told and which session is there afterwards.

## Contents
- `Failure.isRejection`, `Failure.unrenewed`: a rejected session, and what is told if it cannot be renewed.
- `ensureSession_apply`, `renew_apply`: the two places that a handshake is made from.
- `Ready`: a token to attempt an operation with.
- `pursue`, `withSession_of_ready`: an operation with a session, from its first attempt on.
- `pursue_kept`, `pursue_again`, `pursue_unrenewed`: how it goes on after a failure.
- `Unopened`, `withSession_ends`, `withSession_last`: a handshake fails, or an attempt is the last thing done.
- `renew_keeps`, `withSession_keeps`: what handshakes and attempts keep, renewals and operations keep.
- `withSession_tells`: the sorts of values and failures that operations end in.
- `Settles`, `run_settles`: what every operation tells and leaves behind.
-/

namespace Freebox

open Attempt (Keeps Ends ends_pure)

/-! ## Rejections -/

namespace Failure

/-- Whether a session was missing, expired or rejected. -/
def isRejection : Failure → Bool
  | .box e _ => e.isAuthRequired
  | .fault _ => false

/-- What is told of a rejection whose renewal fails: missing credentials and faults as they are, any other error of the
box as what stands behind the rejection. -/
def unrenewed (rejection : BoxError) : Failure → Failure
  | .box r behind => if r.isConfiguration then .box r behind else .box rejection (some r)
  | .fault f => .fault f

end Failure

/-! ## Opening and renewing -/

/-- The token of a session that is opened now. -/
def freshToken : Attempt State Text := do
  let (token, _) ← handshake
  return token

theorem freshToken_of_ok {s t : State} {token : Text} {permissions : Record}
    (h : handshake s = (.ok (token, permissions), t)) : freshToken s = (.ok token, t) := by
  unfold freshToken
  exact Attempt.bind_of_ok h

theorem freshToken_of_error {s t : State} {f : Failure} (h : handshake s = (.error f, t)) :
    freshToken s = (.error f, t) := by
  unfold freshToken
  exact Attempt.bind_of_error h

/-- A session that is there is taken, however old it is. -/
theorem ensureSession_apply (s : State) :
    ensureSession s = match s.client.session with
      | some session => (.ok session.token, s)
      | none => freshToken s := by
  unfold ensureSession
  rw [Attempt.bind_of_ok (Attempt.state_apply s)]
  cases s.client.session <;> rfl

/-- A token and a state to attempt an operation with: of the session that is there, or of one that is opened. -/
inductive Ready (s : State) : Text → State → Prop
  | cached {session : Session} (there : s.client.session = some session) : Ready s session.token s
  | opened {token : Text} {permissions : Record} {t : State} (none_there : s.client.session = none)
      (h : handshake s = (.ok (token, permissions), t)) : Ready s token t

namespace Ready

variable {s t : State} {token : Text}

theorem ensured (ready : Ready s token t) : ensureSession s = (.ok token, t) := by
  cases ready with
  | cached there => rw [ensureSession_apply, there]
  | opened none_there h =>
    rw [ensureSession_apply, none_there]
    exact freshToken_of_ok h

/-- The token is that of the session. -/
theorem current (ready : Ready s token t) : t.client.token? = some token := by
  cases ready with
  | cached there => rw [Client.token?, there, Option.map_some]
  | opened none_there h => exact handshake_opens h

end Ready

/-- A token that is still that of the session is renewed; another one that is there is taken instead. -/
theorem renew_apply (stale : Text) (s : State) :
    renew stale s = match s.client.token?.filter (· != stale) with
      | some token => (.ok token, s)
      | none => freshToken s := by
  unfold renew
  rw [Attempt.bind_of_ok (Attempt.state_apply s)]
  cases s.client.token?.filter (· != stale) <;> rfl

theorem renew_current {s : State} {token : Text} (h : s.client.token? = some token) :
    renew token s = freshToken s := by
  rw [renew_apply, h]
  simp [Option.filter]

/-! ## From the first attempt on -/

section
variable {α : Type} {operation : Text → Attempt State α} {s t u w : State} {token fresh : Text}

/-- Runs an operation under the token of the session, and once more after a renewal if that token is rejected. -/
def pursue (operation : Text → Attempt State α) (token : Text) : Attempt State α := do
  match ← (operation token).outcome with
  | .ok v => return v
  | .error (.box e cause) =>
    if e.isAuthRequired then
      match ← (renew token).outcome with
      | .ok fresh => operation fresh
      | .error (.box r behind) =>
        if r.isConfiguration then .fail (.box r behind) else .fail (.box e (some r))
      | .error (.fault f) => .fail (.fault f)
    else .fail (.box e cause)
  | .error (.fault f) => .fail (.fault f)

/-- An operation with a session has a token first. -/
theorem withSession_eq (operation : Text → Attempt State α) :
    withSession operation = (ensureSession >>= pursue operation) := rfl

theorem withSession_of_ready (ready : Ready s token t) : withSession operation s = pursue operation token t := by
  rw [withSession_eq]
  exact Attempt.bind_of_ok ready.ensured

theorem withSession_of_unopened {f : Failure} (none_there : s.client.session = none)
    (h : handshake s = (.error f, t)) : withSession operation s = (.error f, t) := by
  have ensured : ensureSession s = (.error f, t) := by
    rw [ensureSession_apply, none_there]
    exact freshToken_of_error h
  rw [withSession_eq]
  exact Attempt.bind_of_error ensured

/-- The first attempt and what follows from how it ends. -/
theorem pursue_apply (operation : Text → Attempt State α) (token : Text) (t : State) :
    pursue operation token t = match operation token t with
      | (.ok v, u) => (.ok v, u)
      | (.error (.fault f), u) => (.error (.fault f), u)
      | (.error (.box e cause), u) =>
        if e.isAuthRequired then
          match renew token u with
          | (.ok fresh, w) => operation fresh w
          | (.error g, w) => (.error (g.unrenewed e), w)
        else (.error (.box e cause), u) := by
  unfold pursue
  rw [Attempt.bind_of_ok (Attempt.outcome_apply _ t)]
  rcases operation token t with ⟨failure | v, u⟩
  · cases failure with
    | fault f => rfl
    | box e cause =>
      cases rejected : e.isAuthRequired with
      | false => simp [rejected]
      | true =>
        simp only [rejected, if_true]
        rw [Attempt.bind_of_ok (Attempt.outcome_apply _ u)]
        rcases renew token u with ⟨(⟨r, behind⟩ | g) | fresh, w⟩
        · cases missing : r.isConfiguration <;> simp [Failure.unrenewed, missing]
        · rfl
        · rfl
  · rfl

theorem pursue_ok {v : α} (h : operation token t = (.ok v, u)) : pursue operation token t = (.ok v, u) := by
  rw [pursue_apply, h]

/-- A failure that is no rejection is told as it is. -/
theorem pursue_kept {f : Failure} (h : operation token t = (.error f, u)) (other : f.isRejection = false) :
    pursue operation token t = (.error f, u) := by
  rw [pursue_apply, h]
  cases f with
  | fault f => rfl
  | box e cause =>
    have unrejected : e.isAuthRequired = false := other
    simp [unrejected]

/-- After a rejection and a renewal there is a second attempt, and no more. -/
theorem pursue_again {f : Failure} {permissions : Record} (h : operation token t = (.error f, u))
    (rejected : f.isRejection = true) (current : u.client.token? = some token)
    (renewed : handshake u = (.ok (fresh, permissions), w)) : pursue operation token t = operation fresh w := by
  rw [pursue_apply, h]
  cases f with
  | fault f => simp [Failure.isRejection] at rejected
  | box e cause =>
    have rejection : e.isAuthRequired = true := rejected
    simp only [rejection, if_true]
    rw [renew_current current, freshToken_of_ok renewed]

/-- After a rejection and a renewal that fails there is no second attempt. -/
theorem pursue_unrenewed {e : BoxError} {cause : Option BoxError} {g : Failure}
    (h : operation token t = (.error (.box e cause), u)) (rejected : e.isAuthRequired = true)
    (current : u.client.token? = some token) (failed : handshake u = (.error g, w)) :
    pursue operation token t = (.error (g.unrenewed e), w) := by
  rw [pursue_apply, h]
  simp only [rejected, if_true]
  rw [renew_current current, freshToken_of_error failed]

end

/-! ## The last attempt -/

section
variable {α : Type} {operation : Text → Attempt State α} {P : State → Prop}

theorem freshToken_state (s : State) : (freshToken s).2 = (handshake s).2 := Attempt.map_state handshake Prod.fst s

theorem renew_invariant (handshakes : ∀ s, P s → P (handshake s).2) (stale : Text) {s : State} (start : P s) :
    P (renew stale s).2 := by
  rw [renew_apply]
  cases s.client.token?.filter (· != stale) with
  | some token => exact start
  | none =>
    show P (freshToken s).2
    rw [freshToken_state]
    exact handshakes s start

/-- No attempt is the last thing done: a handshake failed from a state of the invariant. What is told is its failure or
the rejection before it; a fault is told as it is. -/
def Unopened (P : State → Prop) (told : Failure) (t : State) : Prop :=
  ∃ u f, P u ∧ handshake u = (.error f, t) ∧ ∀ g, told = .fault g → f = .fault g

theorem renew_unopened {stale : Text} {s t : State} {f : Failure} (start : P s) (failed : renew stale s = (.error f, t))
    (e : BoxError) : Unopened P (f.unrenewed e) t := by
  rw [renew_apply] at failed
  cases there : s.client.token?.filter (· != stale) with
  | some token =>
    rw [there] at failed
    cases failed
  | none =>
    rw [there] at failed
    rcases opened : handshake s with ⟨g | ⟨token, permissions⟩, u⟩
    · obtain ⟨rfl, rfl⟩ : g = f ∧ u = t := by simpa using (freshToken_of_error opened).symm.trans failed
      refine ⟨s, g, start, opened, fun x told => ?_⟩
      cases g with
      | fault y => exact told
      | box r behind =>
        unfold Failure.unrenewed at told
        dsimp only at told
        split at told <;> cases told
    · have fresh := (freshToken_of_ok opened).symm.trans failed
      simp at fresh

/-- From the first attempt on, either a renewal fails, or an attempt is the last thing done, and what it brings is told.
An invariant of handshakes and of attempts that fail with an error of the box holds up to there. -/
theorem pursue_ends (handshakes : ∀ s, P s → P (handshake s).2)
    (refusals : ∀ token s e cause t, P s → operation token s = (.error (.box e cause), t) → P t) (token : Text)
    {t : State} (start : P t) :
    (∃ f u, pursue operation token t = (.error f, u) ∧ Unopened P f u) ∨
      ∃ last u, P u ∧ pursue operation token t = operation last u := by
  rw [pursue_apply]
  rcases h : operation token t with ⟨(⟨e, cause⟩ | f) | v, u⟩
  · have refused : P u := refusals token t e cause u start h
    cases rejected : e.isAuthRequired with
    | false => exact Or.inr ⟨token, t, start, by simp [rejected, h]⟩
    | true =>
      have renewed : P (renew token u).2 := renew_invariant handshakes token refused
      rcases hr : renew token u with ⟨g | fresh, w⟩ <;> rw [hr] at renewed
      · exact Or.inl ⟨g.unrenewed e, w, by simp [rejected, hr], renew_unopened refused hr e⟩
      · exact Or.inr ⟨fresh, w, renewed, by simp [rejected, hr]⟩
  · exact Or.inr ⟨token, t, start, h.symm⟩
  · exact Or.inr ⟨token, t, start, h.symm⟩

/-- **How an operation ends** under a session: a handshake fails, or it does at its end what an attempt does; the
invariant holds where that handshake or that attempt starts. -/
theorem withSession_ends (handshakes : ∀ s, P s → P (handshake s).2)
    (refusals : ∀ token s e cause t, P s → operation token s = (.error (.box e cause), t) → P t)
    {s : State} (start : P s) :
    (∃ f t, withSession operation s = (.error f, t) ∧ Unopened P f t) ∨
      ∃ last t, P t ∧ withSession operation s = operation last t := by
  cases hs : s.client.session with
  | some session =>
    have ready : Ready s session.token s := .cached hs
    rw [withSession_of_ready ready]
    exact pursue_ends handshakes refusals session.token start
  | none =>
    have opening : P (handshake s).2 := handshakes s start
    rcases opened : handshake s with ⟨f | ⟨token, permissions⟩, t⟩ <;> rw [opened] at opening
    · exact Or.inl ⟨f, t, withSession_of_unopened hs opened, s, f, start, opened, fun _ => id⟩
    · have ready : Ready s token t := .opened hs opened
      rw [withSession_of_ready ready]
      exact pursue_ends handshakes refusals token opening

/-- **The last attempt.** An operation under a session either fails without an attempt at its end, or does at its end
what an attempt does; the invariant holds where it fails, or where that attempt starts. -/
theorem withSession_last (handshakes : ∀ s, P s → P (handshake s).2)
    (refusals : ∀ token s e cause t, P s → operation token s = (.error (.box e cause), t) → P t)
    {s : State} (start : P s) :
    (∃ f t, withSession operation s = (.error f, t) ∧ P t) ∨
      ∃ last t, P t ∧ withSession operation s = operation last t := by
  rcases withSession_ends handshakes refusals start with ⟨f, t, told, u, g, here, failed, -⟩ | last
  · have kept := handshakes u here
    rw [failed] at kept
    exact Or.inl ⟨f, t, told, kept⟩
  · exact Or.inr last

/-- A renewal keeps what handshakes keep. -/
theorem renew_keeps {R : State → State → Prop} [Std.Refl R] [IsTrans State R] (opens : Keeps R handshake)
    (stale : Text) : Keeps R (renew stale) := by
  intro s
  have onward : ∀ t, R s t → R s (handshake t).2 := fun t kept => trans_of R kept (opens t)
  exact renew_invariant onward stale (refl_of R s)

/-- An operation under a session keeps what handshakes and all its attempts keep. -/
theorem withSession_keeps {R : State → State → Prop} [Std.Refl R] [IsTrans State R] (opens : Keeps R handshake)
    (attempts : ∀ token, Keeps R (operation token)) : Keeps R (withSession operation) := by
  intro s
  have onward : ∀ t, R s t → R s (handshake t).2 := fun t kept => trans_of R kept (opens t)
  have refusals : ∀ token t e cause u, R s t → operation token t = (.error (.box e cause), u) → R s u := by
    intro token t e cause u kept told
    have attempt := attempts token t
    rw [told] at attempt
    exact trans_of R kept attempt
  rcases withSession_last onward refusals (refl_of R s) with ⟨f, t, told, kept⟩ | ⟨token, t, kept, told⟩
  · rw [told]
    exact kept
  · rw [told]
    exact trans_of R kept (attempts token t)

/-! ## How operations end -/

variable {good : α → Prop} {bad : Failure → Prop}

theorem freshToken_ends (opens : Ends P (fun _ => True) bad handshake) : Ends P (fun _ => True) bad freshToken :=
  opens.bind fun _ _ => ends_pure trivial

theorem ensureSession_ends (opens : Ends P (fun _ => True) bad handshake) :
    Ends P (fun _ => True) bad ensureSession := by
  intro s start
  rw [ensureSession_apply]
  cases s.client.session with
  | some session => exact ⟨trivial, start⟩
  | none => exact freshToken_ends opens s start

theorem renew_ends (opens : Ends P (fun _ => True) bad handshake) (stale : Text) :
    Ends P (fun _ => True) bad (renew stale) := by
  intro s start
  rw [renew_apply]
  cases s.client.token?.filter (· != stale) with
  | some token => exact ⟨trivial, start⟩
  | none => exact freshToken_ends opens s start

/-- **An operation under a session** ends in what its attempts and its handshakes end in, if a rejection with another
failure behind it is a failure of the same sort. -/
theorem withSession_tells (opens : Ends P (fun _ => True) bad handshake)
    (attempts : ∀ token, Ends P good bad (operation token))
    (told : ∀ e cause f, bad (.box e cause) → bad f → bad (f.unrenewed e)) :
    Ends P good bad (withSession operation) := by
  rw [withSession_eq]
  refine (ensureSession_ends opens).bind fun token _ t start => ?_
  obtain ⟨first, reached⟩ := attempts token t start
  rw [pursue_apply]
  rcases attempted : operation token t with ⟨(⟨e, cause⟩ | f) | v, u⟩ <;> rw [attempted] at first reached
  · cases rejected : e.isAuthRequired with
    | false => simpa [rejected] using And.intro first reached
    | true =>
      -- the renewal fails, or there is a second attempt, which is the last one
      obtain ⟨renewal, onward⟩ := renew_ends opens token u reached
      simp only [rejected, if_true]
      rcases renewed : renew token u with ⟨g | fresh, w⟩ <;> rw [renewed] at renewal onward
      · exact ⟨told e cause g first renewal, onward⟩
      · exact attempts fresh w onward
  · exact ⟨first, reached⟩
  · exact ⟨first, reached⟩

end

/-! ## What is told, and what remains -/

/-- What an operation tells and leaves behind, by how its opening, its attempts and its renewal end. -/
structure Settles {α : Type} (operation : Text → Attempt State α) (s : State) (told : Except Failure α × State) :
    Prop where
  /-- A session that cannot be opened: its error is told, and there is no session. -/
  unopened : ∀ e cause t, s.client.session = none → handshake s = (.error (.box e cause), t) →
    told = (.error (.box e cause), t) ∧ t.client.session = none
  /-- A first attempt that succeeds: its value is told, and its session is still there. -/
  returned : ∀ token t v u, Ready s token t → operation token t = (.ok v, u) →
    told = (.ok v, u) ∧ u.client.session = t.client.session ∧ u.client.token? = some token
  /-- A first attempt that fails otherwise than by a rejection: its failure is told, and its session is still there. -/
  kept : ∀ token t f u, Ready s token t → operation token t = (.error f, u) → f.isRejection = false →
    told = (.error f, u) ∧ u.client.session = t.client.session ∧ u.client.token? = some token
  /-- A rejection, and no credentials to renew the session with: these are told to be missing, and there is none. -/
  unconfigured : ∀ token t e cause u c behind w, Ready s token t →
    operation token t = (.error (.box e cause), u) → e.isAuthRequired = true →
    handshake u = (.error (.box (.configuration c) behind), w) →
    told = (.error (.box (.configuration c) behind), w) ∧ w.client.session = none
  /-- A rejection, and any other error at the renewal: the rejection is told, with that error behind it. -/
  unrenewed : ∀ token t e cause u r behind w, Ready s token t →
    operation token t = (.error (.box e cause), u) → e.isAuthRequired = true →
    handshake u = (.error (.box r behind), w) → r.isConfiguration = false →
    told = (.error (.box e (some r)), w) ∧ w.client.session = none
  /-- A rejection and a renewal: what the second attempt brings is told, whatever it is, and the session is the renewed
  one. -/
  again : ∀ token t f u fresh permissions w result x, Ready s token t →
    operation token t = (.error f, u) → f.isRejection = true → handshake u = (.ok (fresh, permissions), w) →
    operation fresh w = (result, x) →
    told = (result, x) ∧ x.client.session = w.client.session ∧ x.client.token? = some fresh

/-- An operation whose attempts leave the client as it is settles like this. -/
theorem withSession_settles {α : Type} {operation : Text → Attempt State α}
    (keeps : ∀ token, Attempt.Keeps (fun s t => t.client = s.client) (operation token)) (s : State) :
    Settles operation s (withSession operation s) := by
  -- after an attempt under the token of the session, that session is still there
  have after {token : Text} {t u : State} {result : Except Failure α} (current : t.client.token? = some token)
      (h : operation token t = (result, u)) :
      u.client.session = t.client.session ∧ u.client.token? = some token := by
    have same : u.client = t.client := by simpa only [h] using keeps token t
    rw [same]
    exact ⟨rfl, current⟩
  constructor
  case unopened =>
    intro e cause t none_there h
    exact ⟨withSession_of_unopened none_there h, handshake_drops h⟩
  case returned =>
    intro token t v u ready h
    rw [withSession_of_ready ready]
    exact ⟨pursue_ok h, after ready.current h⟩
  case kept =>
    intro token t f u ready h other
    rw [withSession_of_ready ready]
    exact ⟨pursue_kept h other, after ready.current h⟩
  case unconfigured =>
    intro token t e cause u c behind w ready h rejected failed
    rw [withSession_of_ready ready]
    have current := (after ready.current h).2
    exact ⟨pursue_unrenewed h rejected current failed, handshake_drops failed⟩
  case unrenewed =>
    intro token t e cause u r behind w ready h rejected failed other
    have current := (after ready.current h).2
    rw [withSession_of_ready ready, pursue_unrenewed h rejected current failed]
    simp only [Failure.unrenewed, other]
    exact ⟨rfl, handshake_drops failed⟩
  case again =>
    intro token t f u fresh permissions w result x ready h rejected renewed second
    have current := (after ready.current h).2
    rw [withSession_of_ready ready, pursue_again h rejected current renewed]
    exact ⟨second, after (handshake_opens renewed) second⟩

/-- **Which failure is told and which session remains**, for every operation under a session, from every state and
against every other side. -/
theorem run_settles (a : Authenticated) (s : State) :
    Settles (a.attempt (s.client.uploads + 1)) (a.begun s) (a.run s) := by
  rw [Authenticated.run_apply]
  exact withSession_settles (fun token t => (a.attempt_asks _ token t).client) (a.begun s)

end Freebox
