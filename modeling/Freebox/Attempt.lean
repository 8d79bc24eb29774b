import Freebox.Failure

/-!
# `Freebox.Attempt` — computations that may fail and keep their state

An attempt runs on a state and ends with a value or a failure. The state reached is kept in both cases: what was sent
before a failure stays sent.

## Contents
- `Attempt`, a monad: after a failure nothing more is run.
- `Attempt.outcome`: how an attempt ended, as a value.
- `Attempt.within`: an attempt on a part of the state. `Attempt.followedBy`: cleaning up.
-/

namespace Freebox

/-- A computation on a state that ends with a value or a failure. -/
def Attempt (σ α : Type) := σ → Except Failure α × σ

namespace Attempt

variable {σ τ α β : Type}

/-! ## Running in sequence -/

instance : Monad (Attempt σ) where
  pure v := fun s => (.ok v, s)
  bind a next := fun s =>
    match a s with
    | (.ok v, t) => next v t
    | (.error e, t) => (.error e, t)

@[simp] theorem pure_apply (v : α) (s : σ) : (pure v : Attempt σ α) s = (.ok v, s) := rfl

theorem bind_apply (a : Attempt σ α) (next : α → Attempt σ β) (s : σ) :
    (a >>= next) s = match a s with
      | (.ok v, t) => next v t
      | (.error e, t) => (.error e, t) := rfl

theorem bind_of_ok {a : Attempt σ α} {next : α → Attempt σ β} {s t : σ} {v : α} (h : a s = (.ok v, t)) :
    (a >>= next) s = next v t := by rw [bind_apply, h]

theorem bind_of_error {a : Attempt σ α} {next : α → Attempt σ β} {s t : σ} {e : Failure}
    (h : a s = (.error e, t)) : (a >>= next) s = (.error e, t) := by rw [bind_apply, h]

/-! ## Single steps -/

/-- Ends with a failure. -/
def fail (e : Failure) : Attempt σ α := fun s => (.error e, s)

/-- Ends as told, without touching the state. -/
def lift (r : Except Failure α) : Attempt σ α := fun s => (r, s)

/-- The state. -/
def state : Attempt σ σ := fun s => (.ok s, s)

/-- Changes the state. -/
def update (f : σ → σ) : Attempt σ Unit := fun s => (.ok (), f s)

/-- How an attempt ends, as a value. -/
def outcome (a : Attempt σ α) : Attempt σ (Except Failure α) := fun s => (.ok (a s).1, (a s).2)

/-- Runs an attempt on a part of the state. -/
def within (part : σ → τ) (put : τ → σ → σ) (a : Attempt τ α) : Attempt σ α :=
  fun s => ((a (part s)).1, put (a (part s)).2 s)

/-- Runs an attempt, and another one whatever comes of it. A failure of the last one counts. -/
def followedBy (a : Attempt σ α) (last : Attempt σ Unit) : Attempt σ α := do
  let result ← a.outcome
  last
  lift result

@[simp] theorem fail_apply (e : Failure) (s : σ) : (fail e : Attempt σ α) s = (.error e, s) := rfl

@[simp] theorem lift_apply (r : Except Failure α) (s : σ) : (lift r : Attempt σ α) s = (r, s) := rfl

@[simp] theorem state_apply (s : σ) : (state : Attempt σ σ) s = (.ok s, s) := rfl

@[simp] theorem update_apply (f : σ → σ) (s : σ) : (update f) s = (.ok (), f s) := rfl

@[simp] theorem outcome_apply (a : Attempt σ α) (s : σ) : outcome a s = (.ok (a s).1, (a s).2) := rfl

end Attempt

end Freebox
