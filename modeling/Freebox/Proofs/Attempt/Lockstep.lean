import Freebox.Attempt

/-!
# `Freebox.Proofs.Attempt.Lockstep` — two runs side by side

Two attempts are in step under a relation between states if, from related states, they bring the same and end in related
states. Whatever the relation leaves open has then no influence on what is brought. Attempts in sequence are in step if
each of them is; what is read from the state alone may differ between the two, as long as what comes of it does not.

Two runs may stay in step only as long as something does not happen. So there is a property of states that an attempt
may lose but never regain, and nothing is asked of runs that have lost it.

## Contents
- `InStep`, and how it follows the ways of putting attempts together.
- `InStep.bind_state`: attempts that look at the state first.
-/

namespace Freebox.Attempt

variable {σ α β : Type} {P : σ → Prop} {R : σ → σ → Prop}

/-- From related states two attempts bring the same and end in related states, provided that the first one ends in a
state with the property. A state without it never comes to one with it by the first attempt. -/
structure InStep (P : σ → Prop) (R : σ → σ → Prop) (a b : Attempt σ α) : Prop where
  lasting : ∀ s, P (a s).2 → P s
  along : ∀ s t, R s t → P (a s).2 → (a s).1 = (b t).1 ∧ R (a s).2 (b t).2

/-! ## Single steps -/

theorem inStep_pure (v : α) : InStep P R (pure v) (pure v) := ⟨fun _ kept => kept, fun _ _ related _ => ⟨rfl, related⟩⟩

theorem inStep_fail (e : Failure) : InStep P R (fail e : Attempt σ α) (fail e) :=
  ⟨fun _ kept => kept, fun _ _ related _ => ⟨rfl, related⟩⟩

theorem inStep_lift (r : Except Failure α) : InStep P R (lift r) (lift r) :=
  ⟨fun _ kept => kept, fun _ _ related _ => ⟨rfl, related⟩⟩

theorem inStep_update {f g : σ → σ} (h : ∀ s t, R s t → R (f s) (g t)) (lasting : ∀ s, P (f s) → P s) :
    InStep P R (update f) (update g) :=
  ⟨lasting, fun s t related _ => ⟨rfl, h s t related⟩⟩

/-! ## Putting attempts together -/

theorem InStep.outcome {a b : Attempt σ α} (h : InStep P R a b) : InStep P R a.outcome b.outcome where
  lasting := h.lasting
  along := by
    intro s t related kept
    obtain ⟨same, after⟩ := h.along s t related kept
    exact ⟨congrArg Except.ok same, after⟩

/-- What comes next is told the same on both sides. -/
theorem InStep.bind {a b : Attempt σ α} {next other : α → Attempt σ β} (h : InStep P R a b)
    (onward : ∀ v, InStep P R (next v) (other v)) : InStep P R (a >>= next) (b >>= other) where
  lasting := by
    intro s kept
    have first := h.lasting s
    rw [bind_apply] at kept
    rcases reached : a s with ⟨e | v, u⟩ <;> rw [reached] at kept first
    · exact first kept
    · exact first ((onward v).lasting u kept)
  along := by
    intro s t related kept
    rw [bind_apply] at kept
    rw [bind_apply, bind_apply]
    have step := h.along s t related
    rcases first : a s with ⟨result, u⟩
    rcases second : b t with ⟨result', v⟩
    rw [first] at kept
    rw [first, second] at step
    cases result with
    | ok value =>
      -- the property is there at the end, so it was there in between
      obtain ⟨same, after⟩ := step ((onward value).lasting u kept)
      obtain rfl : Except.ok value = result' := same
      exact (onward value).along u v after kept
    | error e =>
      obtain ⟨same, after⟩ := step kept
      obtain rfl : Except.error e = result' := same
      exact ⟨rfl, after⟩

/-- Each side may look at its own state, if it makes the same of it there. -/
theorem InStep.bind_state {next other : σ → Attempt σ β} (refl : ∀ s, R s s)
    (h : ∀ s t, R s t → InStep P R (next s) (other t)) : InStep P R (state >>= next) (state >>= other) where
  lasting := fun s kept => (h s s (refl s)).lasting s kept
  along := fun s t related kept => (h s t related).along s t related kept

end Freebox.Attempt
