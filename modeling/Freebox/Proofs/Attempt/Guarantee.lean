import Freebox.Attempt
import Mathlib.Order.Defs.Unbundled

/-!
# `Freebox.Proofs.Attempt.Guarantee` — what attempts keep

A guarantee is a relation between the state before an attempt and the state after it, however the attempt ends. A
preorder is kept by attempts in sequence if each of them keeps it, so a property of a long attempt comes down to its
single steps.

## Contents
- `Keeps`, and how it follows the ways of putting attempts together.
- `bind_lift`, `map_apply`, `map_state`: reading the result of an attempt leaves its state alone.
- `value_of_mapError`, `error_of_mapError`: results whose failures are put into another form.
- `ok_of_toOption`, `failed_of_decide`: the value or the failure that an attempt ends in, by evaluation.
- `EndsIn`, `Yields`, `FailsIn`: results that are a value of one sort or a failure of another.
- `Ends`: attempts whose results are, under an invariant of their states.
-/

namespace Freebox.Attempt

variable {σ τ α β : Type} {R : σ → σ → Prop}

/-- However an attempt ends, the states before and after it are related. -/
def Keeps (R : σ → σ → Prop) (a : Attempt σ α) : Prop := ∀ s, R s (a s).2

/-! ## Single steps -/

section
variable [Std.Refl R]

theorem keeps_pure (v : α) : Keeps R (pure v : Attempt σ α) := fun s => refl_of R s
theorem keeps_fail (e : Failure) : Keeps R (fail e : Attempt σ α) := fun s => refl_of R s
theorem keeps_lift (r : Except Failure α) : Keeps R (lift r) := fun s => refl_of R s
theorem keeps_state : Keeps R (state : Attempt σ σ) := fun s => refl_of R s

end

theorem keeps_update {f : σ → σ} (h : ∀ s, R s (f s)) : Keeps R (update f) := h

/-! ## Putting attempts together -/

theorem Keeps.outcome {a : Attempt σ α} (h : Keeps R a) : Keeps R a.outcome := h

/-- What is done after a failure is nothing, so the first part alone has to account for it. -/
theorem Keeps.bind [IsTrans σ R] {a : Attempt σ α} {next : α → Attempt σ β} (ha : Keeps R a)
    (hn : ∀ v, Keeps R (next v)) : Keeps R (a >>= next) := by
  intro s
  have first : R s (a s).2 := ha s
  rw [bind_apply]
  cases h : a s with
  | mk result t =>
    rw [h] at first
    cases result with
    | ok v => exact trans_of R first (hn v t)
    | error e => exact first

/-- What comes after a first part keeps a relation from where the first part ends. -/
theorem Keeps.bind_tail [Std.Refl R] {next : α → Attempt σ β} (hn : ∀ v, Keeps R (next v)) (a : Attempt σ α)
    (s : σ) : R (a s).2 ((a >>= next) s).2 := by
  rw [bind_apply]
  cases h : a s with
  | mk result t =>
    cases result with
    | ok v => exact hn v t
    | error e => exact refl_of R t

/-! ## Reading results -/

/-- A result that is read further keeps the state that it was reached in. -/
theorem bind_lift (a : Attempt σ α) (f : α → Except Failure β) (s : σ) :
    (a >>= fun v => lift (f v)) s = ((a s).1.bind f, (a s).2) := by
  rw [bind_apply]
  cases h : a s with
  | mk result t => cases result <;> rfl

/-- Attempts in a row may be taken together from the front. -/
theorem bind_assoc {γ : Type} (a : Attempt σ α) (f : α → Attempt σ β) (g : β → Attempt σ γ) :
    (a >>= fun v => f v >>= g) = ((a >>= f) >>= g) := by
  funext s
  show (a >>= fun v => f v >>= g) s = ((a >>= f) >>= g) s
  rw [bind_apply, bind_apply, bind_apply]
  cases h : a s with
  | mk result t => cases result <;> rfl

/-- A result that is put into another form keeps the state that it was reached in. -/
theorem map_apply (a : Attempt σ α) (f : α → β) (s : σ) :
    (a >>= fun v => pure (f v) : Attempt σ β) s = ((a s).1.map f, (a s).2) := by
  rw [bind_apply]
  cases h : a s with
  | mk result t => cases result <;> rfl

theorem map_state (a : Attempt σ α) (f : α → β) (s : σ) :
    ((a >>= fun v => pure (f v) : Attempt σ β) s).2 = (a s).2 := by rw [map_apply]

theorem value_of_mapError {ε δ : Type} {x : Except ε α} {form : ε → δ} {v : α} (h : x.mapError form = .ok v) :
    x = .ok v := by
  cases x with
  | ok w => exact congrArg Except.ok (Except.ok.inj h)
  | error e => cases h

theorem error_of_mapError {ε δ : Type} {x : Except ε α} {form : ε → δ} {d : δ} (h : x.mapError form = .error d) :
    ∃ e, x = .error e ∧ form e = d := by
  cases x with
  | ok w => cases h
  | error e => exact ⟨e, rfl, Except.error.inj h⟩

/-- Values can be compared, whatever the failure would have been. -/
theorem ok_of_toOption {ε : Type} {result : Except ε α} {v : α} (h : result.toOption = some v) : result = .ok v := by
  cases result with
  | ok w => rw [Option.some.inj h]
  | error e => cases h

/-- Failures can be compared, whatever the value would have been. -/
theorem failed_of_decide {ε : Type} [DecidableEq ε] {result : Except ε α} {f : ε}
    (h : (match result with | .error g => decide (g = f) | .ok _ => false) = true) : result = .error f := by
  cases result with
  | ok v => cases h
  | error g => rw [of_decide_eq_true h]

end Freebox.Attempt

namespace Freebox

/-! ## Ways to end -/

section
variable {ε δ α β : Type} {good : α → Prop} {bad : ε → Prop} {x : Except ε α}

/-- A result is a value of one sort or a failure of another. -/
def EndsIn (good : α → Prop) (bad : ε → Prop) : Except ε α → Prop
  | .ok v => good v
  | .error e => bad e

/-- If a result is a value, it is one of some sort. -/
abbrev Yields (good : α → Prop) : Except ε α → Prop := EndsIn good fun _ => True

namespace EndsIn

theorem ok {v : α} (h : good v) : EndsIn good bad (.ok v) := h

theorem error {e : ε} (h : bad e) : EndsIn good bad (.error e) := h

/-- Every result is a value or a failure. -/
theorem any : EndsIn (fun _ => True) (fun _ => True) x := by cases x <;> trivial

theorem value {v : α} (h : EndsIn good bad x) (told : x = .ok v) : good v := by rwa [told] at h

theorem failure {e : ε} (h : EndsIn good bad x) (told : x = .error e) : bad e := by rwa [told] at h

theorem imp {later : α → Prop} {worse : ε → Prop} (h : EndsIn good bad x) (value : ∀ v, good v → later v)
    (failure : ∀ e, bad e → worse e) : EndsIn later worse x := by
  cases x with
  | ok v => exact value v h
  | error e => exact failure e h

theorem bind {later : β → Prop} {next : α → Except ε β} (h : EndsIn good bad x)
    (onward : ∀ v, good v → EndsIn later bad (next v)) : EndsIn later bad (x >>= next) := by
  cases x with
  | ok v => exact onward v h
  | error e => exact h

theorem map {later : β → Prop} {f : α → β} (h : EndsIn good bad x) (form : ∀ v, good v → later (f v)) :
    EndsIn later bad (x.map f) := by
  cases x with
  | ok v => exact form v h
  | error e => exact h

theorem mapError {worse : δ → Prop} {f : ε → δ} (h : EndsIn good bad x) (form : ∀ e, bad e → worse (f e)) :
    EndsIn good worse (x.mapError f) := by
  cases x with
  | ok v => exact h
  | error e => exact form e h

end EndsIn

/-- If a result is a failure, it is one of some sort. -/
abbrev FailsIn (bad : ε → Prop) : Except ε α → Prop := EndsIn (fun _ => True) bad

namespace FailsIn

theorem ok (v : α) : FailsIn bad (.ok v : Except ε α) := trivial

theorem error {e : ε} (h : bad e) : FailsIn bad (.error e : Except ε α) := h

theorem bind {next : α → Except ε β} (h : FailsIn bad x) (later : ∀ v, FailsIn bad (next v)) :
    FailsIn bad (x >>= next) :=
  EndsIn.bind h fun v _ => later v

theorem map (h : FailsIn bad x) (f : α → β) : FailsIn bad (x.map f) := EndsIn.map h fun _ _ => trivial

end FailsIn

end

/-! ## Attempts and how they end -/

namespace Attempt

variable {σ α β : Type} {P : σ → Prop} {good : α → Prop} {bad : Failure → Prop}

/-- From the states of an invariant, an attempt ends in a value of one sort or a failure of another, and in a state of
the invariant. -/
def Ends (P : σ → Prop) (good : α → Prop) (bad : Failure → Prop) (a : Attempt σ α) : Prop :=
  ∀ s, P s → EndsIn good bad (a s).1 ∧ P (a s).2

theorem ends_pure {v : α} (h : good v) : Ends P good bad (pure v) := fun _ start => ⟨h, start⟩

theorem ends_fail {e : Failure} (h : bad e) : Ends P good bad (fail e : Attempt σ α) := fun _ start => ⟨h, start⟩

theorem ends_state : Ends P P bad (state : Attempt σ σ) := fun _ start => ⟨start, start⟩

theorem ends_update {f : σ → σ} (h : ∀ s, P s → P (f s)) : Ends P (fun _ => True) bad (update f) :=
  fun s start => ⟨trivial, h s start⟩

theorem ends_lift {x : Except Failure α} (h : EndsIn good bad x) : Ends P good bad (lift x) := fun _ start => ⟨h, start⟩

/-- How an attempt ended is a value that says so. -/
theorem Ends.outcome {a : Attempt σ α} (h : Ends P good bad a) : Ends P (EndsIn good bad) bad a.outcome := h

/-- What follows upon values of one sort has to end in the same sort of failure. -/
theorem Ends.bind {later : β → Prop} {a : Attempt σ α} {next : α → Attempt σ β} (h : Ends P good bad a)
    (onward : ∀ v, good v → Ends P later bad (next v)) : Ends P later bad (a >>= next) := by
  intro s start
  obtain ⟨first, reached⟩ := h s start
  rw [bind_apply]
  rcases told : a s with ⟨e | v, t⟩ <;> rw [told] at first reached
  · exact ⟨first, reached⟩
  · exact onward v first t reached

end Attempt

end Freebox
