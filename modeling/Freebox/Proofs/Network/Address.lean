import Freebox.Authorization
import Freebox.Discovery

/-!
# `Freebox.Proofs.Network.Address` — addresses open to anybody

Logging in, registering and the description of a box are open to anybody, so they are asked for without a token. All
other resources live at other addresses, told apart by the letters of their paths.

## Contents
- `LoginPath`, `Text.Elsewhere`: the paths of logging in, and paths that are not among them.
- `Client.url_inj`, `Client.url_ne_description`: different resources have different addresses.
- `Client.Open`, `Client.not_open`: the addresses open to anybody.
-/

namespace Freebox

/-! ## Addresses open to anybody -/

/-- The paths of logging in and of registering. To leave is not among them, as it takes the token. -/
inductive LoginPath : Text → Prop
  | challenge : LoginPath "login"
  | exchange : LoginPath "login/session"
  | registration : LoginPath "login/authorize"
  | tracking (id : Text) : LoginPath ("login/authorize/" ++ id)

/-- A path that starts by two letters other than those of logging in. -/
def Text.Elsewhere (path : Text) : Prop :=
  2 ≤ path.letters.length ∧ path.letters.take 2 ≠ [.char 'l', .char 'o']

instance (path : Text) : Decidable path.Elsewhere := by unfold Text.Elsewhere; infer_instance

namespace Text.Elsewhere

/-- What follows does not matter. -/
theorem append {path : Text} (h : path.Elsewhere) (rest : Text) : (path ++ rest).Elsewhere := by
  obtain ⟨two, other⟩ := h
  show 2 ≤ (path.letters ++ rest.letters).length ∧ (path.letters ++ rest.letters).take 2 ≠ _
  rw [List.take_append_of_le_length two, List.length_append]
  exact ⟨by omega, other⟩

theorem string {path : String} (h : (path : Text).Elsewhere) (rest : String) :
    ((path ++ rest : String) : Text).Elsewhere := by
  have apart : ((path ++ rest : String) : Text) = (path : Text) ++ (rest : Text) := by
    show Text.mk _ = Text.mk _
    rw [String.toList_append, List.map_append]
    rfl
  rw [apart]
  exact h.append rest

theorem not_login {path : Text} (h : path.Elsewhere) : ¬ LoginPath path := by
  rintro (_ | _ | _ | id)
  · exact absurd h (by decide)
  · exact absurd h (by decide)
  · exact absurd h (by decide)
  · exact h.2 rfl

end Text.Elsewhere

/-- The paths of tracking start unlike the other paths that start by the same word. -/
theorem tracking_ne {path : Text} (other : path.letters.take 7 ≠ ("login/authorize/" : Text).letters.take 7)
    (id : Text) : "login/authorize/" ++ id ≠ path := by
  rintro rfl
  exact other rfl

theorem not_loginPath_logout : ¬ LoginPath "login/logout" := by
  intro login
  generalize same : ("login/logout" : Text) = path at login
  cases login with
  | challenge | exchange | registration => exact absurd same (by decide)
  | tracking id => exact tracking_ne (by decide) id same.symm

namespace Client

variable (c : Client)

/-- The addresses that are asked without a token: those of logging in and registering, and that of the description. -/
def Open (url : Text) : Prop := (∃ path, LoginPath path ∧ url = c.url path) ∨ url = c.describeRequest.url

theorem url_letters (path : Text) :
    (c.url path).letters
      = c.endpoint.toList.map .char ++ ('/' :: 'a' :: 'p' :: 'i' :: '/' :: c.version.toList ++ ['/']).map .char
        ++ path.letters := by
  show ((Endpoint.base c.endpoint c.version).toList.map Letter.char ++ "/".toList.map Letter.char) ++ path.letters = _
  have solidus : "/".toList = ['/'] := rfl
  have api : "/api/".toList = ['/', 'a', 'p', 'i', '/'] := rfl
  simp [Endpoint.base, solidus, api]

/-- Different paths are different addresses. -/
theorem url_inj {p q : Text} : c.url p = c.url q ↔ p = q := by
  constructor
  · intro same
    have letters : (c.url p).letters = (c.url q).letters := congrArg Text.letters same
    rw [url_letters, url_letters] at letters
    have rest : p.letters = q.letters := List.append_cancel_left letters
    cases p
    cases q
    simpa using rest
  · rintro rfl
    rfl

/-- No resource lives at the address of the description. -/
theorem url_ne_description (path : Text) : c.url path ≠ c.describeRequest.url := by
  intro same
  have description : c.describeRequest.url.letters
      = c.endpoint.toList.map .char ++ ('/' :: 'a' :: 'p' :: 'i' :: '_' :: "version".toList).map .char := rfl
  have letters : (c.url path).letters = c.describeRequest.url.letters := congrArg Text.letters same
  rw [url_letters, description, List.append_assoc] at letters
  -- behind the endpoint the addresses go on alike up to the fifth letter
  have rest := List.append_cancel_left letters
  simp at rest

theorem not_open {path : Text} (h : ¬ LoginPath path) : ¬ c.Open (c.url path) := by
  rintro (⟨other, login, same⟩ | same)
  · rw [c.url_inj.mp same] at h
    exact h login
  · exact c.url_ne_description path same

end Client

end Freebox
