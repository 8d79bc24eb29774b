import Freebox.Proofs.Session.Course

/-!
# `Freebox.Proofs.Session.Chronicle` — the moments in the life of a client

A chronicle tells what a client asked for, and when a session was opened, refused or given up. The token that stands at
its end is the one opened last, unless a session was refused or given up since. A chronicle is sound if every token that
was shown stood then and was shown to the box, and every token that was opened was granted by the box.

## Contents
- `Moment`, `askings`: chronicles, and what was asked for in one.
- `Standing`, `standing_snoc`: the token that stands, and what one more moment does to it.
- `Fits`, `Sound`: what every moment of a chronicle must have before it.
-/

namespace Freebox

/-! ## Chronicles -/

/-- A moment in the life of a client: something asked for, a session opened under a token, a handshake that failed with
an error of the box, or a session given up. -/
inductive Moment where
  | asked (a : Asking)
  | opened (token : Text)
  | refused
  | left

namespace Moment

/-- What was asked for at a moment. -/
def asking? : Moment → Option Asking
  | asked a => some a
  | _ => none

end Moment

/-- What was asked for in a chronicle. -/
def askings (h : List Moment) : List Asking := h.filterMap Moment.asking?

section
variable (h : List Moment)

@[simp] theorem askings_nil : askings [] = [] := rfl
@[simp] theorem askings_cons_asked (a : Asking) : askings (.asked a :: h) = a :: askings h := rfl
@[simp] theorem askings_cons_opened (token : Text) : askings (.opened token :: h) = askings h := rfl
@[simp] theorem askings_cons_refused : askings (.refused :: h) = askings h := rfl
@[simp] theorem askings_cons_left : askings (.left :: h) = askings h := rfl

end

@[simp] theorem askings_append (h k : List Moment) : askings (h ++ k) = askings h ++ askings k := List.filterMap_append

@[simp] theorem askings_asked (news : List Asking) : askings (news.map .asked) = news := by
  induction news with
  | nil => rfl
  | cons a news ih => rw [List.map_cons, askings_cons_asked, ih]

/-- The ways to take a list with a last item apart at an item. -/
theorem eq_snoc_split {α : Type} {h before after : List α} {x m : α} (e : h ++ [x] = before ++ m :: after) :
    (before = h ∧ m = x ∧ after = []) ∨ ∃ rest, after = rest ++ [x] ∧ h = before ++ m :: rest := by
  rcases List.eq_nil_or_concat after with rfl | ⟨rest, last, rfl⟩
  · obtain ⟨rfl, same⟩ := List.append_inj' e rfl
    obtain rfl : x = m := by simpa using same
    exact Or.inl ⟨rfl, rfl, rfl⟩
  · have regrouped : h ++ [x] = (before ++ m :: rest) ++ [last] := by simpa using e
    obtain ⟨rfl, same⟩ := List.append_inj' regrouped rfl
    obtain rfl : x = last := by simpa using same
    exact Or.inr ⟨rest, by simp, rfl⟩

/-! ## The token that stands -/

/-- A token stands after a chronicle if it was opened and nothing but askings came since. -/
def Standing (h : List Moment) (token : Text) : Prop :=
  ∃ earlier later, h = earlier ++ .opened token :: later ∧ ∀ m ∈ later, ∃ a, m = .asked a

theorem not_standing_nil (token : Text) : ¬ Standing [] token := by
  rintro ⟨earlier, later, e, -⟩
  simp at e

/-- One more moment: what stood before still stands if something was asked for, and not otherwise. -/
theorem standing_snoc {h : List Moment} {m : Moment} {token : Text} :
    Standing (h ++ [m]) token ↔ m = .opened token ∨ ((∃ a, m = .asked a) ∧ Standing h token) := by
  constructor
  · -- the opening that stands is the last moment, or it is further back and the last moment came after it
    rintro ⟨earlier, later, e, quiet⟩
    rcases eq_snoc_split e with ⟨-, rfl, -⟩ | ⟨rest, rfl, rfl⟩
    · exact Or.inl rfl
    · exact Or.inr ⟨quiet m (by simp), earlier, rest, rfl, fun x hx => quiet x (by simp [hx])⟩
  · rintro (rfl | ⟨asking, earlier, later, rfl, quiet⟩)
    · exact ⟨h, [], rfl, by simp⟩
    · refine ⟨earlier, later ++ [m], by simp, fun x hx => ?_⟩
      rcases List.mem_append.mp hx with old | new
      · exact quiet x old
      · rw [List.mem_singleton.mp new]
        exact asking

section
variable {h : List Moment} {token : Text}

@[simp] theorem standing_asked {a : Asking} : Standing (h ++ [.asked a]) token ↔ Standing h token := by
  simp [standing_snoc]

@[simp] theorem standing_opened {fresh : Text} : Standing (h ++ [.opened fresh]) token ↔ fresh = token := by
  simp [standing_snoc]

@[simp] theorem not_standing_refused : ¬ Standing (h ++ [.refused]) token := by simp [standing_snoc]

@[simp] theorem not_standing_left : ¬ Standing (h ++ [.left]) token := by simp [standing_snoc]

/-- Askings leave the token that stands. -/
@[simp] theorem standing_askings (news : List Asking) :
    Standing (h ++ news.map .asked) token ↔ Standing h token := by
  induction news generalizing h with
  | nil => simp
  | cons a news ih =>
    have one := ih (h := h ++ [.asked a])
    simpa using one

end

/-! ## Sound chronicles -/

/-- An asking is for something under an address: a resource, or a channel by the scheme of channels. -/
def Asking.Under (base : String) : Asking → Prop
  | request r => ∃ path : Text, r.url = base ++ "/" ++ path
  | channel url _ _ => ∃ path : String, url = Endpoint.channel (base ++ "/" ++ path)

/-- A token is granted after a chronicle: a challenge and an exchange were asked for last, and the reply that the other
side has for the exchange tells the token. -/
def Granted (base : String) (peer : Peer) (before : List Moment) (token : Text) : Prop :=
  ∃ (earlier : List Moment) (c : Client) (appId word : String) (permissions : Record),
    c.base = base ∧
    before = earlier ++ [.asked (.request c.challengeRequest), .asked (.request (c.exchangeRequest appId word))] ∧
    let requests := (askings earlier ++ [Asking.request c.challengeRequest]).filterMap Asking.request?
    let answered := peer.reply requests (c.exchangeRequest appId word)
    (answered.envelope (c.exchangeRequest appId word)).bind Envelope.opening = .ok (token, permissions)

/-- What must have come before a moment: a token that is shown stands, and is shown under the address of the box; a
token that is opened was granted. -/
def Fits (base : String) (peer : Peer) (before : List Moment) : Moment → Prop
  | .asked a => ∀ token ∈ a.tokens, a.Under base ∧ Standing before token
  | .opened token => Granted base peer before token
  | _ => True

/-- Every moment of a chronicle fits what came before it. -/
def Sound (base : String) (peer : Peer) (h : List Moment) : Prop :=
  ∀ before m after, h = before ++ m :: after → Fits base peer before m

namespace Sound

variable {base : String} {peer : Peer} {h : List Moment}

theorem nil : Sound base peer [] := by
  intro before m after e
  simp at e

theorem snoc {m : Moment} (sound : Sound base peer h) (fits : Fits base peer h m) : Sound base peer (h ++ [m]) := by
  intro before x after e
  rcases eq_snoc_split e with ⟨rfl, rfl, -⟩ | ⟨rest, -, rfl⟩
  · exact fits
  · exact sound before x rest rfl

/-- Askings that show no token fit anywhere. -/
theorem askings (sound : Sound base peer h) {news : List Asking} (untold : ∀ a ∈ news, a.tokens = []) :
    Sound base peer (h ++ news.map .asked) := by
  induction news generalizing h with
  | nil => simpa using sound
  | cons a news ih =>
    have first : Fits base peer h (.asked a) := by
      intro token shown
      rw [untold a (by simp)] at shown
      simp at shown
    have rest := ih (sound.snoc first) fun b hb => untold b (by simp [hb])
    simpa using rest

end Sound

end Freebox
