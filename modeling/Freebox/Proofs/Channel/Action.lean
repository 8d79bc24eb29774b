import Freebox.Proofs.Envelope.Refusal
import Freebox.Socket

/-!
# `Freebox.Proofs.Channel.Action` — an action on a channel, and what it may end in

An action is handed to a channel, and its reply is looked for among the messages to come. Nearly everything that goes
wrong with it is an error of the box. The exceptions are what is no error of a channel at all, and a refusal whose code
cannot be looked up.

## Contents
- `Channel.next`, `Channel.handed`: a channel that frames are handed to.
- `Channel.transmit_state`, `Channel.sendAction_state`, `Channel.ask_state`: what an action leaves behind.
- `Channel.EndsWaitInFault`, `Channel.WaitEndsInFault`: waits for a reply that end in a fault.
- `Channel.Sendable`: a channel whose sends meet with errors of a channel only.
- `Channel.AskEndsInFault`, `Channel.ask_fault_iff`: exactly when an action ends in a fault.
-/

namespace Freebox

namespace Channel

/-! ## Frames handed over -/

/-- The channel once a frame was handed to it. -/
def next (c : Channel) : Channel := { c with sends := c.sends + 1 }

/-- The effects of handing frames to a channel one after the other. A frame whose send fails is handed over as well. -/
def handed (c : Channel) : List Raw → List Effect
  | [] => []
  | frame :: rest => .send c.number frame (c.failures.lookup (c.sends + 1)).isNone :: c.next.handed rest

theorem transmit_state (frame : Raw) (c : Logged Channel) :
    (transmit frame c).2 = ⟨c.value.next, c.log ++ c.value.handed [frame]⟩ := by
  unfold transmit
  cases h : c.value.failures.lookup (c.value.sends + 1) <;> simp [handed, next, h]

theorem sendAction_state (action : Members) (c : Logged Channel) :
    (sendAction action c).2 = ⟨c.value.next, c.log ++ c.value.handed [.text (Json.obj action).line]⟩ := by
  rw [← transmit_state]
  unfold sendAction
  rcases transmit (.text (Json.obj action).line) c with ⟨e | v, d⟩ <;> rfl

/-- Waiting for a reply takes messages and hands nothing over. -/
theorem ask_state (action : Members) (reply : String) (request : Option Int) (within : Quantity)
    (c : Logged Channel) :
    ∃ inbox, (ask action reply request within c).2
      = ⟨{ c.value.next with inbox }, c.log ++ c.value.handed [.text (Json.obj action).line]⟩ := by
  have sent := sendAction_state action c
  unfold ask
  rcases h : sendAction action c with ⟨e | v, d⟩
  · rw [Attempt.bind_of_error h]
    rw [h] at sent
    exact ⟨c.value.inbox, sent⟩
  · rw [Attempt.bind_of_ok h]
    rw [h] at sent
    obtain rfl : d = _ := sent
    exact ⟨_, rfl⟩

/-! ## Faults -/

/-- An error of a channel is a fault only if it is none of a channel. -/
theorem failureOf_fault_iff (wording : String → NetworkError) (e : SocketError) :
    (∃ f, failureOf wording e = .fault f) ↔ ∃ m, e = .foreign m := by
  cases e <;> simp [failureOf, Failure.ofBox]

theorem lost_fault_iff (action : String) (within : Quantity) (e : SocketError) :
    (∃ f, lost action within e = .fault f) ↔ ∃ m, e = .foreign m := by
  cases e <;> simp [lost, failureOf, Failure.ofBox]

theorem sendAction_fault_iff (action : Members) (c : Logged Channel) :
    (∃ f, (sendAction action c).1 = .error (.fault f)) ↔
      ∃ m, c.value.failures.lookup (c.value.sends + 1) = some (.foreign m) := by
  unfold sendAction transmit
  cases h : c.value.failures.lookup (c.value.sends + 1) with
  | none => simp
  | some e => simpa using failureOf_fault_iff (.action (action.get "action")) e

/-- No send on a channel meets with anything but an error of a channel. -/
def Sendable (c : Channel) : Prop := ∀ n m, c.failures.lookup n ≠ some (.foreign m)

/-- A message is a fault if it reports no success and its code cannot be looked up. -/
theorem accepted_fault_iff (ms : Members) :
    (∃ f, accepted ms = .error (.fault f)) ↔
      ms.get? "success" ≠ some (.bool true) ∧ (ms.get "error_code").isKey = false := by
  by_cases success : ms.get? "success" = some (.bool true)
  · have told : (Envelope.ofMembers ms).success = true := decide_eq_true success
    simp [accepted, told, success]
  · obtain ⟨g, refused, box, -⟩ := accepted_refused success
    rw [refused]
    cases g with
    | box e cause =>
      have key : (ms.get "error_code").isKey = true := box.mp rfl
      simp [key]
    | fault f =>
      have unknown : (ms.get "error_code").isKey = false := by
        rw [← Bool.not_eq_true, ← box]
        simp [Failure.isBox]
      simp [success, unknown]

/-- Something that comes ends the wait for a reply in a fault: what is no error of a channel, or a refusal whose code
cannot be looked up. -/
def EndsWaitInFault (action : String) (request : Option Int) : Incoming → Prop
  | .failure e => ∃ m, e = .foreign m
  | .message m => ∃ ms, decodeMessage m = .ok ms ∧ isReply action request ms = true ∧
      ms.get? "success" ≠ some (.bool true) ∧ (ms.get "error_code").isKey = false

/-- The wait for a reply ends in a fault: after some messages that are passed over, one comes that
ends it so. -/
inductive WaitEndsInFault (action : String) (request : Option Int) : List Incoming → Prop
  | here {i : Incoming} {rest : List Incoming} (h : EndsWaitInFault action request i) :
      WaitEndsInFault action request (i :: rest)
  | behind {i : Incoming} {rest : List Incoming} (passed : PassedOver action request i)
      (h : WaitEndsInFault action request rest) : WaitEndsInFault action request (i :: rest)

/-- The wait for a reply ends in a fault exactly if a message comes that ends it so, by induction on the
messages. -/
theorem findReply_fault_iff (action : String) (request : Option Int) (within : Quantity) (inbox : List Incoming) :
    (∃ f, (findReply action request within inbox).1 = .error (.fault f)) ↔ WaitEndsInFault action request inbox := by
  induction inbox with
  | nil =>
    refine iff_of_false ?_ (by rintro ⟨⟩)
    simp [findReply, lost, failureOf, Failure.ofBox]
  | cons i rest ih =>
    cases i with
    | failure e =>
      have told : (∃ f, (findReply action request within (.failure e :: rest)).1 = .error (.fault f)) ↔
          ∃ m, e = .foreign m := by
        simpa [findReply] using lost_fault_iff action within e
      rw [told]
      refine ⟨fun h => .here h, ?_⟩
      rintro (h | ⟨⟨m, ms, same, -⟩, -⟩)
      · exact h
      · cases same
    | message m =>
      rw [findReply]
      cases decoded : decodeMessage m with
      | error e =>
        refine iff_of_false (by simp [Failure.ofDecoding, Failure.ofBox]) ?_
        rintro (⟨ms, read, -⟩ | ⟨⟨_, ms, same, read, -⟩, -⟩)
        · rw [decoded] at read
          cases read
        · cases same
          rw [decoded] at read
          cases read
      | ok ms =>
        cases answers : isReply action request ms with
        | true =>
          simp only [answers, if_true]
          rw [accepted_fault_iff]
          refine ⟨fun h => .here ⟨ms, decoded, answers, h⟩, ?_⟩
          rintro (⟨ns, read, -, h⟩ | ⟨⟨_, ns, same, read, foreign⟩, -⟩)
          · obtain rfl : ms = ns := Except.ok.inj (decoded.symm.trans read)
            exact h
          · cases same
            obtain rfl : ms = ns := Except.ok.inj (decoded.symm.trans read)
            rw [answers] at foreign
            cases foreign
        | false =>
          -- the message is passed over, so all is decided by the rest
          simp only [answers, Bool.false_eq_true, if_false]
          rw [ih]
          refine ⟨fun h => .behind ⟨m, ms, rfl, decoded, answers⟩ h, ?_⟩
          rintro (⟨ns, read, replies, -⟩ | ⟨-, h⟩)
          · obtain rfl : ms = ns := Except.ok.inj (decoded.symm.trans read)
            rw [answers] at replies
            cases replies
          · exact h

/-- An action on a channel ends in a fault: it is met with what is no error of a channel, or it is sent and the wait for
its reply ends in one. -/
def AskEndsInFault (action : String) (request : Option Int) (c : Channel) : Prop :=
  (∃ m, c.failures.lookup (c.sends + 1) = some (.foreign m)) ∨
    (c.failures.lookup (c.sends + 1) = none ∧ WaitEndsInFault action request c.inbox)

/-- **Exactly when an action ends in a fault.** -/
theorem ask_fault_iff (action : Members) (reply : String) (request : Option Int) (within : Quantity)
    (c : Logged Channel) :
    (∃ f, (ask action reply request within c).1 = .error (.fault f)) ↔ AskEndsInFault reply request c.value := by
  unfold ask AskEndsInFault
  have refused := sendAction_fault_iff action c
  have sent := sendAction_state action c
  cases told : c.value.failures.lookup (c.value.sends + 1) with
  | some e =>
    rcases h : sendAction action c with ⟨f | v, d⟩
    · rw [Attempt.bind_of_error h]
      rw [h, told] at refused
      simpa using refused
    · -- a send that is met with an error does not succeed
      simp [sendAction, transmit, told] at h
  | none =>
    obtain ⟨d, h⟩ : ∃ d, sendAction action c = (.ok (), d) := by simp [sendAction, transmit, told]
    rw [Attempt.bind_of_ok h]
    rw [h] at sent
    have inbox : d.value.inbox = c.value.inbox := by rw [show d = _ from sent]; rfl
    have found := findReply_fault_iff reply request within c.value.inbox
    simp only [awaitReply, inbox]
    simpa using found

end Channel

end Freebox
