import Freebox.Proofs.Attempt.Guarantee
import Freebox.Proofs.Stream.Delivery

/-!
# `Freebox.Proofs.Stream.Release` — the channel of a stream that is closed

To close a stream closes its channel, once. But a stream closes itself when its channel ends, and it does so without
closing the channel; to close the stream afterwards does nothing more. So the channel is closed exactly if the stream
is left before its end.

## Contents
- `EventStream.close_log`: what closing adds to the log.
- `EventStream.collect_calls`: reading on to the end is some calls.
- `EventStream.releases_unless_ended`: the channel of a stream that is closed, or left by a block.
- `EventStream.ended_unreleased`: the channel of a stream that has ended.
-/

namespace Freebox.EventStream

/-! ## Closing -/

/-- Closing after some looks: the channel is closed unless the stream has ended. -/
theorem close_log (s : Logged EventStream) (rest : List Incoming) (ended : Bool) :
    (close (looked s rest ended)).2.log = s.log ++ if ended then [] else [s.value.channel.close] := by
  cases ended
  · rfl
  · exact (List.append_nil s.log).symm

theorem close_again {s : Logged EventStream} (ended : s.value.closed = true) : close s = (.ok (), s) := by
  unfold close
  rw [Attempt.update_apply, if_pos ended]

/-! ## Reading on -/

theorem calls_succ (n : Nat) (s : Logged EventStream) : (calls (n + 1) s).2 = (calls n (next s).2).2 := rfl

/-- Reading on to the end, or up to a failure, is a number of calls. -/
theorem collect_calls (n : Nat) (s : Logged EventStream) : ∃ k, (collect n s).2 = (calls k s).2 := by
  induction n generalizing s with
  | zero => exact ⟨0, rfl⟩
  | succ n ih =>
    rcases called : next s with ⟨e | (- | r), t⟩
    · -- a failure is told, and there is no further call
      exact ⟨1, by rw [calls_succ, called, collect, Attempt.bind_of_error called]; rfl⟩
    · exact ⟨1, by rw [calls_succ, called, collect, Attempt.bind_of_ok called]; rfl⟩
    · obtain ⟨k, reached⟩ := ih t
      refine ⟨k + 1, ?_⟩
      rw [calls_succ, called, collect, Attempt.bind_of_ok called]
      exact (Attempt.map_state (collect n) (r :: ·) t).trans reached

/-- A block that reads on to the end is a number of calls, and then closes the stream. -/
theorem drain_calls (s : Logged EventStream) : ∃ k, (drain s).2 = (close (calls k s).2).2 := by
  obtain ⟨k, reached⟩ := collect_calls (s.value.channel.inbox.length + 1) s
  refine ⟨k, ?_⟩
  rw [← reached]
  rfl

/-! ## Release -/

/-- **The channel of a closed stream.** A stream is asked any number of times and then closed. If no call was told of
the end of the channel, the channel has been closed exactly once by then; if one was, it is not closed at all. Closing
never fails, and behind it neither calls nor another closing do anything. A block that reads on is some calls and a
closing. -/
theorem releases_unless_ended (channel : Channel) (log : List Effect) (n : Nat) :
    let start : Logged EventStream := ⟨{ channel }, log⟩
    let told := (calls n start).1
    let left := (close (calls n start).2).2
    (close (calls n start).2).1 = .ok () ∧
      ((∀ t ∈ told, ¬ IsEnd t) → left.log = log ++ [channel.close]) ∧
      ((∃ t ∈ told, IsEnd t) → left.log = log) ∧
      (∀ k, (calls k left).2 = left ∧ close left = (.ok (), left)) ∧
      ∃ k, (drain start).2 = (close (calls k start).2).2 := by
  intro start told left
  have going : start.value.closed = false := rfl
  obtain ⟨taken, rest, ended, -, state, -, -, ended_iff⟩ := calls_open going n
  have logged : left.log = log ++ if ended then [] else [channel.close] := by
    show (close (calls n start).2).2.log = _
    rw [state]
    exact close_log start rest ended
  have closed : left.value.closed = true := close_closed _
  refine ⟨rfl, fun unended => ?_, fun told_end => ?_, fun k => ⟨?_, close_again closed⟩, drain_calls start⟩
  · have goes_on : ended = false := by
      rw [← Bool.not_eq_true, ended_iff]
      rintro ⟨t, here, isEnd⟩
      exact unended t here isEnd
    rw [logged, goes_on]
    rfl
  · rw [logged, ended_iff.mpr told_end]
    exact List.append_nil log
  · rw [calls_closed closed]

/-- A stream whose channel was closed normally by the box, and that is closed then: its channel is not. -/
theorem ended_unreleased :
    let start : Logged EventStream := ⟨{ channel := { number := 1, inbox := [.failure .closedNormally] } }, []⟩
    (calls 1 start).1 = [.ok none] ∧ (close (calls 1 start).2).1 = .ok () ∧
      (Effect.close 1) ∉ (close (calls 1 start).2).2.log := by
  intro start
  refine ⟨rfl, rfl, ?_⟩
  decide

end Freebox.EventStream
